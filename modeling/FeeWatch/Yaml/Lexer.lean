import FeeWatch.Yaml.Plain
import FeeWatch.Yaml.Tag

/-! Splitting a YAML text into tokens.

Indentation is turned into tokens that open and close collections. A key may stand
without a mark: where a token could be such a key its place is remembered, and when
a colon follows on the same line, the tokens of a key are put in before it.

Tokens are split off only when they are asked for, so that the first thing that is
wrong with a text is the one that is found. A token that may still turn out to be a
key is not given out before that is settled. -/
namespace FeeWatch.Yaml

/-- The place of a token that may turn out to be a key. -/
structure KeyPlace where
  /-- How many tokens come before. -/
  number : Nat
  /-- Whether it must turn out to be a key. -/
  required : Bool
  index : Nat
  line : Nat
  column : Nat
deriving Repr, Inhabited

/-- A text that is being split. -/
structure Lexer where
  cursor : Cursor
  /-- How many brackets are open. -/
  flow : Nat
  indent : Int
  indents : List Int
  /-- Whether a token here may be a key. -/
  keyAllowed : Bool
  /-- Places of possible keys, by the number of brackets open there. -/
  keys : List (Nat × KeyPlace)
  /-- The tokens that were split off and not yet taken, first to last. -/
  pending : List Token
  /-- How many tokens were taken. -/
  taken : Nat
  /-- Whether the end of the text was reached. -/
  ended : Bool
  /-- How many characters the text has. -/
  size : Nat
  /-- Where the text has a part that cannot be read, if it has one. -/
  barrier : Option Nat
deriving Repr, Inhabited

namespace Lexer

/-- Before the first token, which starts at a place. -/
def start (c : Cursor) (barrier : Option Nat) : Lexer :=
  ⟨c, 0, -1, [], true, [], [], 0, false, c.rest.length, barrier⟩

def push (l : Lexer) (t : Token) : Lexer := { l with pending := l.pending ++ [t] }

/-- How many tokens there were so far. -/
def count (l : Lexer) : Nat := l.taken + l.pending.length

/-- Puts a token before the last ones, after a number of tokens. -/
def insertAt (l : Lexer) (number : Nat) (t : Token) : Lexer :=
  let earlier := number - l.taken
  { l with pending := l.pending.take earlier ++ t :: l.pending.drop earlier }

/-- Whether brackets are open. -/
def inFlow (l : Lexer) : Bool := l.flow != 0

/-- The column of the next character. -/
def column (l : Lexer) : Int := l.cursor.column

/-! ### Keys -/

/-- Forgets a possible key of this level, which must not be a required one. -/
def dropKey (l : Lexer) : Except Fault Lexer :=
  match l.keys.lookup l.flow with
  | none => .ok l
  | some k =>
    if k.required then .error .malformed
    else .ok { l with keys := l.keys.filter (·.1 != l.flow) }

/-- Whether a key can no longer be one: its colon must come on its line, and soon. -/
def isStale (l : Lexer) (k : KeyPlace) : Bool :=
  k.line != l.cursor.line || k.index + 1024 < l.cursor.index

/-- Forgets the keys that can no longer be ones. -/
def dropStale (l : Lexer) : Except Fault Lexer :=
  if l.keys.any fun (_, k) => l.isStale k && k.required then .error .malformed
  else .ok { l with keys := l.keys.filter fun (_, k) => !l.isStale k }

/-- Remembers the next token as a possible key. -/
def saveKey (l : Lexer) : Except Fault Lexer :=
  if l.keyAllowed then do
    let required := !l.inFlow && l.indent == l.column
    let l ← l.dropKey
    let c := l.cursor
    .ok { l with keys := (l.flow, ⟨l.count, required, c.index, c.line, c.column⟩) :: l.keys }
  else .ok l

/-! ### Indentation -/

/-- Closes the collections that are indented more than a column. -/
def unwindFrom (column : Int) : List Int → Lexer → Lexer
  | [], l => l
  | i :: rest, l =>
    if column < l.indent then
      unwindFrom column rest ({ l with indent := i, indents := rest }.push .blockEnd)
    else l

/-- Closes the collections that are indented more than a column, outside brackets. -/
def unwind (l : Lexer) (column : Int) : Lexer :=
  if l.inFlow then l else unwindFrom column l.indents l

/-- Indents to a column; the flag tells whether this opens a collection. -/
def addIndent (l : Lexer) (column : Int) : Lexer × Bool :=
  if l.indent < column then ({ l with indents := l.indent :: l.indents, indent := column }, true)
  else (l, false)

/-- Opens a collection at a column if it is indented more than the one around it. -/
def openAt (l : Lexer) (column : Int) (t : Token) : Lexer :=
  match l.addIndent column with
  | (l, true) => l.push t
  | (l, false) => l

/-! ### Tokens -/

/-- Skips spaces, comments and ends of lines. -/
def skipGap : Nat → Lexer → Lexer
  | 0, l => l
  | fuel + 1, l =>
    let c := (l.cursor.skip (· == ' ')).skipComment
    match c.lineBreak with
    | ([], c) => { l with cursor := c }
    | (_, c) => skipGap fuel { l with cursor := c, keyAllowed := l.keyAllowed || !l.inFlow }

/-- One character as a token. -/
def single (l : Lexer) (t : Token) : Lexer := { l with cursor := l.cursor.step }.push t

def documentMark (l : Lexer) (t : Token) : Except Fault Lexer := do
  let l ← (l.unwind (-1)).dropKey
  .ok ({ l with keyAllowed := false, cursor := l.cursor.forward 3 }.push t)

/-- The end of the text. -/
def finish (l : Lexer) : Except Fault Lexer := do
  let l ← (l.unwind (-1)).dropKey
  .ok ({ l with keyAllowed := false, keys := [], ended := true }.push .streamEnd)

def lexDirective (l : Lexer) : Except Fault Lexer := do
  let l ← (l.unwind (-1)).dropKey
  let (t, c) ← directive l.cursor.step
  .ok ({ l with keyAllowed := false, cursor := c }.push t)

/-- An opening bracket. -/
def openFlow (l : Lexer) (t : Token) : Except Fault Lexer := do
  let l ← l.saveKey
  .ok ({ l with flow := l.flow + 1, keyAllowed := true }.single t)

/-- A closing bracket; one that was never opened is refused. -/
def closeFlow (l : Lexer) (t : Token) : Except Fault Lexer := do
  let l ← l.dropKey
  if l.flow = 0 then .error .malformed
  else .ok ({ l with flow := l.flow - 1, keyAllowed := false }.single t)

/-- A comma. -/
def flowEntry (l : Lexer) : Except Fault Lexer := do
  let l ← { l with keyAllowed := true }.dropKey
  .ok (l.single .flowEntry)

/-- Refuses a mark where no key is allowed. -/
def allowed (l : Lexer) : Except Fault Unit :=
  if l.inFlow || l.keyAllowed then .ok () else .error .malformed

/-- The mark of an item. -/
def blockEntry (l : Lexer) : Except Fault Lexer := do
  l.allowed
  let l := if l.inFlow then l else l.openAt l.column .listStart
  let l ← { l with keyAllowed := true }.dropKey
  .ok (l.single .blockEntry)

def keyMark (l : Lexer) : Except Fault Lexer := do
  l.allowed
  let l := if l.inFlow then l else l.openAt l.column .mapStart
  let l ← { l with keyAllowed := !l.inFlow }.dropKey
  .ok (l.single .key)

/-- The mark of a value after a key without a mark. -/
def valueOf (l : Lexer) (k : KeyPlace) : Lexer :=
  let l := { l with keys := l.keys.filter (·.1 != l.flow), keyAllowed := false }
  let l := l.insertAt k.number .key
  if l.inFlow then l.single .value
  else
    match l.addIndent k.column with
    | (l, true) => (l.insertAt k.number .mapStart).single .value
    | (l, false) => l.single .value

def valueMark (l : Lexer) : Except Fault Lexer :=
  match l.keys.lookup l.flow with
  | some k => .ok (l.valueOf k)
  | none => do
    l.allowed
    let l := if l.inFlow then l else l.openAt l.column .mapStart
    let l ← { l with keyAllowed := !l.inFlow }.dropKey
    .ok (l.single .value)

/-- A token that may be a key, read by `read` from the cursor. -/
def keyable (l : Lexer) (read : Cursor → Except Fault (Token × Cursor)) :
    Except Fault Lexer := do
  let l ← l.saveKey
  let (t, c) ← read l.cursor
  .ok ({ l with keyAllowed := false, cursor := c }.push t)

def lexBlock (l : Lexer) (folded : Bool) : Except Fault Lexer := do
  let l ← { l with keyAllowed := true }.dropKey
  let (text, c) ← blockScalar folded l.indent l.cursor
  .ok ({ l with cursor := c }.push (.scalar false (String.ofList text)))

/-- A plain scalar; after the end of a line the next token may be a key. -/
def lexPlain (l : Lexer) : Except Fault Lexer := do
  let l ← l.saveKey
  let (text, ended, c) := plainScalar l.inFlow l.indent l.cursor
  .ok ({ l with keyAllowed := ended, cursor := c }.push (.scalar true (String.ofList text)))

def lexQuoted (l : Lexer) (double : Bool) : Except Fault Lexer :=
  l.keyable fun c => (quotedScalar double c).map fun (text, c) =>
    (.scalar false (String.ofList text), c)

/-- Whether a mark is followed by a blank, or stands in brackets. -/
def isMarked (l : Lexer) : Bool := l.inFlow || isSpace (l.cursor.peekAt 1)

/-- The token that starts with a character. -/
def token (l : Lexer) (x : Char) : Except Fault Lexer :=
  let c := l.cursor
  if x == '%' && c.column == 0 then l.lexDirective
  else if c.column == 0 && c.isMark '-' then l.documentMark .documentStart
  else if c.column == 0 && c.isMark '.' then l.documentMark .documentEnd
  else if x == '[' then l.openFlow .flowListStart
  else if x == '{' then l.openFlow .flowMapStart
  else if x == ']' then l.closeFlow .flowListEnd
  else if x == '}' then l.closeFlow .flowMapEnd
  else if x == ',' then l.flowEntry
  else if x == '-' && isSpace (c.peekAt 1) then l.blockEntry
  else if x == '?' && l.isMarked then l.keyMark
  else if x == ':' && l.isMarked then l.valueMark
  else if x == '*' then
    l.keyable fun c => (anchorName c.step).map fun (name, c) => (.alias name, c)
  else if x == '&' then
    l.keyable fun c => (anchorName c.step).map fun (name, c) => (.anchor name, c)
  else if x == '!' then l.keyable tag
  else if x == '|' && !l.inFlow then l.lexBlock false
  else if x == '>' && !l.inFlow then l.lexBlock true
  else if x == Text.apostrophe then l.lexQuoted false
  else if x == '"' then l.lexQuoted true
  else if startsPlain l.inFlow c then l.lexPlain
  else .error .malformed

/-! ### Taking tokens -/

/-- Splits off the next token, with those that come before it. -/
def fetch (l : Lexer) : Except Fault Lexer := do
  if l.barrier.any (· ≤ l.cursor.index + 1) then .error .malformed
  let l := skipGap (l.size + 1) l
  let l ← l.dropStale
  let l := l.unwind l.column
  match l.cursor.peek with
  | none => l.finish
  | some x => l.token x

/-- Splits off tokens until the next one is settled. -/
def settle : Nat → Lexer → Except Fault Lexer
  | 0, l => .ok l
  | fuel + 1, l =>
    if l.ended then .ok l
    else if l.pending.isEmpty then l.fetch.bind (settle fuel)
    else do
      let l ← l.dropStale
      if l.keys.any fun (_, k) => k.number == l.taken then l.fetch.bind (settle fuel) else .ok l

/-- The next token, and the text after it was settled. -/
def peek (l : Lexer) : Except Fault (Token × Lexer) :=
  (l.settle (l.size + 2)).map fun l => (l.pending.head?.getD .streamEnd, l)

/-- Takes the next token, which was settled. -/
def drop (l : Lexer) : Lexer :=
  match l.pending with
  | [] => l
  | _ :: rest => { l with pending := rest, taken := l.taken + 1 }

end Lexer

/-! ### Texts -/

/-- Whether a character may stand in a YAML text. -/
def isAccepted (c : Char) : Bool :=
  let n := c.toNat
  n == 9 || n == 10 || n == 13 || (0x20 ≤ n && n ≤ 0x7e) || n == 0x85 ||
    (0xa0 ≤ n && n ≤ 0xfffd) || 0x10000 ≤ n

/-- The length of the parts in which a text is looked at. -/
def partLength : Nat := 4096

/-- Where the part starts that holds the first character which may not stand in a text. The first
two parts are looked at together. -/
def barrier? (cs : List Char) : Option Nat :=
  (cs.findIdx? fun c => !isAccepted c).map fun i =>
    if i < 2 * partLength then 0 else i / partLength * partLength

/-- A text before its first token. A byte order mark in front does not count. -/
def Lexer.ofText (cs : List Char) : Lexer :=
  let c := Cursor.start cs
  .start (if c.peek.any fun x => x.toNat == 0xfeff then c.step else c) (barrier? cs)

end FeeWatch.Yaml
