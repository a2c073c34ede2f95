import FeeWatch.Datum.Text

/-! Writing data as JSON.

Items are joined by `", "` and keys by `": "`. A text may be written in ASCII
alone, where every other character becomes the escapes of its sixteen-bit units,
or with only quotes, backslashes and control characters escaped. Doubles keep
their shortest text, and the infinite ones and not-a-number get words of their
own. -/
namespace FeeWatch.Json

/-- Which characters of a text are escaped. -/
inductive Charset where
  /-- All characters outside printable ASCII. -/
  | ascii
  /-- Control characters below the space. -/
  | unicode
deriving DecidableEq, Repr

/-- A sixteen-bit unit as an escape. -/
def unitEscape (n : Nat) : List Char := '\\' :: 'u' :: Text.hex 4 n

/-- The escapes of a character's sixteen-bit units. -/
def unitEscapes (c : Char) : List Char :=
  let n := c.toNat
  if n < 0x10000 then unitEscape n
  else unitEscape (0xd800 + (n - 0x10000) / 0x400) ++ unitEscape (0xdc00 + (n - 0x10000) % 0x400)

/-- One character between quotes. -/
def escapeChar (charset : Charset) (c : Char) : List Char :=
  if c = '"' then ['\\', '"']
  else if c = '\\' then ['\\', '\\']
  else if c = '\n' then ['\\', 'n']
  else if c = '\r' then ['\\', 'r']
  else if c = '\t' then ['\\', 't']
  else if c.toNat = 8 then ['\\', 'b']
  else if c.toNat = 12 then ['\\', 'f']
  else if c.toNat < 0x20 then unitEscape c.toNat
  else if charset = .ascii ∧ 0x7f ≤ c.toNat then unitEscapes c
  else [c]

/-- A text between quotes. -/
def quote (charset : Charset) (s : String) : List Char :=
  '"' :: s.toList.flatMap (escapeChar charset) ++ ['"']

/-- A double. -/
def floatText : Number.Binary → String
  | .nan => "NaN"
  | .infinite s => if s then "-Infinity" else "Infinity"
  | x => x.text

/-- A scalar; days, times and bytes, which JSON has no form for, are written as texts. -/
def scalar (charset : Charset) : Scalar → List Char
  | .null => "null".toList
  | .bool b => (if b then "true" else "false").toList
  | .int n => (toString n).toList
  | .float x => (floatText x).toList
  | s => quote charset s.written

/-- A key; keys of other kinds are written as texts. -/
def key (charset : Charset) : Scalar → List Char
  | .text s => quote charset s
  | .bool b => quote charset (if b then "true" else "false")
  | .null => quote charset "null"
  | .float x => quote charset (floatText x)
  | s => quote charset s.written

/-- Texts with a separator between them. -/
def joined (separator : List Char) : List (List Char) → List Char
  | [] => []
  | [p] => p
  | p :: rest => p ++ separator ++ joined separator rest

/-! ### On one line -/

mutual

/-- A datum on one line. -/
def inline (charset : Charset) : Datum → List Char
  | .scalar s => scalar charset s
  | .list items => '[' :: joined [',', ' '] (inlineItems charset items) ++ [']']
  | .map entries => '{' :: joined [',', ' '] (inlineEntries charset entries) ++ ['}']
  | .set members => '[' :: joined [',', ' '] (members.map (scalar charset)) ++ [']']
  | .pair first second =>
    '[' :: inline charset first ++ ',' :: ' ' :: inline charset second ++ [']']
  | .again _ => scalar charset .null

def inlineItems (charset : Charset) : List Datum → List (List Char)
  | [] => []
  | d :: rest => inline charset d :: inlineItems charset rest

def inlineEntries (charset : Charset) : List (Scalar × Datum) → List (List Char)
  | [] => []
  | (k, v) :: rest =>
    (key charset k ++ ':' :: ' ' :: inline charset v) :: inlineEntries charset rest

end

def write (charset : Charset) (d : Datum) : String := String.ofList (inline charset d)

/-! ### On several lines -/

/-- Parts on lines of their own, two blanks deeper than the brackets around them. -/
def block (depth : Nat) (opening closing : Char) : List (List Char) → List Char
  | [] => [opening, closing]
  | parts =>
    let line := '\n' :: List.replicate (2 * (depth + 1)) ' '
    opening :: line ++ joined (',' :: line) parts ++
      '\n' :: List.replicate (2 * depth) ' ' ++ [closing]

mutual

/-- A datum with one item or entry a line. -/
def indented (depth : Nat) : Datum → List Char
  | .scalar s => scalar .ascii s
  | .list items => block depth '[' ']' (indentedItems (depth + 1) items)
  | .map entries => block depth '{' '}' (indentedEntries (depth + 1) entries)
  | .set members => block depth '[' ']' (members.map (scalar .ascii))
  | .pair first second =>
    block depth '[' ']' [indented (depth + 1) first, indented (depth + 1) second]
  | .again _ => scalar .ascii .null

def indentedItems (depth : Nat) : List Datum → List (List Char)
  | [] => []
  | d :: rest => indented depth d :: indentedItems depth rest

def indentedEntries (depth : Nat) : List (Scalar × Datum) → List (List Char)
  | [] => []
  | (k, v) :: rest =>
    (key .ascii k ++ ':' :: ' ' :: indented depth v) :: indentedEntries depth rest

end

/-- A datum as ASCII JSON, one item or entry a line. -/
def writeIndented (d : Datum) : String := String.ofList (indented 0 d)

end FeeWatch.Json
