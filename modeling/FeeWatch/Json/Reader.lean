import FeeWatch.Datum.Basic
import FeeWatch.Number.Reading

/-! Reading JSON.

The reader takes the remaining characters and returns a datum with what follows
it; a failure keeps the characters from the bad place on, from which the place is
counted. Of equal keys the first place and the last value count. Besides JSON
proper, the words for infinities and not-a-number are read, and a number too
great for a double is infinite. -/
namespace FeeWatch.Json

open FeeWatch.Number (Binary)

/-- What a text lacks to be JSON. -/
inductive Problem where
  | value
  | propertyName
  | colon
  | comma
  | unterminated
  | control
  | escape
  | unitEscape
  | extra
  | byteOrderMark
deriving DecidableEq, Repr, Inhabited

def Problem.message : Problem → String
  | .value => "Expecting value"
  | .propertyName => "Expecting property name enclosed in double quotes"
  | .colon => s!"Expecting {Text.quoted colon} delimiter"
  | .comma => s!"Expecting {Text.quoted comma} delimiter"
  | .unterminated => "Unterminated string starting at"
  | .control => "Invalid control character at"
  | .escape => "Invalid \\escape"
  | .unitEscape => "Invalid \\uXXXX escape"
  | .extra => "Extra data"
  | .byteOrderMark => "Unexpected UTF-8 BOM (decode using utf-8-sig)"
where
  colon : String := ":"
  comma : String := ","

/-- Why a text is not read. -/
inductive Fault where
  /-- A problem at a place, counted in characters from zero, and its line and column from one. -/
  | place (problem : Problem) (line column position : Nat)
  /-- A number of too many digits. -/
  | number (f : Number.Fault)
  /-- Collections lie within too many others. -/
  | tooDeep (isMap : Bool)
deriving DecidableEq, Repr, Inhabited

def Fault.message : Fault → String
  | .place problem line column position =>
    s!"{problem.message}: line {line} column {column} (char {position})"
  | .number f => f.message
  | .tooDeep isMap =>
    let kind := if isMap then "object" else "array"
    s!"maximum recursion depth exceeded while decoding a JSON {kind} from a unicode string"

/-- Where reading stopped: the characters from the bad place on. -/
inductive Stop where
  | before (problem : Problem) (rest : List Char)
  | number (f : Number.Fault)
  | tooDeep (isMap : Bool)

/-- What was read, and the characters after it. -/
abbrev Result (α : Type) := Except Stop (α × List Char)

/-- Blanks between the parts of a text. -/
def isGap (c : Char) : Bool := c == ' ' || c == '\t' || c == '\n' || c == '\r'

/-- Drops the blanks in front. -/
def skip (cs : List Char) : List Char := cs.dropWhile isGap

/-! ### Texts -/

/-- The value of a hexadecimal digit. -/
def hexValue? (c : Char) : Option Nat :=
  let n := c.toNat
  if c.isDigit then some (n - 0x30)
  else if 0x61 ≤ n ∧ n ≤ 0x66 then some (n - 0x57)
  else if 0x41 ≤ n ∧ n ≤ 0x46 then some (n - 0x37)
  else none

/-- The number of four hexadecimal digits. -/
def unit? (a b c d : Char) : Option Nat := do
  some ((((← hexValue? a) * 16 + (← hexValue? b)) * 16 + (← hexValue? c)) * 16 + (← hexValue? d))

/-- The character that a single letter after a backslash stands for. -/
def escaped? (c : Char) : Option Char :=
  match c with
  | '"' => some '"'
  | '\\' => some '\\'
  | '/' => some '/'
  | 'b' => some (Char.ofNat 8)
  | 'f' => some (Char.ofNat 12)
  | 'n' => some '\n'
  | 'r' => some '\r'
  | 't' => some '\t'
  | _ => none

/-- Whether a unit starts a pair of units that stand for one character. -/
def isHigh (n : Nat) : Bool := 0xd800 ≤ n && n < 0xdc00

/-- Whether a unit ends such a pair. -/
def isLow (n : Nat) : Bool := 0xdc00 ≤ n && n < 0xe000

/-- The character of a unit. Half of a pair alone, which no text here can hold, becomes the
replacement character. -/
def unitChar (n : Nat) : Char := if isHigh n || isLow n then Char.ofNat 0xfffd else Char.ofNat n

/-- The character that a pair of units stands for. -/
def pairChar (high low : Nat) : Char :=
  Char.ofNat (0x10000 + (high - 0xd800) * 0x400 + (low - 0xdc00))

/-- A text after its opening quote. `start` is kept for a text that does not end; `done` holds
the characters read so far, last first. -/
def textFrom (start : List Char) (done : List Char) : List Char → Result String
  | [] => .error (.before .unterminated start)
  | '"' :: rest => .ok (String.ofList done.reverse, rest)
  | '\\' :: 'u' :: a :: b :: c :: d :: more =>
    let bad := Except.error (Stop.before .unitEscape ('u' :: a :: b :: c :: d :: more))
    if more.isEmpty then bad
    else match unit? a b c d, more with
      | none, _ => bad
      | some high, '\\' :: 'u' :: e :: f :: g :: h :: after =>
        if isHigh high && !after.isEmpty then
          match unit? e f g h with
          | none => .error (.before .unitEscape ('u' :: e :: f :: g :: h :: after))
          | some low =>
            if isLow low then textFrom start (pairChar high low :: done) after
            else textFrom start (unitChar high :: done) ('\\' :: 'u' :: e :: f :: g :: h :: after)
        else textFrom start (unitChar high :: done) ('\\' :: 'u' :: e :: f :: g :: h :: after)
      | some n, more => textFrom start (unitChar n :: done) more
  | '\\' :: 'u' :: rest => .error (.before .unitEscape ('u' :: rest))
  | ['\\'] => .error (.before .unterminated start)
  | '\\' :: c :: rest =>
    match escaped? c with
    | some x => textFrom start (x :: done) rest
    | none => .error (.before .escape ('\\' :: c :: rest))
  | c :: rest =>
    if c.toNat < 0x20 then .error (.before .control (c :: rest))
    else textFrom start (c :: done) rest
termination_by cs => cs.length

/-- A text after its opening quote. -/
def readText (rest : List Char) : Result String := textFrom ('"' :: rest) [] rest

/-! ### Numbers -/

/-- A run of digits and what follows it. -/
def digits (cs : List Char) : List Char × List Char := cs.span Char.isDigit

/-- A fraction, if a point and a digit follow. -/
def fraction (cs : List Char) : List Char × List Char :=
  match cs with
  | '.' :: rest => if (digits rest).1.isEmpty then ([], cs) else digits rest
  | _ => ([], cs)

/-- An exponent, if its letter and a digit follow. -/
def exponent (cs : List Char) : Option Int × List Char :=
  match cs with
  | e :: rest =>
    if e == 'e' || e == 'E' then
      let (negative, body) := Number.splitSign rest
      let (run, after) := digits body
      if run.isEmpty then (none, cs)
      else (some (Binary.signed negative (Text.digitsValue run)), after)
    else (none, cs)
  | [] => (none, cs)

/-- The digits of a number before its point: no zero comes before others. -/
def wholePart (cs : List Char) : List Char × List Char :=
  match cs with
  | '0' :: rest => (['0'], rest)
  | cs => digits cs

/-- A number; `cs` starts at its sign. -/
def readNumber (cs : List Char) : Result Datum :=
  let (negative, body) := match cs with
    | '-' :: rest => (true, rest)
    | rest => (false, rest)
  let (whole, rest) := wholePart body
  if whole.isEmpty then .error (.before .value cs)
  else
    let (part, rest) := fraction rest
    let (power, rest) := exponent rest
    if part.isEmpty && power.isNone then
      if Number.digitLimit < whole.length then .error (.number (.tooLong whole.length))
      else .ok (.int (Binary.signed negative (Text.digitsValue whole)), rest)
    else
      let n := Text.digitsValue (whole ++ part)
      .ok (.float (Binary.ofDecimal negative n (power.getD 0 - part.length)), rest)

/-! ### Values -/

/-- What follows a word, if the word comes first. -/
def afterWord (word : List Char) (cs : List Char) : Option (List Char) :=
  if word.isPrefixOf cs then some (cs.drop word.length) else none

def words : List (List Char × Datum) := [
  ("null".toList, .null), ("true".toList, .bool true), ("false".toList, .bool false),
  ("NaN".toList, .float .nan), ("Infinity".toList, .float (.infinite false)),
  ("-Infinity".toList, .float (.infinite true))]

/-- A word or a number. -/
def readScalar (cs : List Char) : Result Datum :=
  match words.findSome? fun (word, d) => (afterWord word cs).map fun rest => (d, rest) with
  | some found => .ok found
  | none => readNumber cs

/-- A key, up to the start of its value. -/
def readKey (cs : List Char) : Result String :=
  match cs with
  | '"' :: rest =>
    match readText rest with
    | .error stop => .error stop
    | .ok (key, rest) =>
      match skip rest with
      | ':' :: rest => .ok (key, skip rest)
      | rest => .error (.before .colon rest)
  | cs => .error (.before .propertyName cs)

/-- How many collections may lie within each other. -/
def depthLimit : Nat := 985

mutual

/-- A value. `room` tells how many collections it may still open within each other. The fuel
bounds the number of parts; the length of the text is enough of it. -/
def readValue (room : Nat) : Nat → List Char → Result Datum
  | 0, cs => .error (.before .value cs)
  | fuel + 1, cs =>
    match cs with
    | '"' :: rest => (readText rest).map fun (s, rest) => (.text s, rest)
    | '{' :: rest =>
      match room, skip rest with
      | 0, _ => .error (.tooDeep true)
      | _ + 1, '}' :: rest => .ok (.map [], rest)
      | room + 1, rest => readEntries room fuel [] rest
    | '[' :: rest =>
      match room, skip rest with
      | 0, _ => .error (.tooDeep false)
      | _ + 1, ']' :: rest => .ok (.list [], rest)
      | room + 1, rest => readItems room fuel [] rest
    | cs => readScalar cs

/-- The items of a list from the next one on; `done` holds those read, last first. -/
def readItems (room : Nat) : Nat → List Datum → List Char → Result Datum
  | 0, _, cs => .error (.before .value cs)
  | fuel + 1, done, cs =>
    match readValue room fuel cs with
    | .error stop => .error stop
    | .ok (item, rest) =>
      match skip rest with
      | ']' :: rest => .ok (.list (item :: done).reverse, rest)
      | ',' :: rest => readItems room fuel (item :: done) (skip rest)
      | rest => .error (.before .comma rest)

/-- The entries of a map from the next one on. -/
def readEntries (room : Nat) : Nat → List (Scalar × Datum) → List Char → Result Datum
  | 0, _, cs => .error (.before .value cs)
  | fuel + 1, done, cs =>
    match readKey cs with
    | .error stop => .error stop
    | .ok (key, rest) =>
      match readValue room fuel rest with
      | .error stop => .error stop
      | .ok (value, rest) =>
        let done := Entries.insert (.text key) value done
        match skip rest with
        | '}' :: rest => .ok (.map done, rest)
        | ',' :: rest => readEntries room fuel done (skip rest)
        | rest => .error (.before .comma rest)

end

/-- The fault at the place where a number of characters is left. -/
def locate (cs : List Char) (problem : Problem) (left : Nat) : Fault :=
  let position := cs.length - left
  let before := cs.take position
  let line := before.count '\n' + 1
  let column := (before.reverse.takeWhile (· != '\n')).length + 1
  .place problem line column position

/-- The datum that a text writes. -/
def read (s : String) : Except Fault Datum :=
  let cs := s.toList
  let fault : Stop → Fault
    | .before problem rest => locate cs problem rest.length
    | .number f => .number f
    | .tooDeep isMap => .tooDeep isMap
  if cs.head? = some (Char.ofNat 0xfeff) then .error (locate cs .byteOrderMark cs.length)
  else
    match readValue depthLimit (2 * cs.length + 2) (skip cs) with
    | .error stop => .error (fault stop)
    | .ok (d, rest) =>
      match skip rest with
      | [] => .ok d
      | rest => .error (locate cs .extra rest.length)

end FeeWatch.Json
