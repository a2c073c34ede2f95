import FeeWatch.Text.Blank
import FeeWatch.Text.Digit

/-! The kinds of YAML data, and which kind a plain scalar has.

A plain scalar is null, a truth value, a number or a time when its text has the form
of one; else it is a text. Whole numbers may be binary, octal, hexadecimal, decimal or
in base sixty, with underscores between their digits; other numbers need a point, and
their exponents a sign. -/
namespace FeeWatch.Yaml

inductive Kind where
  | null
  | bool
  | int
  | float
  | binary
  | time
  | orderedMap
  | pairs
  | set
  | text
  | list
  | map
  /-- The key that merges maps. -/
  | merge
  /-- The key that marks a default value. -/
  | value
  | other (name : String)
deriving DecidableEq, Repr, Inhabited

namespace Kind

/-- The beginning of the tags of known kinds. -/
def lead : String := "tag:yaml.org,2002:"

/-- The known kinds by the ends of their tags. -/
def known : List (String × Kind) := [
  ("null", .null), ("bool", .bool), ("int", .int), ("float", .float), ("binary", .binary),
  ("timestamp", .time), ("omap", .orderedMap), ("pairs", .pairs), ("set", .set), ("str", .text),
  ("seq", .list), ("map", .map), ("merge", .merge), ("value", .value)]

def ofTag (tag : String) : Kind :=
  match known.find? fun (name, _) => lead ++ name == tag with
  | some (_, k) => k
  | none => .other tag

/-! ### Forms of plain scalars -/

def nullWords : List String := ["", "~", "null", "Null", "NULL"]

def trueWords : List String :=
  ["yes", "Yes", "YES", "true", "True", "TRUE", "on", "On", "ON"]

def falseWords : List String :=
  ["no", "No", "NO", "false", "False", "FALSE", "off", "Off", "OFF"]

/-- A text without its sign. -/
def unsigned (cs : List Char) : List Char :=
  match cs with
  | '+' :: rest => rest
  | '-' :: rest => rest
  | rest => rest

/-- Whether all characters are of a class or underscores, and there is one. -/
def isRun (p : Char → Bool) (cs : List Char) : Bool :=
  !cs.isEmpty && cs.all fun c => p c || c == '_'

/-- A digit before the eight. -/
def isOctal (c : Char) : Bool := c.isDigit && c.toNat < 0x38

/-- A hexadecimal digit. -/
def isHex (c : Char) : Bool :=
  c.isDigit || (0x61 ≤ c.toNat && c.toNat ≤ 0x66) || (0x41 ≤ c.toNat && c.toNat ≤ 0x46)

/-- A digit, and then digits and underscores. -/
def isDigits (cs : List Char) : Bool :=
  cs.head?.any Char.isDigit && isRun Char.isDigit cs

/-- A part of a number in base sixty: a colon and a number below sixty. -/
def isSixties : List Char → Bool
  | [':', a] => a.isDigit
  | [':', a, b] => a.isDigit && a.toNat < 0x36 && b.isDigit
  | ':' :: a :: ':' :: rest => a.isDigit && isSixties (':' :: rest)
  | ':' :: a :: b :: ':' :: rest =>
    a.isDigit && a.toNat < 0x36 && b.isDigit && isSixties (':' :: rest)
  | _ => false

/-- Digits before the first colon, and parts in base sixty after it. -/
def isBaseSixty (cs : List Char) : Bool :=
  isDigits (cs.takeWhile (· != ':')) && isSixties (cs.dropWhile (· != ':'))

/-- A whole number. -/
def isInt (cs : List Char) : Bool :=
  match unsigned cs with
  | '0' :: 'b' :: rest => isRun (fun c => c == '0' || c == '1') rest
  | '0' :: 'x' :: rest => isRun isHex rest
  | ['0'] => true
  | '0' :: rest => isRun isOctal rest
  | rest => isDigits rest || isBaseSixty rest

/-- An exponent with a sign, or nothing. -/
def isExponent : List Char → Bool
  | [] => true
  | e :: s :: rest =>
    (e == 'e' || e == 'E') && (s == '+' || s == '-') && !rest.isEmpty && rest.all Char.isDigit
  | _ => false

/-- Digits and underscores, of which there may be none, and an exponent. -/
def isFraction (cs : List Char) : Bool :=
  isExponent (cs.dropWhile fun c => c.isDigit || c == '_')

/-- A number with a point. -/
def isFloat (cs : List Char) : Bool :=
  let body := unsigned cs
  let whole := body.takeWhile (· != '.')
  match body.dropWhile (· != '.') with
  | '.' :: rest =>
    let word := String.ofList rest
    (isDigits whole && isFraction rest) ||
      (isBaseSixty whole && rest.all fun c => c.isDigit || c == '_') ||
      (cs.head? == some '.' && rest.head?.any Char.isDigit && isFraction rest) ||
      (whole.isEmpty && ["inf", "Inf", "INF"].contains word) ||
      (cs.head? == some '.' && ["nan", "NaN", "NAN"].contains word)
  | _ => false

/-! ### Times -/

structure TimeParts where
  year : Nat
  month : Nat
  day : Nat
  /-- Hours, minutes, seconds and the digits of a fraction. -/
  clock : Option (Nat × Nat × Nat × List Char)
  /-- An offset: its sign, hours and minutes; `Z` is an offset of zero. -/
  offset : Option (Bool × Nat × Nat)
deriving DecidableEq, Repr, Inhabited

/-- A number of between `least` and `most` digits. -/
def digits (least most : Nat) (cs : List Char) : Option (Nat × List Char) :=
  let run := (cs.take most).takeWhile Char.isDigit
  if run.length < least then none else some (Text.digitsValue run, cs.drop run.length)

/-- A character that must come next. -/
def mark (x : Char) : List Char → Option (List Char)
  | c :: rest => if c == x then some rest else none
  | [] => none

/-- The offset at the end of a time. -/
def offset (cs : List Char) : Option (Option (Bool × Nat × Nat)) :=
  match cs.dropWhile fun c => c == ' ' || c == '\t' with
  | [] => if cs.isEmpty then some none else none
  | ['Z'] => some (some (false, 0, 0))
  | s :: rest =>
    if s == '+' || s == '-' then do
      let (hours, rest) ← digits 1 2 rest
      match rest with
      | [] => some (some (s == '-', hours, 0))
      | rest =>
        let (minutes, rest) ← digits 2 2 (← mark ':' rest)
        if rest.isEmpty then some (some (s == '-', hours, minutes)) else none
    else none

/-- The time of day after a day, with its fraction and offset. -/
def clock (cs : List Char) :
    Option ((Nat × Nat × Nat × List Char) × Option (Bool × Nat × Nat)) := do
  let (hour, cs) ← digits 1 2 cs
  let (minute, cs) ← digits 2 2 (← mark ':' cs)
  let (second, cs) ← digits 2 2 (← mark ':' cs)
  let (fraction, cs) := match cs with
    | '.' :: rest => (rest.takeWhile Char.isDigit, rest.dropWhile Char.isDigit)
    | rest => ([], rest)
  let offset ← offset cs
  some ((hour, minute, second, fraction), offset)

/-- The parts of a day, or of a day and time. -/
def timeParts? (cs : List Char) : Option TimeParts := do
  let (year, cs) ← digits 4 4 cs
  let (month, cs) ← digits 1 2 (← mark '-' cs)
  let (day, cs) ← digits 1 2 (← mark '-' cs)
  match cs with
  | [] => some ⟨year, month, day, none, none⟩
  | x :: rest =>
    if x == 'T' || x == 't' then do
      let (clock, offset) ← clock rest
      some ⟨year, month, day, some clock, offset⟩
    else if x == ' ' || x == '\t' then do
      let (clock, offset) ← clock (rest.dropWhile fun c => c == ' ' || c == '\t')
      some ⟨year, month, day, some clock, offset⟩
    else none

/-- A day, with two digits each for month and day of the month, or a day and time. -/
def isTime (cs : List Char) : Bool :=
  match timeParts? cs with
  | some p => p.clock.isSome || cs.length == 10
  | none => false

/-- A text without the line feed at its end, unless it is nothing else. -/
def unended (s : String) : String :=
  if s.endsWith "\n" && s != "\n" then String.ofList s.toList.dropLast else s

/-- The marks that have a kind of their own, of which there are no data. -/
def markWords : List String := ["!", "&", "*"]

/-- The kind of a plain scalar. A line feed at its end does not count. -/
def ofPlain (text : String) : Kind :=
  let s := unended text
  let cs := s.toList
  if nullWords.contains s then .null
  else if trueWords.contains s || falseWords.contains s then .bool
  else if isFloat cs then .float
  else if isInt cs then .int
  else if s == "<<" then .merge
  else if isTime cs then .time
  else if s == "=" then .value
  else if markWords.contains s then .other (lead ++ "yaml")
  else .text

end Kind
end FeeWatch.Yaml
