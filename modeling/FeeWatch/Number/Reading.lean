import FeeWatch.Number.Basic
import FeeWatch.Text.Blank
import FeeWatch.Text.Digit
import FeeWatch.Text.Quoted

/-! Reading numbers from text.

A whole number is an optional sign and digits of any script, with single
underscores allowed between digits; a double may have a point and an exponent, or
be an infinity or not a number. Blanks around either are ignored. A decimal
literal of more than 4300 digits is refused. -/
namespace FeeWatch.Number

open FeeWatch.Text

/-- Why a value is not a number. -/
inductive Fault where
  /-- A text that is no whole number in a base, as it is shown. -/
  | integerText (base : Nat) (shown : String)
  /-- A value of a kind that has no whole part. -/
  | integerKind (kind : String)
  /-- A decimal literal beyond the length limit. -/
  | tooLong (digits : Nat)
  | nanToInteger
  | infinityToInteger
  /-- A text that is no double, as it is shown. -/
  | floatText (shown : String)
  /-- A value of a kind that is no double. -/
  | floatKind (kind : String)
  /-- A whole number past the greatest double. -/
  | integerToFloat
  /-- A whole number with more digits than are written. -/
  | unwritable
deriving DecidableEq, Repr, Inhabited

/-- The most digits that a whole number may have where it is read or written. -/
def digitLimit : Nat := 4300

/-- Whether a whole number has too many digits to be written. -/
def isOverlong (n : Int) : Bool := tenTo digitLimit ≤ n.natAbs

/-- The first characters of a text. -/
def clip (n : Nat) (s : String) : String := String.ofList (s.toList.take n)

def Fault.message : Fault → String
  | .integerText base shown =>
    s!"invalid literal for int() with base {base}: {clip 200 shown}"
  | .integerKind kind =>
    s!"int() argument must be a string, a bytes-like object or a real number, not {String.ofList [apostrophe]}{kind}{String.ofList [apostrophe]}"
  | .tooLong digits =>
    s!"Exceeds the limit ({digitLimit} digits) for integer string conversion: value has {digits} digits; use sys.set_int_max_str_digits() to increase the limit"
  | .nanToInteger => "cannot convert float NaN to integer"
  | .infinityToInteger => "cannot convert float infinity to integer"
  | .floatText shown => s!"could not convert string to float: {shown}"
  | .floatKind kind =>
    s!"float() argument must be a string or a real number, not {String.ofList [apostrophe]}{kind}{String.ofList [apostrophe]}"
  | .integerToFloat => "int too large to convert to float"
  | .unwritable =>
    s!"Exceeds the limit ({digitLimit} digits) for integer string conversion; use sys.set_int_max_str_digits() to increase the limit"

/-- Removes underscores that stand singly between digits; none elsewhere may occur. -/
def joinDigits (isDigit : Char → Bool) : List Char → Option (List Char)
  | [] => some []
  | [c] => if isDigit c then some [c] else none
  | c :: '_' :: d :: rest =>
    if isDigit c && isDigit d then (joinDigits isDigit (d :: rest)).map (c :: ·) else none
  | c :: d :: rest =>
    if isDigit c then (joinDigits isDigit (d :: rest)).map (c :: ·) else none

/-- A sign and what follows it. -/
def splitSign : List Char → Bool × List Char
  | '-' :: rest => (true, rest)
  | '+' :: rest => (false, rest)
  | rest => (false, rest)

/-- Blanks removed and digits of all scripts made ASCII. -/
def plain (s : String) : List Char := (trim isNumberBlank s.toList).map foldDigit

/-- The whole number that a decimal text writes. -/
def readInt (s : String) : Except Fault Int :=
  let (negative, body) := splitSign (plain s)
  let run := body.takeWhile fun c => c.isDigit || c == '_'
  match joinDigits Char.isDigit run with
  | some (d :: ds) =>
    if digitLimit < (d :: ds).length then .error (.tooLong (d :: ds).length)
    else if run.length = body.length then .ok (Binary.signed negative (digitsValue (d :: ds)))
    else .error (.integerText 10 (quoted s))
  | _ => .error (.integerText 10 (quoted s))

/-- The parts of a decimal literal: digits without the point, and the power of ten. -/
def readDecimal (cs : List Char) : Option (Nat × Int) :=
  let whole := cs.takeWhile Char.isDigit
  let rest := cs.dropWhile Char.isDigit
  let (fraction, rest) := match rest with
    | '.' :: r => (r.takeWhile Char.isDigit, r.dropWhile Char.isDigit)
    | r => ([], r)
  if whole.isEmpty && fraction.isEmpty then none
  else
    let digits := digitsValue (whole ++ fraction)
    let shift : Int := -fraction.length
    match rest with
    | [] => some (digits, shift)
    | e :: r =>
      if e == 'e' || e == 'E' then
        let (negative, power) := splitSign r
        if power.isEmpty || !power.all Char.isDigit then none
        else some (digits, shift + Binary.signed negative (digitsValue power))
      else none

/-- Underscores must stand between digits; they are dropped. -/
def dropUnderscores (before : Char) : List Char → Option (List Char)
  | [] => if before == '_' then none else some []
  | c :: rest =>
    if c == '_' then if before.isDigit then dropUnderscores c rest else none
    else if before == '_' && !c.isDigit then none
    else (dropUnderscores c rest).map (c :: ·)

/-- The double that an unsigned literal writes. -/
def readUnsigned (negative : Bool) (cs : List Char) : Option Binary :=
  let word := String.ofList (cs.map Char.toLower)
  if word == "inf" || word == "infinity" then some (.infinite negative)
  else if word == "nan" then some .nan
  else (readDecimal cs).map fun (digits, power) => Binary.ofDecimal negative digits power

/-- The double that a text writes. -/
def readFloat (s : String) : Except Fault Binary :=
  let body := (dropUnderscores ' ' (plain s)).bind fun cs =>
    let (negative, cs) := splitSign cs
    readUnsigned negative cs
  match body with
  | some x => .ok x
  | none => .error (.floatText (quoted s))

/-- The whole part of a double. -/
def Binary.toInt : Binary → Except Fault Int
  | .nan => .error .nanToInteger
  | .infinite _ => .error .infinityToInteger
  | .finite s m e => .ok (Binary.truncate s m e)

/-- The double nearest to a whole number. -/
def Binary.ofInt? (n : Int) : Except Fault Binary :=
  match Binary.ofInt n with
  | .infinite _ => .error .integerToFloat
  | x => .ok x

end FeeWatch.Number
