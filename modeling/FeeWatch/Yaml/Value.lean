import FeeWatch.Files
import FeeWatch.Json.Reader
import FeeWatch.Text.Case
import FeeWatch.Yaml.Fault
import FeeWatch.Yaml.Kind

/-! The scalars of YAML texts.

Each kind of scalar reads its text in its own way. A text whose tag promises a kind
need not have the form that a plain scalar of this kind has. -/
namespace FeeWatch.Yaml

open FeeWatch.Number (Binary)

/-! ### Numbers -/

/-- A text without underscores, its sign, and the rest. -/
def signed (cs : List Char) : Except Fault (Bool × List Char) :=
  match cs.filter (· != '_') with
  | [] => .error .emptyNumber
  | '-' :: rest => .ok (true, rest)
  | '+' :: rest => .ok (false, rest)
  | rest => .ok (false, rest)

/-- The value of a digit below a base. -/
def baseDigit? (base : Nat) (c : Char) : Option Nat :=
  (Json.hexValue? c).bind fun n => if n < base then some n else none

/-- The letter that may stand after a zero before the digits of a base. -/
def baseLetter (base : Nat) : Char :=
  match base with
  | 2 => 'b'
  | 8 => 'o'
  | _ => 'x'

/-- The number that a text writes in a base. There may be blanks around it, a sign, and the letter
of the base after a zero. -/
def readBase (base : Nat) (cs : List Char) : Except Fault Int :=
  let text := String.ofList cs
  let (negative, body) := Number.splitSign (Number.plain text)
  let digits := match body with
    | '0' :: x :: rest => if x.toLower == baseLetter base then rest else body
    | body => body
  let value := digits.foldlM (fun n c => (baseDigit? base c).map (n * base + ·)) 0
  match digits, value with
  | _ :: _, some n => .ok (Number.Binary.signed negative n)
  | _, _ => .error (.number (.integerText base (Text.quoted text)))

/-- The number of parts in base sixty, the greatest first. -/
def sixties (parts : List Int) : Int := parts.foldl (fun n part => n * 60 + part) 0

/-- A whole number. -/
def readInt (text : String) : Except Fault Int := do
  let (negative, cs) ← signed text.toList
  let n : Int ← match cs with
    | [] => .error .emptyNumber
    | ['0'] => .ok 0
    | '0' :: 'b' :: rest => readBase 2 rest
    | '0' :: 'x' :: rest => readBase 16 rest
    | '0' :: rest => readBase 8 ('0' :: rest)
    | cs =>
      let parts := (Files.splitAt ':' cs).mapM fun part =>
        (Number.readInt (String.ofList part)).mapError Fault.number
      parts.map sixties
  .ok (if negative then -n else n)

/-- The double of parts in base sixty, the least first. -/
def sixtyFloat : Nat → Binary → List Binary → Except Fault Binary
  | _, sum, [] => .ok sum
  | base, sum, part :: rest =>
    match Binary.ofInt? base with
    | .error f => .error (.number f)
    | .ok factor => sixtyFloat (base * 60) (Binary.add sum (Binary.mul part factor)) rest

/-- A number with a point. -/
def readFloat (text : String) : Except Fault Binary := do
  let (negative, cs) ← signed (Text.lower text).toList
  let sign (x : Binary) : Binary := if negative then x.neg else x
  let word := String.ofList cs
  if word = ".inf" then .ok (.infinite negative)
  else if word = ".nan" then .ok .nan
  else if cs.contains ':' then
    let parts ← (Files.splitAt ':' cs).mapM fun part =>
      (Number.readFloat (String.ofList part)).mapError Fault.number
    (sixtyFloat 1 (Binary.zero false) parts.reverse).map sign
  else ((Number.readFloat word).mapError Fault.number).map sign

/-! ### Other scalars -/

/-- A truth value by its word, in any case. -/
def readTruth (text : String) : Except Fault Bool :=
  let word := Text.lower text
  if Kind.trueWords.contains word then .ok true
  else if Kind.falseWords.contains word then .ok false
  else .error (.truth word)

/-- The microseconds of the digits of a fraction; more than six are dropped. -/
def micros (digits : List Char) : Nat :=
  let kept := digits.take 6
  Text.digitsValue kept * Number.tenTo (6 - kept.length)

/-- Checks the ranges of a day and a time of day. -/
def checkRanges (d : Calendar.Date) (c : Calendar.Clock) : Except Fault Unit :=
  if d.year < 1 then .error (.calendar (.year d.year))
  else if d.month < 1 ∨ 12 < d.month then .error (.calendar .month)
  else if d.day < 1 ∨ Calendar.monthLength d.year d.month < d.day then .error (.calendar .day)
  else if 23 < c.hour then .error (.calendar .hour)
  else if 59 < c.minute then .error (.calendar .minute)
  else if 59 < c.second then .error (.calendar .second)
  else .ok ()

/-- The seconds of an offset, which must be less than a day. -/
def offsetSeconds : Bool × Nat × Nat → Except Fault Int
  | (negative, hours, minutes) =>
    let n : Int := (hours * 3600 + minutes * 60 : Nat)
    let n := if negative then -n else n
    if 86400 ≤ n.natAbs then .error (.calendar (.offset (n * Calendar.second))) else .ok n

/-- A day, or a day and time. -/
def readTime (text : String) : Except Fault Scalar :=
  match Kind.timeParts? (Kind.unended text).toList with
  | none => .error .moment
  | some p =>
    let date : Calendar.Date := ⟨p.year, p.month, p.day⟩
    match p.clock with
    | none => (checkRanges date ⟨0, 0, 0, 0⟩).map fun _ => .date date
    | some (hour, minute, second, fraction) => do
      let offset ← match p.offset with
        | none => .ok none
        | some o => (offsetSeconds o).map some
      let clock : Calendar.Clock := ⟨hour, minute, second, micros fraction⟩
      checkRanges date clock
      .ok (.moment ⟨date, clock, offset⟩)

/-- The value of a character of the base sixty-four alphabet. -/
def sixBits? (c : Char) : Option Nat :=
  let n := c.toNat
  if 0x41 ≤ n ∧ n ≤ 0x5a then some (n - 0x41)
  else if 0x61 ≤ n ∧ n ≤ 0x7a then some (n - 0x61 + 26)
  else if c.isDigit then some (n - 0x30 + 52)
  else if c == '+' then some 62
  else if c == '/' then some 63
  else none

/-- The octets that the characters of a text write, four to a group. `held` holds what the
characters so far of a group are worth, and `padding` counts the marks since the last of them. Marks
end the text once a group has two characters and is filled up; elsewhere they do not count, and
neither do other characters. -/
def groups : List Nat → Nat → List Char → Option (List Nat)
  | held, _, [] => if held.isEmpty then some [] else none
  | held, padding, c :: rest =>
    if c == '=' then
      if 2 ≤ held.length then
        if 4 ≤ held.length + padding + 1 then some [] else groups held (padding + 1) rest
      else groups held padding rest
    else
      match sixBits? c, held with
      | none, _ => groups held padding rest
      | some n, [] => groups [n] 0 rest
      | some n, [a] => (groups [a, n] 0 rest).map ((a * 4 + n / 16) :: ·)
      | some n, [a, b] => (groups [a, b, n] 0 rest).map ((b % 16 * 16 + n / 4) :: ·)
      | some n, _ :: _ :: b :: _ => (groups [] 0 rest).map ((b % 4 * 64 + n) :: ·)

/-- The octets that a text in the base sixty-four alphabet writes. -/
def readOctets (text : String) : Except Fault (List Nat) :=
  if text.toList.all (·.toNat < 0x80) then
    match groups [] 0 text.toList with
    | some octets => .ok octets
    | none => .error .malformed
  else .error .malformed

def readScalar (kind : Kind) (text : String) : Except Fault Scalar :=
  match kind with
  | .null => .ok .null
  | .bool => (readTruth text).map .bool
  | .int => (readInt text).map .int
  | .float => (readFloat text).map .float
  | .binary => (readOctets text).map .bytes
  | .time => readTime text
  | .text => .ok (.text text)
  | _ => .error .malformed

end FeeWatch.Yaml
