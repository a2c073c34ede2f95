import FeeWatch.Calendar.Instant
import FeeWatch.Number.Rounding
import FeeWatch.Text.Quoted

/-! Reading instants from text.

A text is a calendar date or a week date, with or without hyphens; then, after any
one character, a time of one to three fields with an optional fraction; then an
optional offset of the same shape as the time. A text without an offset is in
universal time, and a final `Z` stands for the offset zero.

Fields of a time are joined by colons throughout or by nothing. The character
that ends the scan of a time is lenient only before an offset: one stray
character may stand there. -/
namespace FeeWatch.Calendar

/-- Why a text is no instant. -/
inductive Fault where
  /-- The text has no known shape. -/
  | shape (text : String)
  /-- An offset of a day or more, in microseconds. -/
  | offset (ticks : Int)
  | year (n : Nat)
  | month
  | day
  | hour
  | minute
  | second
  /-- The instant lies outside the years 1 to 9999. -/
  | outOfRange
deriving DecidableEq, Repr, Inhabited

/-- The text of a length of time: days, and seconds and microseconds that are never negative. -/
def spanText (ticks : Int) : String :=
  let days := Int.fdiv ticks day
  let rest := (Int.fmod ticks day).toNat
  let part (name : String) (n : Int) : List String := if n = 0 then [] else [s!"{name}={n}"]
  let parts := part "days" days ++ part "seconds" (rest / Calendar.second : Nat) ++
    part "microseconds" (rest % Calendar.second : Nat)
  let inner := if parts.isEmpty then "0" else ", ".intercalate parts
  "datetime.timedelta(" ++ inner ++ ")"

def Fault.message : Fault → String
  | .shape text => s!"Invalid isoformat string: {Text.quoted text}"
  | .offset ticks =>
    "offset must be a timedelta strictly between -timedelta(hours=24) and timedelta(hours=24), not "
      ++ spanText ticks ++ "."
  | .year n => s!"year {n} is out of range"
  | .month => "month must be in 1..12"
  | .day => "day is out of range for month"
  | .hour => "hour must be in 0..23"
  | .minute => "minute must be in 0..59"
  | .second => "second must be in 0..59"
  | .outOfRange => "date value out of range"

/-! ### Fields -/

/-- A number of exactly `count` ASCII digits at the front. -/
def readDigits : Nat → Nat → List Char → Option (Nat × List Char)
  | 0, n, cs => some (n, cs)
  | count + 1, n, c :: cs =>
    if c.isDigit then readDigits count (n * 10 + Text.digit c) cs else none
  | _ + 1, _, [] => none

/-- Drops a hyphen where one is due. -/
def readHyphen (due : Bool) : List Char → Option (List Char)
  | '-' :: cs => if due then some cs else none
  | cs => if due then none else some cs

/-- The week date after the mark `W`; the day of the week may be missing. -/
def readWeek (year : Nat) (hyphens : Bool) (cs : List Char) : Option Date := do
  let (week, cs) ← readDigits 2 0 cs
  match cs with
  | [] => weekDate? year week 1
  | cs =>
    let cs ← readHyphen hyphens cs
    let (weekday, _) ← readDigits 1 0 cs
    weekDate? year week weekday

/-- A date whose parts are not yet range checked, unless it is a week date. -/
def readDate (cs : List Char) : Option Date := do
  let (year, cs) ← readDigits 4 0 cs
  let (hyphens, cs) := match cs with
    | '-' :: cs => (true, cs)
    | cs => (false, cs)
  match cs with
  | 'W' :: cs => readWeek year hyphens cs
  | cs =>
    let (month, cs) ← readDigits 2 0 cs
    let cs ← readHyphen hyphens cs
    let (day, _) ← readDigits 2 0 cs
    some ⟨year, month, day⟩

/-- Whether the character at a place is a digit. -/
def digitAt (cs : List Char) (i : Nat) : Bool := (cs[i]?).any Char.isDigit

/-- How many characters belong to the date. A week date is told from one with a day, or with a
time after it, by the characters that follow. -/
def dateLength (cs : List Char) : Nat :=
  if cs.length = 7 then 7
  else if cs[4]? = some '-' then
    if cs[5]? = some 'W' then
      if cs[8]? = some '-' then if digitAt cs 10 then 8 else 10
      else 8
    else 10
  else if cs[4]? = some 'W' then
    let run := 7 + ((cs.drop 7).takeWhile Char.isDigit).length
    if run < 9 then run else if run % 2 = 0 then 7 else 8
  else 8

/-! ### Times -/

/-- The fields of a time or an offset. -/
structure Clock where
  hour : Nat
  minute : Nat
  second : Nat
  micros : Nat
deriving DecidableEq, Repr

/-- The fields that were read, of which trailing ones may be missing. -/
def Clock.ofFields (fields : List Nat) (micros : Nat) : Clock :=
  ⟨fields.getD 0 0, fields.getD 1 0, fields.getD 2 0, micros⟩

/-- Whether something follows: `after` is the character beyond the part being scanned, and a
NUL ends a text. -/
def leftover (after : Option Char) : Bool := after.any (· != Char.ofNat 0)

/-- The fraction at the end of a time: up to six digits count, further ones are dropped. The
flag tells whether something follows. -/
def readFraction (fields : List Nat) (after : Option Char) (cs : List Char) :
    Option (Clock × Bool) := do
  let count := min cs.length 6
  let (n, cs) ← readDigits count 0 cs
  let rest := cs.dropWhile Char.isDigit
  some (Clock.ofFields fields (n * Number.tenTo (6 - count)), leftover (rest.head?.or after))

/-- Reads the fields of a time, `left` of them still allowed. `after` is the character beyond
the part being scanned; it is taken as the one that follows the last field. -/
def readFields (after : Option Char) :
    Nat → Option Bool → List Nat → List Char → Option (Clock × Bool)
  | 0, _, fields, cs => readFraction fields after cs
  | left + 1, colons, fields, cs => do
    let (n, rest) ← readDigits 2 0 cs
    let fields := fields ++ [n]
    match rest with
    | [] => some (Clock.ofFields fields 0, leftover after)
    | c :: tail =>
      let colons := colons.getD (c == ':')
      if tail.isEmpty && c.toNat < 0x80 then some (Clock.ofFields fields 0, leftover (some c))
      else if colons && c == ':' then readFields after left (some colons) fields tail
      else if c == '.' || c == ',' then readFraction fields after tail
      else if colons then none
      else readFields after left (some colons) fields rest

/-- A time and what follows it. -/
def readClock (cs : List Char) (after : Option Char) : Option (Clock × Bool) :=
  readFields after 3 none [] cs

/-- Microseconds of an offset whose whole seconds are not zero; others are no offset. -/
def offsetTicks (negative : Bool) (c : Clock) : Int :=
  let seconds := c.hour * 3600 + c.minute * 60 + c.second
  let ticks : Int := if seconds = 0 then 0 else (seconds * Calendar.second + c.micros : Nat)
  if negative then -ticks else ticks

/-- A time and the offset after it, in microseconds. -/
def readTime (cs : List Char) : Option (Clock × Int) := do
  let time := cs.takeWhile fun c => c != '+' && c != '-' && c != 'Z'
  match cs.drop time.length with
  | [] =>
    let (clock, more) ← readClock time none
    if more then none else some (clock, 0)
  | mark :: rest =>
    let (clock, _) ← readClock time (some mark)
    if mark == 'Z' then if leftover rest.head? then none else some (clock, 0)
    else
      let (offset, more) ← readClock rest none
      if more then none else some (clock, offsetTicks (mark == '-') offset)

/-! ### Instants -/

/-- A date and a time of day with its offset; a date alone is midnight. -/
def readParts (cs : List Char) : Option (Date × Clock × Int) := do
  let length := dateLength cs
  let date ← readDate (cs.take length)
  match cs.drop length with
  | [] => some (date, ⟨0, 0, 0, 0⟩, 0)
  | _ :: time =>
    let (clock, offset) ← readTime time
    some (date, clock, offset)

/-- Checks the ranges of date and time, and moves the instant to universal time. -/
def assemble (d : Date) (c : Clock) (offset : Int) : Except Fault Instant :=
  if (day : Int) ≤ offset.natAbs then .error (.offset offset)
  else if d.year < 1 ∨ 9999 < d.year then .error (.year d.year)
  else if d.month < 1 ∨ 12 < d.month then .error .month
  else if d.day < 1 ∨ monthLength d.year d.month < d.day then .error .day
  else if 23 < c.hour then .error .hour
  else if 59 < c.minute then .error .minute
  else if 59 < c.second then .error .second
  else
    let seconds := c.hour * 3600 + c.minute * 60 + c.second
    let local_ := dayNumber d * day + seconds * Calendar.second + c.micros
    match Instant.ofTicks? ((local_ : Int) - offset) with
    | some a => .ok a
    | none => .error .outOfRange

/-- A final `Z` becomes the offset zero. -/
def plainZone (cs : List Char) : List Char :=
  if cs.getLast? = some 'Z' then cs.dropLast ++ ['+', '0', '0', ':', '0', '0'] else cs

/-- The instant that a text names. -/
def readInstant (s : String) : Except Fault Instant :=
  let cs := plainZone s.toList
  match readParts cs with
  | some (d, c, offset) => assemble d c offset
  | none => .error (.shape (String.ofList cs))

end FeeWatch.Calendar
