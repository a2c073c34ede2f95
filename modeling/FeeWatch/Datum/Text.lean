import FeeWatch.Datum.Basic
import FeeWatch.Number.Shortest

/-! The texts of data.

`shown` writes a datum so that its kind can be told: texts between quotes,
collections between brackets. `text` is the same but for a text that stands
alone, which is written as it is, and for days and times, which are written the
way people write them. -/
namespace FeeWatch

open FeeWatch.Calendar (Date Clock)

/-- Bytes between quotes, with the escapes of quoted text. -/
def shownBytes (octets : List Nat) : String :=
  let cs := octets.map Char.ofNat
  let quote := Text.quoteFor cs
  let one (c : Char) : List Char :=
    if 0x7f ≤ c.toNat then Text.escapeCode c else Text.quoteChar quote c
  String.ofList ('b' :: quote :: cs.flatMap one ++ [quote])

namespace Moment

/-- An offset as `+HH:MM`, with seconds where they are not zero. -/
def offsetText (seconds : Int) : List Char :=
  let n := seconds.natAbs
  (if seconds < 0 then '-' else '+') :: Calendar.Instant.padded 2 (n / 3600) ++
    ':' :: Calendar.Instant.padded 2 (n / 60 % 60) ++
    (if n % 60 = 0 then [] else ':' :: Calendar.Instant.padded 2 (n % 60))

/-- A moment as `YYYY-MM-DD HH:MM:SS`, with a fraction and an offset where it has them. -/
def text (m : Moment) : String :=
  let clock := Calendar.Instant.padded 2 m.clock.hour ++
    ':' :: Calendar.Instant.padded 2 m.clock.minute ++
    ':' :: Calendar.Instant.padded 2 m.clock.second
  let fraction :=
    if m.clock.micros = 0 then [] else '.' :: Calendar.Instant.padded 6 m.clock.micros
  String.ofList (Calendar.Instant.dateText m.date ++ ' ' :: clock ++ fraction ++
    (m.offset.map offsetText).getD [])

/-- A moment by its parts. -/
def shown (m : Moment) : String :=
  let parts := [m.date.year, m.date.month, m.date.day, m.clock.hour, m.clock.minute]
  let parts := if m.clock.second = 0 ∧ m.clock.micros = 0 then parts else parts ++ [m.clock.second]
  let parts := if m.clock.micros = 0 then parts else parts ++ [m.clock.micros]
  let zone := match m.offset with
    | none => []
    | some 0 => ["tzinfo=datetime.timezone.utc"]
    | some n => ["tzinfo=datetime.timezone(" ++ Calendar.spanText (n * Calendar.second) ++ ")"]
  "datetime.datetime(" ++ ", ".intercalate (parts.map (toString ·) ++ zone) ++ ")"

end Moment

namespace Scalar

/-- A scalar written so that its kind can be told. -/
def shown : Scalar → String
  | .null => "None"
  | .bool b => if b then "True" else "False"
  | .int n => toString n
  | .float x => x.text
  | .text s => Text.quoted s
  | .bytes octets => shownBytes octets
  | .date d => s!"datetime.date({d.year}, {d.month}, {d.day})"
  | .moment m => m.shown

def written : Scalar → String
  | .text s => s
  | .date d => String.ofList (Calendar.Instant.dateText d)
  | .moment m => m.text
  | s => s.shown

end Scalar

namespace Datum

/-- The brackets of a map or a set. -/
def braced (parts : List String) : String := "\x7b" ++ ", ".intercalate parts ++ "\x7d"

mutual

/-- A datum written so that its kind can be told. -/
def shown : Datum → String
  | .scalar s => s.shown
  | .list items => "[" ++ ", ".intercalate (shownItems items) ++ "]"
  | .map entries => braced (shownEntries entries)
  | .set members =>
    if members.isEmpty then "set()" else braced (members.map Scalar.shown)
  | .pair first second => "(" ++ first.shown ++ ", " ++ second.shown ++ ")"
  | .again isMap => if isMap then braced ["..."] else "[...]"

def shownItems : List Datum → List String
  | [] => []
  | d :: rest => d.shown :: shownItems rest

def shownEntries : List (Scalar × Datum) → List String
  | [] => []
  | (k, v) :: rest => (k.shown ++ ": " ++ v.shown) :: shownEntries rest

end

def written : Datum → String
  | .scalar s => s.written
  | d => d.shown

end Datum
end FeeWatch
