import FeeWatch.Datum.Access

/-! Snapshots: what a window of fees came to at one moment.

The fees of a snapshot are decimal texts. A stored record keeps the four texts
and the moment; the number of points and the market's state are known only while
the program runs. -/
namespace FeeWatch.Fee

/-- Conditions of the fee market. -/
inductive Market where
  | normal
  | congested
deriving DecidableEq, Repr, Inhabited

/-- The word for a market's state. -/
def Market.word : Market → String
  | .normal => "normal"
  | .congested => "congested"

/-- The kind of the words for a market's state. -/
def Market.kind : String := "CongestionState"

/-- The market's state of a word. -/
def Market.ofWord? (word : String) : Option Market :=
  [Market.normal, .congested].find? (·.word == word)

theorem Market.ofWord?_word (m : Market) : Market.ofWord? m.word = some m := by
  cases m <;> rfl

/-- A summary of a window of fees. -/
structure Snapshot where
  base : String
  min : String
  max : String
  avg : String
  /-- When the summary was made. -/
  time : Calendar.Instant
  /-- How many points it summarises. -/
  count : Int
  market : Market
deriving DecidableEq, Repr, Inhabited

namespace Snapshot

/-- Whether two snapshots have the same four fees. -/
def sameFees (a b : Snapshot) : Bool :=
  a.base == b.base && a.min == b.min && a.max == b.max && a.avg == b.avg

def fields (s : Snapshot) : List (String × Datum) := [
  ("base_fee", .text s.base), ("min_fee", .text s.min), ("max_fee", .text s.max),
  ("avg_fee", .text s.avg), ("captured_at", .text s.time.text)]

def record (s : Snapshot) : Datum := .record s.fields

/-- The record with the number of points and the market's state. -/
def report (s : Snapshot) : Datum :=
  .record (s.fields ++ [("sample_count", .int s.count), ("congestion", .text s.market.word)])

/-- Reads a stored record. -/
def ofRecord (d : Datum) : Except Datum.Misfit Snapshot := do
  let base ← d.part "base_fee"
  let min ← d.part "min_fee"
  let max ← d.part "max_fee"
  let avg ← d.part "avg_fee"
  let time ← (d.part "captured_at").bind Datum.instant
  .ok ⟨base.written, min.written, max.written, avg.written, time, 0, .normal⟩

/-- Reads a report, in which the number of points and the market's state may be missing. -/
def ofReport (d : Datum) : Except Datum.Misfit Snapshot := do
  let time ← (d.field "captured_at").instant
  let part (key : String) : String := (d.field key).written
  let market ← d.wordAt "congestion" Market.kind Market.ofWord? .normal
  .ok ⟨part "base_fee", part "min_fee", part "max_fee", part "avg_fee", time,
    (d.field "sample_count").int?.getD 0, market⟩

theorem sameFees_iff {a b : Snapshot} :
    a.sameFees b = true ↔ a.base = b.base ∧ a.min = b.min ∧ a.max = b.max ∧ a.avg = b.avg := by
  simp [sameFees, and_assoc]

end Snapshot
end FeeWatch.Fee
