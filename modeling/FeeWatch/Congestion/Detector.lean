import FeeWatch.Congestion.Thresholds
import FeeWatch.Fee.Snapshot
import FeeWatch.Log

/-! Detection of congestion.

The detector calls the market congested after a number of high readings in a row
and calls it normal again at the first low one. A reading is high when its average
exceeds the high threshold or its greatest fee the ceiling; it is low when its
average is below the low threshold and its greatest fee not above the lowered
ceiling. Between the two the detector keeps its answer. -/
namespace FeeWatch.Congestion

open FeeWatch.Number (Decimal)
open FeeWatch.Fee (Market)

/-- The aggregates of a window, which should be numbers. -/
structure Reading where
  average : Datum
  min : Datum
  max : Datum
deriving Repr, Inhabited

/-- A reading of whole numbers. -/
def Reading.ofInts (average min max : Int) : Reading := ⟨.int average, .int min, .int max⟩

/-- Whether some aggregate has too many digits to be written. -/
def Reading.isOverlong (r : Reading) : Bool :=
  r.average.isOverlong || r.min.isOverlong || r.max.isOverlong

/-- The aggregates that the line about a change to a state says. -/
def Reading.said (r : Reading) : Market → List Datum
  | .congested => [r.average, r.min, r.max]
  | .normal => [r.average, r.max]

/-- A detector with the values of its thresholds. -/
structure Detector where
  thresholds : Thresholds
  high : Decimal
  low : Decimal
  maxFeeLow : Option Decimal
  state : Market
  /-- How many high readings came in a row. -/
  streak : Nat
deriving Repr, Inhabited

namespace Detector

/-- A detector for a normal market, if the thresholds are in range. -/
def make (t : Thresholds) : Except Fault Detector := do
  t.check
  let high ← t.high
  let low ← t.low
  let maxFeeLow ← t.maxFeeLow
  .ok ⟨t, high, low, maxFeeLow, .normal, 0⟩

def decimalKind : String := "decimal.Decimal"

/-- Whether a datum, which must be a number, and a decimal stand in a relation. -/
def relate (relation : String) (holds : Decimal → Decimal → Except Decimal.Fault Bool) (d : Datum)
    (x : Decimal) : Except Fault Bool :=
  match d.number? with
  | some n => (holds (.ofNumber n) x).mapError .decimal
  | none => .error (.misfit (.unordered relation d.kind decimalKind))

def isHigh (d : Detector) (r : Reading) : Except Fault Bool := do
  if ← relate ">" (fun a x => Decimal.lt x a) r.average d.high then .ok true
  else if d.thresholds.maxFeeCeiling.isNull then .ok false
  else (r.max.isGreater d.thresholds.maxFeeCeiling).mapError .misfit

def isLow (d : Detector) (r : Reading) : Except Fault Bool := do
  if ← relate ">=" (fun a x => Decimal.le x a) r.average d.low then .ok false
  else
    match d.maxFeeLow with
    | none => .ok true
    | some c => relate "<=" Decimal.le r.max c

/-- The record of a market that became congested. -/
def detected (d : Detector) (r : Reading) : Record :=
  ⟨.warning, .detector,
    s!"Congestion detected: avg={average} (high={d.high.text}) min={least} max={greatest}"⟩
where
  average : String := r.average.written
  least : String := r.min.written
  greatest : String := r.max.written

/-- The record of a market that became normal. -/
def cleared (d : Detector) (r : Reading) : Record :=
  ⟨.info, .detector, s!"Congestion cleared: avg={average} (low={d.low.text}) max={greatest}"⟩
where
  average : String := r.average.written
  greatest : String := r.max.written

def evaluateNormal (d : Detector) (r : Reading) : Except Fault (Detector × Log) := do
  if ← d.isHigh r then
    let streak := d.streak + 1
    if Number.le d.thresholds.enterCycles.amount (.int streak) then
      .ok ({ d with state := .congested, streak }, [d.detected r])
    else .ok ({ d with streak }, [])
  else .ok ({ d with streak := 0 }, [])

def evaluateCongested (d : Detector) (r : Reading) : Except Fault (Detector × Log) := do
  if ← d.isLow r then .ok ({ d with state := .normal, streak := 0 }, [d.cleared r])
  else .ok (d, [])

def evaluate (d : Detector) (r : Reading) : Except Fault (Detector × Log) :=
  match d.state with
  | .normal => d.evaluateNormal r
  | .congested => d.evaluateCongested r

/-- Whether the line about a reading that has changed the state cannot be written. -/
def isUnwritable (d : Detector) (r : Reading) : Bool := (r.said d.state).any Datum.isOverlong

/-- Takes a reading and writes the line about it. The detector has changed before the line turns out
to be unwritable. -/
def observe (d : Detector) (r : Reading) : Except Fault Unit × Detector × Log :=
  match d.evaluate r with
  | .error f => (.error f, d, [])
  | .ok (d, log) =>
    if !log.isEmpty && d.isUnwritable r then (.error (.misfit (.number .unwritable)), d, [])
    else (.ok (), d, log)

/-- Forgets the market's state and the streak. -/
def reset (d : Detector) : Detector := { d with state := .normal, streak := 0 }

end Detector
end FeeWatch.Congestion
