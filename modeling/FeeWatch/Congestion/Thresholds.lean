import FeeWatch.Congestion.Exact

/-! Thresholds of congestion.

The high threshold is a fixed ceiling, or a multiple of the base fee. The low one
lies below it by a margin, a fraction of the high one; so does the exit bound of
the greatest fee below its ceiling. Multiplier and margin count as decimals by their
texts. Thresholds are held as they were given, and checked before they are used. -/
namespace FeeWatch.Congestion

open FeeWatch.Datum (Misfit)
open FeeWatch.Number (Decimal)
open FeeWatch.Setting (refuseIf)

/-- The settings of a detector, as they were given. -/
structure Thresholds where
  baseFee : Datum
  multiplier : Datum
  margin : Datum
  /-- The fixed high threshold, or null. -/
  ceiling : Datum
  /-- The greatest fee above which the market is congested whatever the average, or null. -/
  maxFeeCeiling : Datum
  /-- How many readings in a row must be high. -/
  enterCycles : Datum
deriving Repr, Inhabited

namespace Thresholds

def fieldNames : List String := ["base_fee", "avg_multiplier", "hysteresis_margin",
  "absolute_ceiling", "max_fee_ceiling", "enter_cycles"]

/-- The thresholds of a record. All but the base fee have defaults. -/
def ofRecord (d : Datum) : Except Misfit Thresholds := do
  d.checkFields "DetectorThresholds" fieldNames ["base_fee"]
  .ok ⟨d.field "base_fee", d.given "avg_multiplier" (.text "2.0"),
    d.given "hysteresis_margin" (.text "0.2"), d.field "absolute_ceiling",
    d.field "max_fee_ceiling", d.given "enter_cycles" (.int 1)⟩

/-- The decimal that the text of a setting writes. -/
def decimal (name : String) (d : Datum) : Except Fault Decimal := do
  let text ← d.written?.mapError .misfit
  match Decimal.ofText text with
  | some x => .ok x
  | none => .error (.setting (.noNumber name d.shown))

def multiplierValue (t : Thresholds) : Except Fault Decimal :=
  decimal "avg_multiplier" t.multiplier

def marginValue (t : Thresholds) : Except Fault Decimal :=
  decimal "hysteresis_margin" t.margin

/-- The average above which the market is congested. -/
def high (t : Thresholds) : Except Fault Decimal :=
  if t.ceiling.isNull then do
    let base ← exact t.baseFee
    let multiplier ← t.multiplierValue
    (Decimal.mul base multiplier).mapError .decimal
  else exact t.ceiling

/-- A value lowered by the margin. -/
def lowered (t : Thresholds) (x : Decimal) : Except Fault Decimal := do
  let margin ← t.marginValue
  let factor ← (Decimal.sub (.ofInt 1) margin).mapError .decimal
  (Decimal.mul x factor).mapError .decimal

/-- The average below which congestion may end. -/
def low (t : Thresholds) : Except Fault Decimal := t.high.bind t.lowered

/-- The greatest fee at which congestion may end, if there is a ceiling. -/
def maxFeeLow (t : Thresholds) : Except Fault (Option Decimal) :=
  if t.maxFeeCeiling.isNull then .ok none
  else ((exact t.maxFeeCeiling).bind t.lowered).map some

/-- Whether a decimal lies in `[0, 1)`. -/
def isFraction (x : Decimal) : Except Fault Bool := do
  let nonnegative ← (Decimal.le (.ofInt 0) x).mapError Fault.decimal
  if nonnegative then (Decimal.lt x (.ofInt 1)).mapError Fault.decimal else .ok false

/-- Checks that every threshold lies in its range. -/
def check (t : Thresholds) : Except Fault Unit := do
  let multiplier ← t.multiplierValue
  let margin ← t.marginValue
  (refuseIf (t.baseFee.isLess (.int 0)) (.negative "base_fee") t.baseFee).mapError .ofRefusal
  if t.ceiling.isNull then
    if ← (Decimal.le multiplier (.ofInt 0)).mapError Fault.decimal then
      .error (.setting (.positive "avg_multiplier" multiplier.text))
  else
    (refuseIf (t.ceiling.isAtMost (.int 0)) (.positive "absolute_ceiling") t.ceiling).mapError
      .ofRefusal
  if !t.maxFeeCeiling.isNull then
    (refuseIf (t.maxFeeCeiling.isAtMost (.int 0)) (.positive "max_fee_ceiling")
      t.maxFeeCeiling).mapError .ofRefusal
  if !(← isFraction margin) then
    .error (.setting (.fraction "hysteresis_margin" margin.text))
  (refuseIf (t.enterCycles.isLess (.int 1)) (.least "enter_cycles" 1) t.enterCycles).mapError
    .ofRefusal

end Thresholds
end FeeWatch.Congestion
