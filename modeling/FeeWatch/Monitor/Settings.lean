import FeeWatch.Congestion.Thresholds
import FeeWatch.Window.Basic

/-! The settings of the monitor, their defaults and their ranges. -/
namespace FeeWatch.Monitor

open FeeWatch.Setting (refuseIf)

/-- When a cycle publishes a snapshot. -/
inductive Policy where
  /-- After every cycle. -/
  | always
  /-- When the fees or the market's state differ from the last ones published. -/
  | onChange
  /-- A value that is no policy. -/
  | other (given : Datum)
deriving Repr, Inhabited

def Policy.ofName? (name : String) : Option Policy :=
  if name = "always" then some .always
  else if name = "on_change" then some .onChange
  else none

/-- The policy of a name, or of a value that is no policy. -/
def Policy.ofDatum (d : Datum) : Policy :=
  (d.text?.bind Policy.ofName?).getD (.other d)

def Policy.report : Policy → Datum
  | .always => .text "always"
  | .onChange => .text "on_change"
  | .other given => given

structure Settings where
  /-- Seconds from the start of one cycle to the start of the next. -/
  interval : Datum := .int 10
  /-- The most points of the window, or null. -/
  maxPoints : Datum := .int 1000
  /-- The greatest age of a point in seconds, or null. -/
  maxAge : Datum := .int 3600
  baseFee : Datum := .int 100
  multiplier : Datum := .text "2.0"
  ceiling : Datum := .null
  maxFeeCeiling : Datum := .null
  margin : Datum := .text "0.2"
  enterCycles : Datum := .int 1
  policy : Policy := .always
  /-- How many failed fetches in a row degrade the monitor. -/
  failureThreshold : Datum := .int 3
  /-- Seconds that a stop waits for the cycle in progress. -/
  grace : Datum := .int 30
deriving Repr, Inhabited

namespace Settings

def thresholds (s : Settings) : Congestion.Thresholds :=
  ⟨s.baseFee, s.multiplier, s.margin, s.ceiling, s.maxFeeCeiling, s.enterCycles⟩

def report (s : Settings) : Datum :=
  .record [("poll_interval_secs", s.interval), ("window_max_points", s.maxPoints),
    ("window_max_age_secs", s.maxAge), ("base_fee", s.baseFee),
    ("congestion_avg_multiplier", s.multiplier), ("congestion_absolute_ceiling", s.ceiling),
    ("max_fee_ceiling", s.maxFeeCeiling), ("hysteresis_margin", s.margin),
    ("enter_cycles", s.enterCycles), ("snapshot_policy", s.policy.report),
    ("failure_threshold", s.failureThreshold), ("shutdown_grace_secs", s.grace)]

/-- The settings of a record. Those that it leaves out have their defaults. -/
def ofRecord (d : Datum) : Except Datum.Misfit Settings := do
  let s : Settings := {}
  d.checkFields "InsightsConfig" (s.report.fields.map (·.1)) []
  .ok {
    interval := d.given "poll_interval_secs" s.interval
    maxPoints := d.given "window_max_points" s.maxPoints
    maxAge := d.given "window_max_age_secs" s.maxAge
    baseFee := d.given "base_fee" s.baseFee
    multiplier := d.given "congestion_avg_multiplier" s.multiplier
    ceiling := d.given "congestion_absolute_ceiling" s.ceiling
    maxFeeCeiling := d.given "max_fee_ceiling" s.maxFeeCeiling
    margin := d.given "hysteresis_margin" s.margin
    enterCycles := d.given "enter_cycles" s.enterCycles
    policy := .ofDatum (d.given "snapshot_policy" s.policy.report)
    failureThreshold := d.given "failure_threshold" s.failureThreshold
    grace := d.given "shutdown_grace_secs" s.grace }

/-- Checks the ranges of the settings that are the monitor's own. -/
def checkOwn (s : Settings) : Except Setting.Refusal Unit := do
  refuseIf (s.interval.isAtMost (.int 0)) (.positive "poll_interval_secs") s.interval
  if s.maxPoints.isNull && s.maxAge.isNull then .error (.fault .noBound)
  if !s.maxPoints.isNull then
    refuseIf (s.maxPoints.isLess (.int 1)) (.least "window_max_points" 1) s.maxPoints
  if !s.maxAge.isNull then
    refuseIf (s.maxAge.isAtMost (.int 0)) (.positive "window_max_age_secs") s.maxAge
  refuseIf (s.failureThreshold.isLess (.int 1)) (.least "failure_threshold" 1) s.failureThreshold
  refuseIf (s.grace.isLess (.int 0)) (.least "shutdown_grace_secs" 0) s.grace
  match s.policy with
  | .other given => .error (.fault (.policy given.shown))
  | _ => .ok ()

def check (s : Settings) : Except Congestion.Fault Unit := do
  s.checkOwn.mapError Congestion.Fault.ofRefusal
  s.thresholds.check

end Settings
end FeeWatch.Monitor
