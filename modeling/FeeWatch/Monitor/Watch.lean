import FeeWatch.Monitor.Cycle
import FeeWatch.Monitor.Loop

/-! The loop at work.

A fault that ends a cycle does not end the loop: it is logged, and the loop goes on.
The loop's beginning and end are logged too. -/
namespace FeeWatch.Monitor

variable {α : Type}

/-- What the loop makes of a cycle: the monitor after it and what was logged. -/
def Run.contain (r : Run α) : Monitor α × Log :=
  match r.result with
  | .ok _ => (r.monitor, r.log)
  | .error f => (r.monitor, r.log ++ say .error s!"Error in fee insights loop: {f.message}")

/-- The record of the loop's beginning. -/
def beginLog (m : Monitor α) : Log :=
  say .info
    s!"Starting fee insights loop (provider={m.status.source}, interval={interval}s)"
where
  interval : String := m.settings.interval.written

/-- The record of the loop's end. -/
def endLog : Log := say .info "Fee insights loop stopped"

/-- The record of a stop that did not wait for the loop's end. -/
def lateLog (grace : Number) : Log :=
  say .warning s!"Fee insights loop did not stop within {grace.text}s"

/-- The steps that the loop takes from one wait to the next. -/
def stepsPerCycle : Nat := 8

/-- Runs the loop from one wait to the next, each time for as long as it takes, until it ends or a
number of waits is over. -/
def watch {ω : Type} (cycle : Loop → ω → Loop × ω) : Nat → Loop → ω → Loop × ω
  | 0, l, w => (l, w)
  | waits + 1, l, w =>
    let (l, w) := l.settle cycle stepsPerCycle w
    if l.stage = .ended then (l, w) else watch cycle waits (l.act .timeout) w

end FeeWatch.Monitor
