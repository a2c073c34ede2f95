import FeeWatch.Monitor.Watch
import FeeWatch.Source.Provider

/-! The station: a monitor with its source, its clock, and the flags of its loop.

Besides single cycles a station can rehearse its loop on outcomes that are known
beforehand: every fetch comes a second after the one before and takes the next
outcome. A loop in the calling thread is stopped by the fetch that takes the last
outcome. A loop in a thread of its own is woken for every outcome after the first and
stopped from outside, in the middle of its first fetch or when it waits at last. -/
namespace FeeWatch.Monitor

open FeeWatch.Calendar (Instant)
open FeeWatch.Fee (Point Phase Snapshot)

/-- What a fetch may come to. -/
abbrev Outcome := Except Source.Fault (List Point)

structure Station (α : Type) where
  monitor : Monitor α
  source : Source.Provider
  now : Instant
  wake : Bool := false
  stop : Bool := false

structure Rehearsal (α : Type) where
  station : Station α
  /-- The outcomes that are still to come. -/
  outcomes : List Outcome
  /-- How many fetches there were. -/
  fetches : Nat
  log : Log

namespace Station
variable {α : Type} (K : Keeper α) (s : Station α)

def cycle : Run α × Station α :=
  let (outcome, source, log) := s.source.fetch
  let run := Monitor.cycle K s.monitor outcome s.now
  ({ run with log := log ++ run.log }, { s with source, monitor := run.monitor })

/-- Asks whether the source is healthy. -/
def health : Except Source.Fault Bool × Station α × Log :=
  let (checked, source) := s.source.health
  let (result, log) := s.monitor.health checked
  (result, { s with source }, log)

/-- What readers see of a station, its window and its detector. -/
def report : Datum :=
  let c := s.monitor.detector
  .record [("status", s.monitor.status.report),
    ("current", (s.monitor.current.map Snapshot.report).getD .null),
    ("window", s.monitor.window.report),
    ("detector", .list [.text c.state.word, .int c.streak])]

/-- The loop of a station at rest. -/
def loop : Loop := ⟨.ended, s.wake, s.stop⟩

/-- Stops a station whose loop does not run. -/
def halt : Station α := { s with wake := true, stop := true }

/-- Tells the source what fetches are to come to. -/
def tell (outcome : Outcome) : Station α := { s with source := s.source.tell outcome }

/-! ### Rehearsals -/

/-- A second later, as far as the calendar goes. -/
def later : Instant := (Instant.ofTicks? (s.now.ticks + Calendar.second : Nat)).getD s.now

/-- A rehearsal that begins. -/
def rehearse (outcomes : List Outcome) : Rehearsal α := ⟨s, outcomes, 0, s.monitor.beginLog⟩

/-- A cycle of a rehearsal. With `last`, the fetch that takes the last outcome stops the loop. -/
def rehearseCycle (last : Bool) (l : Loop) (r : Rehearsal α) : Loop × Rehearsal α :=
  let s := { r.station with now := r.station.later }
  let s := match r.outcomes with
    | outcome :: _ => s.tell outcome
    | [] => s
  let (run, s) := s.cycle K
  let (monitor, log) := run.contain
  let outcomes := r.outcomes.drop 1
  (if last && outcomes.isEmpty then l.requestStop else l,
    ⟨{ s with monitor }, outcomes, r.fetches + 1, r.log ++ log⟩)

/-- A rehearsal whose loop has ended. -/
def finish (l : Loop) (r : Rehearsal α) : Rehearsal α :=
  { r with station := { r.station with wake := l.wake, stop := l.stop }, log := r.log ++ endLog }

/-- Runs the loop in the calling thread. -/
def runLoop (outcomes : List Outcome) : Rehearsal α :=
  let (l, r) := watch (rehearseCycle K true) (outcomes.length + 1) (.begin s.wake s.stop)
    (s.rehearse outcomes)
  finish l r

/-- Lets the loop go on until it waits or has ended. -/
def settle (l : Loop) (r : Rehearsal α) : Loop × Rehearsal α :=
  l.settle (rehearseCycle K false) stepsPerCycle r

/-- Wakes the loop, and lets it go on. -/
def rouse (state : Loop × Rehearsal α) : Loop × Rehearsal α :=
  settle K (state.1.act .trigger) state.2

/-- Starts the loop in a thread of its own and stops it when it waits after the last outcome. Before
that it is started once more; gives what this came to. -/
def runThread (outcomes : List Outcome) : Except Loop.Refusal Unit × Rehearsal α :=
  let first := settle K s.loop.start.2 (s.rehearse outcomes)
  let (l, r) := (outcomes.drop 1).foldl (fun state _ => rouse K state) first
  let (second, l) := l.start
  let (l, r) := settle K l.requestStop r
  (second, finish l r)

/-- Starts the loop in a thread of its own and stops it during its first fetch, without waiting for
its end; the fetch then returns. Gives the phase that is seen during the fetch, and what it came
to that the loop was started once more then. -/
def runBlocked (outcomes : List Outcome) : Phase × Except Loop.Refusal Unit × Rehearsal α :=
  let begun := s.loop.start.2.run [.advance, .advance]
  let (second, begun) := begun.start
  let r := s.rehearse outcomes
  let (l, r) := settle K begun.requestStop { r with log := r.log ++ lateLog 0 }
  ((s.monitor.enter .fetching).status.phase, second, finish l r)

end Station
end FeeWatch.Monitor
