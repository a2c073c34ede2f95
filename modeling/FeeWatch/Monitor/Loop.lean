/-! The loop that runs cycles.

The loop tests whether it is to stop, forgets earlier requests, runs a cycle,
tests again, and waits until the interval is over or a cycle is requested. Two
flags connect it with the rest of the program: `wake`, which a request sets, and
`stop`, which a stop sets before `wake`. Each act on a flag and each step of the
loop happens at once. A loop that has ended can be started again; one that has not
ended cannot, and a stop that is pending stays so. -/
namespace FeeWatch.Monitor

inductive Stage where
  /-- Before the test at the top. -/
  | top
  /-- Before earlier requests are forgotten. -/
  | clearing
  /-- Before a cycle. -/
  | starting
  /-- In a cycle. -/
  | cycling
  /-- Before the test after a cycle. -/
  | checking
  /-- Waiting for the interval to end or for a request. -/
  | waiting
  | ended
deriving DecidableEq, Repr, Inhabited

structure Loop where
  stage : Stage
  wake : Bool
  stop : Bool
deriving DecidableEq, Repr, Inhabited

/-- What may happen next. -/
inductive Act where
  /-- The loop takes its next step, if it can. -/
  | advance
  /-- The interval ends. -/
  | timeout
  /-- A cycle is requested. -/
  | trigger
  /-- The first half of a stop. -/
  | raiseStop
  /-- The second half of a stop. -/
  | raiseWake
  /-- Somebody starts the loop. -/
  | start
deriving DecidableEq, Repr, Inhabited

namespace Loop

/-- Why a loop was not started. -/
inductive Refusal where
  /-- It has not ended yet. -/
  | running
deriving DecidableEq, Repr, Inhabited

def Refusal.message : Refusal → String
  | .running => "engine loop already running"

/-- A loop that begins with given flags. -/
def begin (wake stop : Bool) : Loop := ⟨.top, wake, stop⟩

/-- Starts a loop anew, unless it has not ended yet. A stop of the last one is forgotten then. -/
def start (l : Loop) : Except Refusal Unit × Loop :=
  if l.stage = .ended then (.ok (), .begin l.wake false) else (.error .running, l)

/-- The loop's own next step. -/
def advance (l : Loop) : Loop :=
  match l.stage with
  | .top => { l with stage := if l.stop then .ended else .clearing }
  | .clearing => { l with wake := false, stage := .starting }
  | .starting => { l with stage := .cycling }
  | .cycling => { l with stage := .checking }
  | .checking => { l with stage := if l.stop then .ended else .waiting }
  | .waiting => if l.wake then { l with stage := .top } else l
  | .ended => l

def act (l : Loop) : Act → Loop
  | .advance => l.advance
  | .timeout => if l.stage = .waiting then { l with stage := .top } else l
  | .trigger => { l with wake := true }
  | .raiseStop => { l with stop := true }
  | .raiseWake => { l with wake := true }
  | .start => l.start.2

def run (l : Loop) (acts : List Act) : Loop := acts.foldl act l

/-- Both halves of a stop. -/
def requestStop (l : Loop) : Loop := l.run [.raiseStop, .raiseWake]

/-- Whether the loop can go no further by itself. -/
def isIdle (l : Loop) : Bool :=
  match l.stage with
  | .ended => true
  | .waiting => !l.wake
  | _ => false

/-- Lets the loop go on until it waits or has ended, for at most a number of steps. A cycle that
starts is run by `cycle`, which may act on the loop. -/
def settle {ω : Type} (cycle : Loop → ω → Loop × ω) : Nat → Loop → ω → Loop × ω
  | 0, l, w => (l, w)
  | fuel + 1, l, w =>
    if l.isIdle then (l, w)
    else if l.stage = .starting then
      let (l, w) := cycle l.advance w
      settle cycle fuel l.advance w
    else settle cycle fuel l.advance w

theorem run_cons (l : Loop) (a : Act) (acts : List Act) : l.run (a :: acts) = (l.act a).run acts :=
  rfl

theorem run_append (l : Loop) (a b : List Act) : l.run (a ++ b) = (l.run a).run b := by
  simp [run]

end Loop
end FeeWatch.Monitor
