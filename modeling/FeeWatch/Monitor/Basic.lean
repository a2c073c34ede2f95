import FeeWatch.Alert.Desk
import FeeWatch.Congestion.Detector
import FeeWatch.History.Store
import FeeWatch.Monitor.Settings
import FeeWatch.Service.Error
import FeeWatch.Source.Basic

/-! The monitor: what it holds between cycles, and what readers see of it.

Readers see one snapshot and one status, which are replaced whole. The history is
kept by a keeper of any kind, which may fail; the monitor goes on without it. -/
namespace FeeWatch

open FeeWatch.Calendar (Instant)
open FeeWatch.Fee (Point Snapshot Status Phase)

namespace Monitor

/-- What readers see. -/
structure Published where
  snapshot : Option Snapshot
  status : Status
deriving DecidableEq, Repr, Inhabited

/-- Why a keeper did not keep something. -/
structure Trouble where
  /-- Whether the keeper's medium failed. -/
  medium : Bool
  text : String
deriving DecidableEq, Repr, Inhabited

/-- A way to keep a history of points and snapshots in a state. -/
structure Keeper (α : Type) where
  keepPoints : List Point → α → Except Trouble Unit × α × Log
  keepSnapshot : Snapshot → α → Except Trouble Unit × α × Log

/-- The trouble of a store's fault. -/
def Trouble.ofFault (f : History.Fault) : Trouble := ⟨f.isMedium, f.message⟩

def Keeper.store : Keeper History.Store where
  keepPoints points s :=
    let (result, s, log) := s.appendPoints points
    ((result.map fun _ => ()).mapError .ofFault, s, log)
  keepSnapshot snapshot s :=
    let (result, s, log) := s.appendSnapshot snapshot
    (result.mapError .ofFault, s, log)

/-- Why a monitor could not be set up. -/
inductive SetupFault where
  | congestion (f : Congestion.Fault)
  | bounds (f : Window.Bounds.Fault)
deriving DecidableEq, Repr, Inhabited

def SetupFault.message : SetupFault → String
  | .congestion f => f.message
  | .bounds (.setting f) => f.message
  | .bounds (.span f) => f.message
  | .bounds (.misfit m) => m.message

end Monitor

/-- A monitor of fees whose history is kept in `α`. -/
structure Monitor (α : Type) where
  settings : Monitor.Settings
  window : Window
  detector : Congestion.Detector
  published : Monitor.Published
  /-- Where the history is kept, if it is kept. -/
  archive : Option α
  /-- Who announces changes, if anyone does. -/
  desk : Option Alert.Desk

namespace Monitor
variable {α : Type}

/-- A monitor that has run no cycle yet, if its settings are in range. -/
def make (source : String) (s : Settings) (archive : Option α) (desk : Option Alert.Desk) :
    Except SetupFault (Monitor α) := do
  s.check.mapError SetupFault.congestion
  let bounds ← (Window.Bounds.make s.maxPoints s.maxAge).mapError SetupFault.bounds
  let detector ← (Congestion.Detector.make s.thresholds).mapError SetupFault.congestion
  .ok { settings := s, window := .empty bounds, detector
        published := ⟨none, { source }⟩, archive, desk }

def status (m : Monitor α) : Status := m.published.status

def current (m : Monitor α) : Option Snapshot := m.published.snapshot

/-- Changes the published status. -/
def setStatus (m : Monitor α) (change : Status → Status) : Monitor α :=
  { m with published := ⟨m.current, change m.status⟩ }

/-- Enters a phase of the cycle. -/
def enter (m : Monitor α) (phase : Phase) : Monitor α := m.setStatus ({ · with phase })

def say (level : Level) (text : String) : Log := [⟨level, .monitor, text⟩]

/-- What a health check of the source comes to: a failure means that the source is not healthy,
anything else that goes wrong is passed on. -/
def health (m : Monitor α) (checked : Except Source.Fault Unit) : Except Source.Fault Bool × Log :=
  match checked with
  | .ok () => (.ok true, [])
  | .error (.failure f) =>
    (.ok false, say .warning s!"Provider {m.status.source} health check failed: {f.text}")
  | .error f => (.error f, [])

end Monitor
end FeeWatch
