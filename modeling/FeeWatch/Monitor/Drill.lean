import FeeWatch.Monitor.Basic

/-! A keeper that can be told to fail.

While it is told so, it answers every call of a kind with the same incident, and the
store behind it stays as it is. -/
namespace FeeWatch.Monitor

/-- A store, and the incidents that calls meet instead of it. -/
structure Drill where
  store : History.Store
  points : Option Incident := none
  snapshot : Option Incident := none
deriving Inhabited

/-- Whether an incident is one of the medium's. -/
def isMedium (i : Incident) : Bool :=
  match i.nature with
  | .system => true
  | .database => true
  | _ => false

def Trouble.ofIncident (i : Incident) : Trouble := ⟨isMedium i, i.text⟩

/-- Keeps the history in the store unless it was told to fail. -/
def Keeper.drill : Keeper Drill where
  keepPoints points d :=
    match d.points with
    | some i => (.error (.ofIncident i), d, [])
    | none =>
      let (result, store, log) := Keeper.store.keepPoints points d.store
      (result, { d with store }, log)
  keepSnapshot snapshot d :=
    match d.snapshot with
    | some i => (.error (.ofIncident i), d, [])
    | none =>
      let (result, store, log) := Keeper.store.keepSnapshot snapshot d.store
      (result, { d with store }, log)

end FeeWatch.Monitor
