import FeeWatch.Source.Basic

/-! A source that returns what it was told to: fixed points, or a fixed fault, which
goes before points. It counts the fetches. -/
namespace FeeWatch.Source

open FeeWatch.Fee (Point)

/-- A source with a fixed outcome. -/
structure Scripted where
  points : List Point := []
  fault : Option Fault := none
  healthy : Bool := true
  /-- How often it was asked for points. -/
  calls : Nat := 0
deriving Repr, Inhabited

namespace Scripted

def name : String := "MockHorizon"

def metadata : Metadata := ⟨false, 100, none, 5⟩

/-- Asks for points. -/
def fetch (s : Scripted) : Except Fault (List Point) × Scripted :=
  let s := { s with calls := s.calls + 1 }
  match s.fault with
  | some f => (.error f, s)
  | none => (.ok s.points, s)

/-- Asks whether the source is healthy. -/
def health (s : Scripted) : Except Fault Unit :=
  if s.healthy then .ok () else .error (.failure .unavailable)

end Scripted
end FeeWatch.Source
