import FeeWatch.Source.Ledger
import FeeWatch.Source.Scripted

/-! Sources of either kind: one that returns what it was told to, or a ledger service
whose replies are known beforehand. -/
namespace FeeWatch.Source

open FeeWatch.Fee (Point)

inductive Provider where
  | scripted (s : Scripted)
  | ledger (l : Ledger) (script : Script)
deriving Repr, Inhabited

namespace Provider

def name : Provider → String
  | .scripted _ => Scripted.name
  | .ledger .. => Ledger.name

def metadata : Provider → Metadata
  | .scripted _ => Scripted.metadata
  | .ledger .. => Ledger.metadata

/-- Asks for points. -/
def fetch : Provider → Except Fault (List Point) × Provider × Log
  | .scripted s =>
    let (result, s) := s.fetch
    (result, .scripted s, [])
  | .ledger l script =>
    let (result, l, script, log) := l.fetch Script.serve script
    (result, .ledger l script, log)

/-- Asks whether a source is healthy. -/
def health : Provider → Except Fault Unit × Provider
  | .scripted s => (s.health, .scripted s)
  | .ledger l script =>
    let (result, script) := l.health Script.serve script
    (result, .ledger l script)

/-- Tells a source that can be told so what fetches are to come to. -/
def tell (outcome : Except Fault (List Point)) : Provider → Provider
  | .scripted s =>
    match outcome with
    | .ok points => .scripted { s with points, fault := none }
    | .error f => .scripted { s with fault := some f }
  | p => p

/-- Tells a source that can be told so whether it is healthy. -/
def setHealthy (healthy : Bool) : Provider → Provider
  | .scripted s => .scripted { s with healthy }
  | p => p

/-- Gives a ledger service its replies, if there are new ones, and forgets earlier requests. -/
def script (replies : Option (List Reply)) : Provider → Provider
  | .ledger l s => .ledger l ⟨replies.getD s.replies, []⟩
  | p => p

end Provider
end FeeWatch.Source
