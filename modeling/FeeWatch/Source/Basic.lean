import FeeWatch.Fee.Point
import FeeWatch.Incident
import FeeWatch.Source.Failure

/-! Sources of fee points: what they say of themselves, and what a fetch may come to. -/
namespace FeeWatch.Source

structure Metadata where
  /-- Whether past points can be asked for. -/
  historical : Bool
  maxBatch : Nat
  /-- The most requests in a minute, if there is a limit. -/
  ratePerMinute : Option Nat
  /-- How old the newest point may be, in seconds. -/
  freshness : Nat
deriving DecidableEq, Repr, Inhabited

def Metadata.report (m : Metadata) : Datum :=
  .record [("supports_historical", .bool m.historical), ("max_batch_size", .int m.maxBatch),
    ("rate_limit_per_minute", (m.ratePerMinute.map fun (n : Nat) => Datum.int n).getD .null),
    ("data_freshness_seconds", .int m.freshness)]

/-- Why a fetch did not return points. -/
inductive Fault where
  /-- A failure of the kinds that sources are meant to have. -/
  | failure (f : Failure)
  /-- A value of an answer that cannot be used and was not recognised as such. -/
  | misfit (m : Datum.Misfit)
  /-- An incident beneath the source. -/
  | incident (i : Incident)
deriving DecidableEq, Repr, Inhabited

def Fault.message : Fault → String
  | .failure f => f.text
  | .misfit m => m.message
  | .incident i => i.text

end FeeWatch.Source
