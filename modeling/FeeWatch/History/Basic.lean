import FeeWatch.Fee.Point
import FeeWatch.Fee.Snapshot
import FeeWatch.Files
import FeeWatch.Json.Reader

/-! What a history of points and snapshots keeps, and how it fails.

A history is append-only. It keeps points and snapshots as records of texts and
whole numbers, from which they are read back. -/
namespace FeeWatch.History

open FeeWatch.Fee (Point Snapshot)

/-- Why a history did not do what it was asked. -/
inductive Fault where
  /-- No kind of history has this name. -/
  | unknownBackend (name : String)
  /-- The history was closed. -/
  | closed
  /-- A whole number does not fit 64 bits. -/
  | tooLarge
  /-- A limit is no whole number. -/
  | mismatch
  /-- A database takes no values of a kind. -/
  | unbound (kind : String)
  /-- The file is no database. -/
  | notDatabase
  /-- The database cannot be opened. -/
  | cannotOpen
  | files (f : Files.Fault)
  | json (f : Json.Fault)
  | misfit (m : Datum.Misfit)
  | point (f : Point.Fault)
deriving DecidableEq, Repr, Inhabited

def Fault.message : Fault → String
  | .unknownBackend name => s!"Unknown backend: {name}"
  | .closed => "Cannot operate on a closed database."
  | .tooLarge => "Python int too large to convert to SQLite INTEGER"
  | .mismatch => "datatype mismatch"
  | .unbound kind => s!"Error binding parameter 1: type {Datum.named kind} is not supported"
  | .notDatabase => "file is not a database"
  | .cannotOpen => "unable to open database file"
  | .files f => f.message
  | .json f => f.message
  | .misfit m => m.message
  | .point f => f.message

/-- Whether the medium itself failed, not a value that was to be kept in it. -/
def Fault.isMedium : Fault → Bool
  | .closed => true
  | .mismatch => true
  | .unbound _ => true
  | .notDatabase => true
  | .cannotOpen => true
  | .files _ => true
  | _ => false

/-- The snapshots of records that lie between two texts of times, ends included, oldest first;
records of one time keep their order. Times compare as texts. -/
def between (lo hi : String) (records : List (String × Datum)) : List Datum :=
  let inside := records.filter fun (time, _) => !(decide (time < lo) || decide (hi < time))
  (inside.mergeSort fun a b => !decide (b.1 < a.1)).map (·.2)

end FeeWatch.History
