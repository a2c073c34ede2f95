import FeeWatch.History.Basic
import FeeWatch.Json.Writer
import FeeWatch.Text.Blank
import FeeWatch.Text.Lines

/-! A history in lines of JSON.

Each record is one line of a text, and lines of blanks do not count. Texts may have
been edited by others, so reading them back can fail in every way. -/
namespace FeeWatch.History

open FeeWatch.Fee (Point Snapshot)

/-- What stands where a text of lines belongs. -/
inductive Sheet where
  | text (s : String)
  /-- A folder stands there, at a path. -/
  | folder (path : String)
deriving DecidableEq, Repr, Inhabited

namespace Sheet

def read : Sheet → Except Fault String
  | .text s => .ok s
  | .folder path => .error (.files (.isFolder path))

def add (sheet : Sheet) (added : String) : Except Fault Sheet :=
  sheet.read.map fun s => .text (s ++ added)

end Sheet

/-- The sheets of points and of snapshots. -/
structure Lines where
  points : Sheet
  snapshots : Sheet
deriving DecidableEq, Repr, Inhabited

namespace Lines

def report (l : Lines) : Except Fault Datum := do
  let points ← l.points.read
  let snapshots ← l.snapshots.read
  .ok (.record [("points_text", .text points), ("snapshots_text", .text snapshots)])

/-- The lines of a text that count. -/
def lines (s : String) : List (List Char) :=
  (Text.splitLines (Text.unifyEnds s.toList)).filter fun line => !line.all Text.isBlank

/-- The data of a sheet's lines. -/
def read (sheet : Sheet) : Except Fault (List Datum) := do
  (lines (← sheet.read)).mapM fun line => (Json.read (String.ofList line)).mapError .json

def line (record : Datum) : String := Json.write .unicode record ++ "\n"

/-- A sheet with records added, if none of them has a number that is too long to be written. -/
def append (sheet : Sheet) (records : List Datum) : Except Fault Sheet := do
  let s ← sheet.read
  if records.any Datum.isOverlong then .error (.misfit (.number .unwritable))
  else .ok (.text (s ++ String.join (records.map line)))

/-- Adds records to a sheet. The records before one that cannot be written are added nevertheless. -/
def put (sheet : Sheet) (records : List Datum) : Except Fault Unit × Sheet :=
  match append sheet records with
  | .ok sheet => (.ok (), sheet)
  | .error f =>
    let before := records.takeWhile fun r => !r.isOverlong
    (.error f, (append sheet before).toOption.getD sheet)

def appendPoints (l : Lines) (points : List Point) : Except Fault Unit × Lines :=
  let (result, points) := put l.points (points.map Point.record)
  (result, { l with points })

def appendSnapshot (l : Lines) (s : Snapshot) : Except Fault Unit × Lines :=
  let (result, snapshots) := put l.snapshots [s.record]
  (result, { l with snapshots })

/-- The number of records of points. -/
def count (l : Lines) : Except Fault Nat := (read l.points).map List.length

/-- The number of records that a limit asks for. -/
def counted : Datum → Except Fault Nat
  | .scalar (.bool b) => .ok b.toNat
  | .scalar (.int n) => .ok n.toNat
  | _ => .error (.misfit .noCount)

/-- The last points, oldest first; a limit that is not positive gives none. -/
def recent (l : Lines) (limit : Datum) : Except Fault (List Point) := do
  if ← (limit.isGreater (.int 0)).mapError .misfit then
    let records ← read l.points
    let n ← counted limit
    (records.drop (records.length - n)).mapM fun d => (Point.ofRecord d).mapError .point
  else .ok []

/-- The time of a record, if it is not before a text; times after it are not looked at. -/
def timed (lo : String) (d : Datum) : Except Fault (String × Datum) :=
  match d.part "captured_at" with
  | .error m => .error (.misfit m)
  | .ok (.scalar (.text time)) => .ok (time, d)
  | .ok other => .error (.misfit (.unordered "<=" (Scalar.kind (.text lo)) other.kind))

/-- The snapshots between two times, oldest first. -/
def between (l : Lines) (lo hi : String) : Except Fault (List Snapshot) := do
  let records ← read l.snapshots
  let records ← records.mapM (timed lo)
  (History.between lo hi records).mapM fun d => (Snapshot.ofRecord d).mapError .misfit

/-- The last snapshot; an empty record counts as none. -/
def latest (l : Lines) : Except Fault (Option Snapshot) := do
  let records ← read l.snapshots
  match records.getLast? with
  | none => .ok none
  | some d =>
    if d.isSome then ((Snapshot.ofRecord d).map some).mapError .misfit else .ok none

end Lines
end FeeWatch.History
