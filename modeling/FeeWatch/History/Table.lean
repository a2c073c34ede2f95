import FeeWatch.History.Basic

/-! A history in the tables of a database.

Rows are numbered from one. The rows of a call are inserted one by one; a whole
number beyond 64 bits stops the call and leaves the rows before it in the open
transaction, where they are visible, are committed by the next call that
succeeds, and are lost when the database is closed. -/
namespace FeeWatch.History

open FeeWatch.Fee (Point Snapshot)

structure PointRow where
  fee : Nat
  time : String
  hash : String
  ledger : Nat
deriving DecidableEq, Repr, Inhabited

structure SnapshotRow where
  base : String
  min : String
  max : String
  avg : String
  time : String
deriving DecidableEq, Repr, Inhabited

namespace PointRow

def ofPoint (p : Point) : PointRow := ⟨p.fee, p.time.text, p.hash, p.ledger⟩

def record (r : PointRow) : Datum :=
  .record [("fee_amount", .int r.fee), ("timestamp", .text r.time),
    ("transaction_hash", .text r.hash), ("ledger_sequence", .int r.ledger)]

def values (r : PointRow) : List Datum := [.int r.fee, .text r.time, .text r.hash, .int r.ledger]

/-- The greatest whole number of a row. -/
def greatest : Nat := Number.twoTo 63 - 1

/-- Whether the whole numbers of a row fit. -/
def fits (r : PointRow) : Bool := r.fee ≤ greatest && r.ledger ≤ greatest

end PointRow

namespace SnapshotRow

def ofSnapshot (s : Snapshot) : SnapshotRow := ⟨s.base, s.min, s.max, s.avg, s.time.text⟩

def record (r : SnapshotRow) : Datum :=
  .record [("base_fee", .text r.base), ("min_fee", .text r.min), ("max_fee", .text r.max),
    ("avg_fee", .text r.avg), ("captured_at", .text r.time)]

def values (r : SnapshotRow) : List Datum :=
  [.text r.base, .text r.min, .text r.max, .text r.avg, .text r.time]

end SnapshotRow

def numbered (rows : List (List Datum)) : Datum :=
  .list (rows.mapIdx fun i row => .list (.int (i + 1 : Nat) :: row))

/-- The tables of a database, rows in the order of their numbers. -/
structure Table where
  points : List PointRow
  /-- How many rows of points are committed. -/
  committed : Nat
  snapshots : List SnapshotRow
  /-- Whether the request before this one had a limit that was no whole number. -/
  refused : Bool
deriving DecidableEq, Repr, Inhabited

namespace Limit

/-- The whole number that a double is, if it is one that fits. -/
def ofFloat (x : Number.Binary) : Except Fault Int :=
  match x.toInt with
  | .ok n =>
    let isWhole := Number.compare? (.int n) (.float x) == some .eq
    if isWhole && n.natAbs < Number.twoTo 63 then .ok n else .error .mismatch
  | .error _ => .error .mismatch

/-- Whether a character may stand in the text of a number. -/
def isNumeric (c : Char) : Bool := c.isDigit || "+-.eE".toList.contains c

/-- The whole number that a text writes. -/
def ofText (s : String) : Except Fault Int :=
  let body := String.ofList (Text.trim Text.isPlainBlank s.toList)
  if body.toList.all isNumeric then
    match Number.readInt body, Number.readFloat body with
    | .ok n, .ok x => if Number.fitsWord n then .ok n else ofFloat x
    | _, .ok x => ofFloat x
    | _, .error _ => .error .mismatch
  else .error .mismatch

/-- The whole number that a limit is taken for. -/
def read : Datum → Except Fault Int
  | .scalar (.bool b) => .ok (if b then 1 else 0)
  | .scalar (.int n) => if Number.fitsWord n then .ok n else .error .tooLarge
  | .scalar (.float x) => ofFloat x
  | .scalar (.text s) => ofText s
  | .scalar .null => .error .mismatch
  | .scalar (.bytes _) => .error .mismatch
  | d => .error (.unbound d.kind)

end Limit

namespace Table

/-- Tables without rows. -/
def empty : Table := ⟨[], 0, [], false⟩

/-- Nothing is left of a limit that was refused. -/
def forgive (t : Table) : Table := { t with refused := false }

/-- All rows become lasting. -/
def commit (t : Table) : Table := { t with committed := t.points.length }

/-- Rows that are not committed are lost. -/
def rollback (t : Table) : Table :=
  { t with points := t.points.take t.committed, refused := false }

/-- Inserts rows up to the first that does not fit. -/
def insert (t : Table) (rows : List PointRow) : Table :=
  { t with points := t.points ++ rows.takeWhile PointRow.fits }

/-- Appends points and commits them, unless one does not fit. -/
def appendPoints (t : Table) (points : List Point) : Except Fault Nat × Table :=
  let rows := points.map PointRow.ofPoint
  let t := t.forgive.insert rows
  if rows.all PointRow.fits then (.ok points.length, t.commit) else (.error .tooLarge, t)

/-- Appends a snapshot and commits it. -/
def appendSnapshot (t : Table) (s : Snapshot) : Table :=
  ({ t.forgive with snapshots := t.snapshots ++ [.ofSnapshot s] } : Table).commit

/-- The last points, oldest first; a negative limit is none. -/
def last (t : Table) (limit : Int) : Except Fault (List Point) :=
  let rows := if limit < 0 then t.points else t.points.drop (t.points.length - limit.toNat)
  rows.mapM fun r => (Point.ofRecord r.record).mapError .point

/-- The last points up to a limit of any kind. Where the request before was refused for its limit,
one with a limit that cannot be passed on at all is refused in the same words. -/
def recent (t : Table) (limit : Datum) : Except Fault (List Point) × Table :=
  match Limit.read limit with
  | .ok n => (t.last n, t.forgive)
  | .error .mismatch => (.error .mismatch, { t with refused := true })
  | .error f => (.error (if t.refused then .mismatch else f), t)

/-- The snapshots between two times, oldest first. -/
def between (t : Table) (lo hi : String) : Except Fault (List Snapshot) :=
  (History.between lo hi (t.snapshots.map fun r => (r.time, r.record))).mapM fun d =>
    (Snapshot.ofRecord d).mapError .misfit

def report (t : Table) : Datum :=
  .record [("points", numbered (t.points.map PointRow.values)),
    ("snapshots", numbered (t.snapshots.map SnapshotRow.values))]

def latest (t : Table) : Except Fault (Option Snapshot) :=
  match t.snapshots.getLast? with
  | none => .ok none
  | some r => (Snapshot.ofRecord r.record).map some |>.mapError .misfit

end Table
end FeeWatch.History
