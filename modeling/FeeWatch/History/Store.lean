import FeeWatch.History.Lines
import FeeWatch.History.Table
import FeeWatch.Log

/-! The store of a history: a database, in memory or in a file, or two texts of
lines. Every operation gives the store after it and what it logged. -/
namespace FeeWatch.History

open FeeWatch.Calendar (Instant)
open FeeWatch.Fee (Point Snapshot)

/-- Where the tables of a database live. -/
inductive Place where
  | memory
  | file (path : String)
deriving DecidableEq, Repr, Inhabited

inductive Store where
  | database (place : Place) (isOpen : Bool) (table : Table)
  | lines (folder : String) (lines : Lines)
deriving DecidableEq, Repr, Inhabited

namespace Store

/-- The name of a database that lives in memory. -/
def memoryPath : String := ":memory:"

/-- The path of a database when none is given. -/
def defaultPath : String := "state/fee_insights.db"

/-- The folder of the lines when none is given. -/
def defaultFolder : String := "state/records"

def pointsName : String := "fee_data_points.jsonl"

def snapshotsName : String := "fee_snapshots.jsonl"

def say (level : Level) (text : String) : Log := [⟨level, .store, text⟩]

/-- A given text, or a default for a missing or empty one. -/
def orDefault (given : Option String) (default : String) : String :=
  match given with
  | some s => if s = "" then default else s
  | none => default

/-- The most octets of the name of a database, which must leave room for that of its journal. -/
def nameLimit : Nat := Files.nameLimit - "-journal".length

/-- The most octets of the path of a database. -/
def pathLimit : Nat := 490

/-- Whether a path is too long for a database. -/
def isTooLong (path : String) (at_ : List String) : Bool :=
  pathLimit < path.utf8ByteSize || nameLimit < (at_.getLast?.getD "").utf8ByteSize

/-- Whether a text counts as a database that is still empty: a single octet is overlooked. -/
def isFresh (s : String) : Bool := s.utf8ByteSize ≤ 1

/-- Opens a database. Its folder is made; a file that is there must be a database, and of texts
only an empty one is. The database stands where its path leads by its names alone. -/
def openDatabase (path : String) (f : Files) : Except Fault (Store × Files × Log) := do
  let log := say .info s!"Initialized SQLite fee store: {path}"
  if path = memoryPath then .ok (.database .memory true .empty, f, log)
  else
    let f ← (f.makeFolder (Files.parent path)).mapError .files
    let at_ := f.locate path
    if path.toList.any (·.toNat == 0) then .error (.files .hasZero)
    else if isTooLong path at_ then .error .cannotOpen
    else
      match f.node? at_ with
      | some .folder => .error .cannotOpen
      | some (.text s) =>
        if isFresh s then .ok (.database (.file path) true .empty, f, log)
        else .error .notDatabase
      | none => .ok (.database (.file path) true .empty, f.set at_ (.text ""), log)

/-- The sheet at a path, which is made if nothing stands there. -/
def openSheet (path : String) (f : Files) : Except Fault (Sheet × Files) := do
  let f ← (f.touch path).mapError .files
  match f.read path with
  | .ok s => .ok (.text s, f)
  | .error (.isFolder path) => .ok (.folder path, f)
  | .error fault => .error (.files fault)

/-- Opens texts of lines, which are made if they are not there. -/
def openLines (folder : String) (f : Files) : Except Fault (Store × Files × Log) := do
  let f ← (f.makeFolder folder).mapError .files
  let (points, f) ← openSheet (Files.below folder pointsName) f
  let (snapshots, f) ← openSheet (Files.below folder snapshotsName) f
  .ok (.lines folder ⟨points, snapshots⟩, f, say .info s!"Initialized JSONL fee store: {folder}")

/-- Opens the store of a kind. -/
def make (backend : String) (path folder : Option String) (f : Files) :
    Except Fault (Store × Files × Log) :=
  if backend = "sqlite" then openDatabase (orDefault path defaultPath) f
  else if backend = "jsonl" then openLines (orDefault folder defaultFolder) f
  else .error (.unknownBackend backend)

/-- Appends points; none need no store. -/
def appendPoints (s : Store) (points : List Point) : Except Fault Nat × Store × Log :=
  if points.isEmpty then (.ok 0, s, [])
  else
    let log := say .debug s!"Stored {points.length} fee data points"
    match s with
    | .lines folder l =>
      match l.appendPoints points with
      | (.ok (), l) => (.ok points.length, .lines folder l, log)
      | (.error f, l) => (.error f, .lines folder l, [])
    | .database place false t => (.error .closed, .database place false t, [])
    | .database place true t =>
      match t.appendPoints points with
      | (.ok n, t) => (.ok n, .database place true t, log)
      | (.error f, t) => (.error f, .database place true t, [])

def appendSnapshot (s : Store) (snapshot : Snapshot) : Except Fault Unit × Store × Log :=
  let log := say .debug s!"Stored fee snapshot captured at {snapshot.time.text}"
  match s with
  | .lines folder l =>
    match l.appendSnapshot snapshot with
    | (.ok (), l) => (.ok (), .lines folder l, log)
    | (.error f, l) => (.error f, .lines folder l, [])
  | .database place false t => (.error .closed, .database place false t, [])
  | .database place true t => (.ok (), .database place true (t.appendSnapshot snapshot), log)

/-- The number of points. -/
def count : Store → Except Fault Nat
  | .lines _ l => l.count
  | .database _ false _ => .error .closed
  | .database _ true t => .ok t.points.length

/-- The last points, oldest first. -/
def recent (s : Store) (limit : Datum) : Except Fault (List Point) × Store :=
  match s with
  | .lines _ l => (l.recent limit, s)
  | .database _ false _ => (.error .closed, s)
  | .database place true t =>
    let (points, t) := t.recent limit
    (points, .database place true t)

/-- The store after a question that has no limit. -/
def forgive : Store → Store
  | .lines folder l => .lines folder l
  | .database place isOpen t => .database place isOpen t.forgive

/-- The snapshots between two instants, oldest first. -/
def between (s : Store) (start finish : Instant) : Except Fault (List Snapshot) :=
  match s with
  | .lines _ l => l.between start.text finish.text
  | .database _ false _ => .error .closed
  | .database _ true t => t.between start.text finish.text

def latest : Store → Except Fault (Option Snapshot)
  | .lines _ l => l.latest
  | .database _ false _ => .error .closed
  | .database _ true t => t.latest

/-- Closes the store: rows of a database that are not committed are lost. Texts stay as they
are. -/
def close : Store → Store × Log
  | .lines folder l => (.lines folder l, [])
  | .database place _ t =>
    (.database place false t.rollback, say .debug "Closed SQLite connection")

/-- Opens the store again: tables in memory start empty, others are as they were. -/
def reopen : Store → Store × Log
  | .lines folder l => (.lines folder l, say .info s!"Initialized JSONL fee store: {folder}")
  | .database .memory _ _ =>
    (.database .memory true .empty, say .info s!"Initialized SQLite fee store: {memoryPath}")
  | .database (.file path) _ t =>
    (.database (.file path) true t.rollback, say .info s!"Initialized SQLite fee store: {path}")

/-- Everything that the store holds as a datum. -/
def report : Store → Except Fault Datum
  | .lines _ l => l.report
  | .database _ true t => .ok t.report
  | .database _ false _ => .error .closed

/-- Adds text to the sheet of one kind, as an editor would. -/
def addRaw (s : Store) (name text : String) : Except Fault Store :=
  match s with
  | .lines folder l =>
    if name = pointsName then
      (l.points.add text).map fun points => .lines folder { l with points }
    else if name = snapshotsName then
      (l.snapshots.add text).map fun snapshots => .lines folder { l with snapshots }
    else .ok s
  | s => .ok s

end Store
end FeeWatch.History
