import FeeWatch.Config.Basic
import FeeWatch.Files
import FeeWatch.Log.Entry

/-! Where entries of the log go.

A route leads every entry of at least its own weight to its sinks: the main file, a
second file that takes errors alone, and the console. Each sink has a weight of its
own. A file is bounded by a day, with older ones in an archive, or by a size: before
a line would make it reach the size it is set aside under a number, the numbers of
older ones go up by one, and what would exceed the number of backups is lost. -/
namespace FeeWatch.Log

open FeeWatch.Datum (Misfit)

/-- How a file is bounded. -/
inductive Bound where
  /-- By a day; older files go to an archive. -/
  | day (archive : String)
  /-- By a size in bytes; there is no bound unless it is positive. -/
  | size (most : Datum)
deriving Repr, Inhabited

/-- Where entries are written. -/
inductive Target where
  | file (path : String) (bound : Bound) (backups : Datum)
  | console
deriving Repr, Inhabited

/-- A target, and the weight from which on entries go there. -/
structure Sink where
  weight : Nat
  target : Target
deriving Repr, Inhabited

/-- A way for entries. -/
structure Route where
  /-- The weight from which on entries are taken. -/
  weight : Nat
  /-- The weight from which on entries of the transport are taken. -/
  transportWeight : Nat
  sinks : List Sink
deriving Repr, Inhabited

namespace Route

/-! ### Setting up -/

def mainName : String := "feeinsights.log"

def errorName : String := "feeinsights-error.log"

/-- Checks that a bound on the size can be compared with a number. -/
def checkSize (most : Datum) : Except Misfit Unit :=
  match most with
  | .scalar s =>
    if s.number?.isSome then .ok () else .error (.unordered ">" s.kind (Scalar.kind (.int 0)))
  | d => .error (.unordered ">" d.kind (Scalar.kind (.int 0)))

/-- Why entries could not be routed. -/
inductive Fault where
  | misfit (m : Misfit)
  | files (f : Files.Fault)
deriving DecidableEq, Repr, Inhabited

def Fault.message : Fault → String
  | .misfit m => m.message
  | .files f => f.message

/-- Whether the main file is bounded by a day. -/
def isDaily : Datum → Bool
  | .scalar (.text s) => s == "midnight"
  | _ => false

/-- Makes a file where there is none. Its faults name its absolute path. -/
def openFile (path : String) (f : Files) : Except Fault Files :=
  match f.node? (f.locate path) with
  | some (.text _) => .ok f
  | _ => (f.write (f.absolute (f.locate path)) "").mapError .files

/-- A file that is bounded by a size. -/
def openSized (path : String) (r : Config.Rotation) (f : Files) : Except Fault Target × Files :=
  match checkSize r.maxBytes with
  | .error m => (.error (.misfit m), f)
  | .ok () =>
    match openFile path f with
    | .error fault => (.error fault, f)
    | .ok f => (.ok (.file path (.size r.maxBytes) r.backups), f)

/-- A file that is bounded by a day. -/
def openDaily (folder path : String) (r : Config.Rotation) (f : Files) :
    Except Fault Target × Files :=
  let archive := Files.below folder "archive"
  match f.addFolder archive with
  | .error fault => (.error (.files fault), f)
  | .ok f =>
    match openFile path f with
    | .error fault => (.error fault, f)
    | .ok f => (.ok (.file path (.day archive) r.backups), f)

def openMain (folder : String) (r : Config.Rotation) (f : Files) : Except Fault Target × Files :=
  let path := Files.below folder mainName
  if isDaily r.time then openDaily folder path r f else openSized path r f

/-- The main file and the file of errors. -/
def openFiles (folder : String) (r : Config.Rotation) (f : Files) :
    Except Fault (Target × Target) × Files :=
  match openMain folder r f with
  | (.error fault, f) => (.error fault, f)
  | (.ok main, f) =>
    match openSized (Files.below folder errorName) r f with
    | (.error fault, f) => (.error fault, f)
    | (.ok errors, f) => (.ok (main, errors), f)

/-- The weights that settings give to files and console, and how files are rotated. -/
def readSettings (c : Config) : Except Misfit (Nat × Nat × Config.Rotation) := do
  let file ← c.logLevel.bind standingOf
  let console ← c.consoleLevel.bind standingOf
  let rotation ← c.rotation
  let (file, console) ← weights file console
  .ok (file, console, rotation)

/-- The route that settings give, with the files that it makes. -/
def make (c : Config) (f : Files) : Except Fault Route × Files :=
  match c.logFolder.bind Datum.path with
  | .error m => (.error (.misfit m), f)
  | .ok folder =>
    match f.makeFolder folder with
    | .error fault => (.error (.files fault), f)
    | .ok f =>
      match readSettings c with
      | .error m => (.error (.misfit m), f)
      | .ok (file, console, rotation) =>
        match openFiles folder rotation f with
        | (.error fault, f) => (.error fault, f)
        | (.ok (main, errors), f) =>
          let sinks := [⟨file, main⟩, ⟨Level.error.weight, errors⟩, ⟨console, .console⟩]
          (.ok ⟨min file console, max file Level.warning.weight, sinks⟩, f)

/-! ### Writing -/

/-- A file that is set aside, by its number. -/
def numbered (path : String) (n : Nat) : String := s!"{path}.{n}"

/-- Sets a file aside under the number one, after those that were set aside before. -/
def setAside (path : String) (backups : Nat) (f : Files) : Files :=
  match backups with
  | 0 => f
  | n + 1 => ((List.range n).reverse.foldl shift f).move path (numbered path 1) |>.place path ""
where
  /-- One number up. -/
  shift (f : Files) (i : Nat) : Files := f.move (numbered path (i + 1)) (numbered path (i + 2))

def backupCount : Datum → Nat
  | .scalar (.int n) => n.toNat
  | .scalar (.bool b) => if b then 1 else 0
  | _ => 0

/-- Whether a line would make a file reach the bound on its size: the file counts in bytes, the
line in characters. -/
def reaches (most : Datum) (text line : String) : Bool :=
  match most with
  | .scalar s =>
    match s.number? with
    | some most =>
      Number.lt 0 most && Number.le most (.int (text.utf8ByteSize + line.length : Nat))
    | none => false
  | _ => false

/-- Appends a line to a file, which is set aside before that if it is full. -/
def writeFile (path : String) (bound : Bound) (backups : Datum) (line : String) (f : Files) :
    Files :=
  let f := match bound with
    | .day _ => f
    | .size most =>
      if reaches most (f.textAt path) line then setAside path (backupCount backups) f else f
  f.place path (f.textAt path ++ line)

def isTransport (source : String) : Bool := source == "urllib3" || source.startsWith "urllib3."

/-- Whether an entry is taken. -/
def takes (r : Route) (e : Entry) : Bool :=
  let weight := if isTransport e.source then r.transportWeight else r.weight
  0 < e.weight && (weight : Int) ≤ e.weight

/-- What sinks have taken: the files, and the text of the console. -/
structure Taken where
  files : Files
  console : String
deriving Repr, Inhabited

def writeSink (time thread : String) (e : Entry) (t : Taken) (s : Sink) : Taken :=
  if (s.weight : Int) ≤ e.weight then
    match s.target with
    | .console => { t with console := t.console ++ e.consoleLine }
    | .file path bound backups =>
      { t with files := writeFile path bound backups (e.fileLine time thread) t.files }
  else t

def write (r : Route) (time thread : String) (t : Taken) (e : Entry) : Taken :=
  if r.takes e then r.sinks.foldl (writeSink time thread e) t else t

/-- Where a file of a day is archived, for the path that it would have beside the main one. -/
def archived? (t : Target) (path : String) : Option String :=
  match t with
  | .file _ (.day archive) _ =>
    some (Files.below archive ((Files.names path.toList).getLast?.getD ""))
  | _ => none

end Route
end FeeWatch.Log
