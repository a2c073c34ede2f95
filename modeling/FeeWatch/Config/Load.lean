import FeeWatch.Config.Basic
import FeeWatch.Config.Overlay
import FeeWatch.Files
import FeeWatch.Yaml.Library

/-! Loading the settings.

The document is the one at a given path, or the nearest one from the working folder
upwards, which is made from the default if there is none. A local document beside it
is laid over it, and the environment goes before both. What comes of that is checked
before it is used. Documents are read and made by a YAML library, a parameter of all
of this; `load` is what the program does with its own. -/
namespace FeeWatch.Config

open FeeWatch.Datum (Misfit)

/-- Why settings could not be loaded. -/
inductive Fault where
  /-- There is no document at the path that was given. -/
  | absent (path : String)
  | files (f : Files.Fault)
  /-- The library did not read a document for another reason than that it is malformed. -/
  | yaml (f : Yaml.Fault)
  | overlay (f : OverlayFault)
  | setting (f : Setting.Fault)
  | misfit (m : Misfit)
  | decimal (f : Number.Decimal.Fault)
deriving DecidableEq, Repr, Inhabited

def Fault.message : Fault → String
  | .absent path => s!"Config file not found: {path}"
  | .files f => f.message
  | .yaml f => f.message
  | .overlay f => f.message
  | .setting f => f.message
  | .misfit m => m.message
  | .decimal f => Congestion.decimalMessage f

def fileName : String := "config.yaml"

/-- The name of the document that is laid over it. -/
def localName : String := "config.local.yaml"

/-! ### Documents -/

section Documents
variable (y : Yaml.Library)

/-- The path of the nearest document from the working folder upwards, or of one to be made in the
working folder. -/
def search (f : Files) : String :=
  let folders := (List.range (f.here.length + 1)).map fun n => f.here.take (f.here.length - n)
  let found := folders.find? fun at_ => (f.node? (at_ ++ [fileName])).isSome
  f.absolute (found.getD f.here ++ [fileName])

/-- The data of the document at a path, in which nothing counts as an empty map. Faults name the
main document. -/
def readDocument (main path : String) (f : Files) : Except Fault Shared := do
  let text ← (f.read path).mapError .files
  match y.read text with
  | .ok s => .ok (if s.isSome s.root then s else ⟨#[.map []], .place 0⟩)
  | .error .malformed => .error (.setting (.malformed main))
  | .error f => .error (.yaml f)

/-- The settings of the main document with the local one laid over it, and the environment over
both. -/
def readEntries (path : String) (env : Environment) (f : Files) :
    Except Fault (List (Scalar × Datum)) := do
  let lower ← readDocument y path path f
  if (lower.entries? lower.root).isNone then .error (.setting (.noMapping path))
  let beside := Files.below (Files.parent path) localName
  let upper ← match ← (f.stands beside).mapError .files with
    | none => .ok none
    | some _ => (readDocument y path beside f).map some
  (layOver env lower upper).mapError .overlay

end Documents

/-! ### Checks -/

/-- The fault of a check of the monitor's settings. -/
def Fault.ofCheck : Congestion.Fault → Fault
  | .setting f => .setting f
  | .decimal f => .decimal f
  | .misfit m => .misfit m

/-- The fault of reading the monitor's settings. -/
def Fault.ofRead : ReadFault → Fault
  | .setting f => .setting f
  | .misfit m => .misfit m

/-- The names of the stores. -/
def backends : List String := ["sqlite", "jsonl"]

/-- Whether a datum names a store. -/
def isBackend : Datum → Bool
  | .scalar (.text name) => backends.contains name
  | _ => false

/-- Refuses a setting that is less than one. -/
def atLeastOne (name : String) (n : Int) : Except Fault Unit :=
  (Setting.refuseIf (.ok (n < 1)) (.least name 1) (.int n)).mapError fun refusal =>
    .ofCheck (.ofRefusal refusal)

/-- The settings that a document gives, if they are in range. -/
def ofEntries (entries : List (Scalar × Datum)) : Except Fault Config := do
  let monitor ← (readMonitor entries).mapError .ofRead
  monitor.check.mapError .ofCheck
  let c : Config := ⟨entries, monitor⟩
  let storage ← c.storage.mapError .misfit
  if !isBackend storage.backend then
    .error (.setting (.backend (← storage.backend.written?.mapError .misfit)))
  let batch ← c.ledgerBatch.mapError .misfit
  atLeastOne "horizon batch_size" batch
  let pages ← c.ledgerPages.mapError .misfit
  atLeastOne "horizon max_pages" pages
  .ok c

/-! ### Loading -/

section Loading
variable (y : Yaml.Library)

/-- The path of the document, and the files with a document made where one is to be made. -/
def locate (given : Option String) (create : Bool) (f : Files) : Except Fault (String × Files) :=
  match given with
  | some path =>
    match f.stands path with
    | .error fault => .error (.files fault)
    | .ok none => .error (.absent path)
    | .ok (some _) => .ok (path, f)
  | none =>
    let path := search f
    if create && !f.contains path then
      ((f.write path (y.write defaultDocument)).mapError .files).map fun f => (path, f)
    else .ok (path, f)

/-- The settings of the document at a path, with the environment before it. -/
def read (path : String) (env : Environment) (f : Files) : Except Fault Config := do
  ofEntries (← readEntries y path env f)

/-- Loads the settings, with documents read and made by a library. -/
def loadWith (given : Option String) (create : Bool) (env : Environment) (f : Files) :
    Except Fault Config × Files :=
  match locate y given create f with
  | .error fault => (.error fault, f)
  | .ok (path, f) => (read y path env f, f)

end Loading

def load : Option String → Bool → Environment → Files → Except Fault Config × Files :=
  loadWith Yaml.library

end FeeWatch.Config
