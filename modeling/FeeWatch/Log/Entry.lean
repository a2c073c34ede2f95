import FeeWatch.Datum.Access
import FeeWatch.Log
import FeeWatch.Text.Case

/-! Entries of the log as they are routed, and levels by name.

An entry carries the weight of its level as a number, for other programs may log at
levels that this one has no word for. -/
namespace FeeWatch.Log

structure Entry where
  weight : Int
  source : String
  text : String
deriving DecidableEq, Repr, Inhabited

def Entry.ofRecord (r : Record) : Entry := ⟨r.level.weight, r.origin.name, r.text⟩

def weightWords : List (Nat × String) :=
  [(0, "NOTSET"), (10, "DEBUG"), (20, "INFO"), (30, "WARNING"), (40, "ERROR"), (50, "CRITICAL")]

def weightWord (weight : Int) : String :=
  match weightWords.find? fun (w, _) => (w : Int) == weight with
  | some (_, word) => word
  | none => s!"Level {weight}"

/-- The layout of lines that are written before entries are routed. -/
def basicLayout : String := "%(levelname)s:%(name)s:%(message)s"

/-- What the names that settings may give stand for. Levels have weights; the names of the basic
layout and of the table of styles are known too, but what they stand for is no weight. -/
def standing : List (String × Datum) :=
  weightWords.map (fun (w, word) => (word, .int w)) ++
    [("WARN", .int 30), ("FATAL", .int 50), ("BASIC_FORMAT", .text basicLayout),
      ("_STYLES", .record [])]

/-- What a name in any case stands for; unknown names count as `INFO`. -/
def standingOf (d : Datum) : Except Datum.Misfit Datum :=
  match d with
  | .scalar (.text name) =>
    .ok ((standing.lookup (Text.upperName name)).getD (.int Level.info.weight))
  | .scalar (.bytes _) => .error .octetName
  | d => .error (.lacks d.kind "upper")

/-- The weights of the files and of the console, if what their names stand for can be compared. -/
def weights (file console : Datum) : Except Datum.Misfit (Nat × Nat) :=
  match file, console with
  | .scalar (.int f), .scalar (.int c) => .ok (f.toNat, c.toNat)
  | .scalar (.text layout), .scalar (.text _) => .error (.noLevel (Text.quoted layout))
  | file, console => .error (.unordered "<" console.kind file.kind)

/-- A word filled up with blanks. -/
def filled (width : Nat) (word : String) : String :=
  word ++ String.ofList (List.replicate (width - word.length) ' ')

def Entry.consoleLine (e : Entry) : String :=
  s!"[{filled 8 (weightWord e.weight)}] [{e.source}] {e.text}\n"

/-- An entry as a file holds it, with the time and the thread that wrote it. -/
def Entry.fileLine (time thread : String) (e : Entry) : String :=
  s!"{time} [{filled 8 (weightWord e.weight)}] [{e.source}] [{thread}] {e.text}\n"

end FeeWatch.Log
