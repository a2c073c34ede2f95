import FeeWatch.Alert.Hook
import FeeWatch.Command.Wire
import FeeWatch.Config.Load
import FeeWatch.History.Store
import FeeWatch.Log.Route
import FeeWatch.Monitor.Cycle

/-! What a run of the command changes, and how it ends.

A run works on a session. It ends with an exit code, or with a fault that the command
does not report. Either way the session is as it was at that moment. -/
namespace FeeWatch.Command

/-- The threads that write records. -/
inductive Thread where
  | main
  | loop
deriving DecidableEq, Repr, Inhabited

def Thread.name : Thread → String
  | .main => "MainThread"
  | .loop => "fee-insights-loop"

/-- The state of a run. -/
structure Session where
  files : Files
  wire : Wire
  /-- What was printed. -/
  output : String
  /-- What was logged, by thread. -/
  records : List (Thread × Record)
  /-- Where records go, once that is known. -/
  route : Option Log.Route
  store : Option History.Store
  posts : List Alert.Post
deriving Inhabited

/-- Why a run ended without an exit code. -/
inductive Fault where
  | config (f : Config.Fault)
  | route (f : Log.Route.Fault)
  | misfit (m : Datum.Misfit)
  | history (f : History.Fault)
  | setup (f : Monitor.SetupFault)
  | source (f : Source.Fault)
  | cycle (f : Monitor.Fault)
deriving DecidableEq, Repr, Inhabited

def Fault.message : Fault → String
  | .config f => f.message
  | .route f => f.message
  | .misfit m => m.message
  | .history f => f.message
  | .setup f => f.message
  | .source f => f.message
  | .cycle f => f.message

/-- How a run ended. -/
inductive Halt where
  | exit (code : Nat)
  | fault (f : Fault)
deriving DecidableEq, Repr, Inhabited

/-- A part of a run. -/
abbrev Program := ExceptT Halt (StateM Session)

namespace Program

/-- A value that may be a fault. -/
def lift {ε α : Type} (fault : ε → Fault) (x : Except ε α) : Program α :=
  match x with
  | .ok a => pure a
  | .error e => throw (.fault (fault e))

/-- Writes records from a thread. -/
def say (thread : Thread) (log : Log) : Program Unit :=
  modify fun s => { s with records := s.records ++ log.map fun r => (thread, r) }

/-- Writes a record of the command itself. -/
def tell (level : Level) (text : String) : Program Unit := say .main [⟨level, .command, text⟩]

/-- Prints a datum, on several lines if that is asked for. -/
def print (verbose : Bool) (d : Datum) : Program Unit :=
  let line := (if verbose then Json.writeIndented d else Json.write .ascii d) ++ "\n"
  modify fun s => { s with output := s.output ++ line }

end Program

structure Outcome where
  /-- The exit code, or a fault that was not reported. -/
  result : Except Fault Nat
  output : String
  /-- What the console shows of the log. -/
  console : String
  log : Log
  files : Files
  requests : List Source.Request
  posts : List Alert.Post
  store : Option History.Store

namespace Outcome

/-- The rows that a database file holds after a run which had it open. -/
def tables? (o : Outcome) (path : String) : Option History.Table :=
  match o.store with
  | some (.database (.file own) _ t) =>
    if o.files.contains path && o.files.locate own == o.files.locate path then some t.rollback
    else none
  | _ => none

/-- The lines that a folder holds after a run. -/
def lines? (o : Outcome) (folder : String) : Option History.Lines :=
  if o.files.contains folder then
    let part (name : String) : History.Sheet := .text (o.files.textAt (Files.below folder name))
    some ⟨part History.Store.pointsName, part History.Store.snapshotsName⟩
  else none

end Outcome

namespace Session

/-- The files with the text of a sheet at a path. -/
def placeSheet (files : Files) (path : String) : History.Sheet → Files
  | .text s => files.place path s
  | .folder _ => files

/-- The files with the texts of a store in them. -/
def storeFiles (files : Files) : Option History.Store → Files
  | some (.lines folder l) =>
    let files := placeSheet files (Files.below folder History.Store.pointsName) l.points
    placeSheet files (Files.below folder History.Store.snapshotsName) l.snapshots
  | _ => files

/-- What the sinks of the log have taken when a run ends, all at one time. Until records are
routed, the console shows them. -/
def taken (time : String) (s : Session) : Log.Route.Taken :=
  let files := storeFiles s.files s.store
  match s.route with
  | none =>
    let line : Thread × Record → String
      | (_, r) => s!"[{r.level.word}] {r.text}\n"
    ⟨files, String.join (s.records.map line)⟩
  | some route =>
    let write (t : Log.Route.Taken) : Thread × Record → Log.Route.Taken
      | (thread, r) => route.write time thread.name t (.ofRecord r)
    s.records.foldl write ⟨files, ""⟩

/-- The outcome of a run that ended. -/
def outcome (time : String) (s : Session) (result : Except Fault Nat) : Outcome :=
  let taken := s.taken time
  { result
    output := s.output
    console := taken.console
    log := s.records.map (·.2)
    files := taken.files
    requests := s.wire.requests
    posts := s.posts
    store := s.store }

end Session
end FeeWatch.Command
