import FeeWatch.Alert.Desk
import FeeWatch.Command.Arguments
import FeeWatch.Command.Session
import FeeWatch.Monitor.Watch
import FeeWatch.Source.Ledger

/-! Running the command.

The command loads the settings, routes the log, and puts the monitor together. It
then checks the provider, runs one cycle, or runs the loop until a signal arrives. -/
namespace FeeWatch.Command

open FeeWatch.Calendar (Instant)
open FeeWatch.Datum (Misfit)

structure Inputs where
  arguments : List String
  environment : Config.Environment
  files : Files
  now : Instant
  /-- The time as the log files write it. -/
  time : String
  events : List Event
  /-- What happens to posted alerts. -/
  hookReplies : List Alert.Reply

/-! ### Setting up -/

/-- Whether a fault of the settings is reported, not passed on. -/
def isReported : Config.Fault → Bool
  | .absent _ => true
  | .files (.absent _) => true
  | .setting _ => true
  | _ => false

def loadConfig (given : Option String) (env : Config.Environment) : Program Config := do
  let (result, files) := Config.load given true env (← get).files
  modify fun s => { s with files }
  match result with
  | .ok c => pure c
  | .error f =>
    if isReported f then
      Program.tell .error s!"Error loading config: {f.message}"
      throw (.exit 1)
    else throw (.fault (.config f))

def routeLog (c : Config) : Program Unit := do
  let (result, files) := Log.Route.make c (← get).files
  modify fun s => { s with files }
  let route ← Program.lift .route result
  modify fun s => { s with route := some route }

/-- The reader of the ledger service. -/
def makeLedger (c : Config) : Except Misfit Source.Ledger := do
  let url ← c.ledgerUrl
  let timeout ← c.ledgerTimeout
  let batch ← c.ledgerBatch
  let pages ← c.ledgerPages
  match url with
  | .scalar (.text base) => .ok (.make base (.float timeout) batch pages)
  | .scalar (.bytes _) => .error .octetTrim
  | d => .error (.lacks d.kind "rstrip")

/-- A datum as a path; nothing is no path. -/
def pathOf (d : Datum) : Except Misfit (Option String) :=
  if d.isSome then d.path.map some else .ok none

/-- Opens the store of some settings. -/
def openStore (g : Config.Storage) : Program Unit := do
  let backend ← Program.lift .misfit g.backend.written?
  let (path, folder) ← Program.lift .misfit <|
    if backend = "sqlite" then (pathOf g.path).map fun p => (p, none)
    else if backend = "jsonl" then (pathOf g.folder).map fun p => (none, p)
    else .ok (none, none)
  let (store, files, log) ← Program.lift .history
    (History.Store.make backend path folder (← get).files)
  modify fun s => { s with files, store := some store }
  Program.say .main log

/-- Whether a fault of the setup lies in the settings. -/
def isSetting : Monitor.SetupFault → Bool
  | .congestion (.setting _) => true
  | .bounds (.setting _) => true
  | _ => false

/-- Puts the monitor together. -/
def build (c : Config) (hookReplies : List Alert.Reply) :
    Program (Source.Ledger × Monitor History.Store) := do
  let ledger ← Program.lift .misfit (makeLedger c)
  let storage ← Program.lift .misfit c.storage
  if storage.enabled.isSome then openStore storage
  let url ← Program.lift .misfit c.alertUrl
  let quiet ← Program.lift .misfit c.alertQuiet
  let desk := Alert.Desk.make url (.int quiet) hookReplies
  match Monitor.make Source.Ledger.name c.monitor (← get).store (some desk) with
  | .ok monitor => pure (ledger, monitor)
  | .error f =>
    if isSetting f then
      Program.tell .error s!"Invalid configuration: {f.message}"
      throw (.exit 1)
    else throw (.fault (.setup f))

/-- Keeps what a monitor did in the session. -/
def keepMonitor (m : Monitor History.Store) : Program Unit :=
  modify fun s => { s with store := m.archive, posts := (m.desk.map (·.hook.posts)).getD [] }

def closeStore : Program Unit := do
  match (← get).store with
  | none => pure ()
  | some store =>
    let (store, log) := store.close
    modify fun s => { s with store := some store }
    Program.say .main log

/-! ### What to do -/

def checkProvider (verbose : Bool) (ledger : Source.Ledger) : Program Unit := do
  let (result, wire) := ledger.health Wire.serve (← get).wire
  modify fun s => { s with wire }
  let trouble ← match result with
    | .ok () => pure none
    | .error (.failure f) => pure (some f.text)
    | .error f => throw (.fault (.source f))
  Program.print verbose (.record [
    ("provider", .text Source.Ledger.name), ("healthy", .bool trouble.isNone),
    ("error", Datum.ofText? trouble), ("metadata", Source.Ledger.metadata.report)])
  throw (.exit (if trouble.isNone then 0 else 2))

/-- How many points a cycle took in. -/
def ingested : Monitor.Result → Nat
  | .complete n _ _ _ => n
  | .failed .. => 0

def runOnce (verbose : Bool) (ledger : Source.Ledger) (m : Monitor History.Store) (now : Instant) :
    Program Unit := do
  let (points, _, wire, fetchLog) := ledger.fetch Wire.serve (← get).wire
  modify fun s => { s with wire }
  let run := Monitor.cycle .store m points now
  Program.say .main (fetchLog ++ run.log)
  keepMonitor run.monitor
  let result ← Program.lift .cycle run.result
  Program.print verbose (.record [
    ("ok", .bool result.isComplete), ("points_ingested", .int (ingested result)),
    ("snapshot", (run.monitor.current.map Fee.Snapshot.report).getD .null),
    ("status", run.monitor.status.report)])
  closeStore
  throw (.exit (if result.isComplete then 0 else 1))

/-! ### The loop -/

/-- What the loop works on. -/
structure Watched where
  ledger : Source.Ledger
  monitor : Monitor History.Store
  wire : Wire
  records : List (Thread × Record)

/-- A cycle of the loop. Signals that arrive in it stop the loop. -/
def watchCycle (now : Instant) (l : Monitor.Loop) (w : Watched) : Monitor.Loop × Watched :=
  let (points, ledger, wire, fetchLog) := w.ledger.fetch Wire.serve w.wire
  let arrived := wire.signals.drop w.wire.signals.length
  let (monitor, log) := (Monitor.cycle .store w.monitor points now).contain
  let signalled (s : Signal) : Thread × Record :=
    (.main, ⟨.info, .command, s!"Received signal {s.number}, shutting down..."⟩)
  let records := arrived.map signalled ++ (fetchLog ++ log).map fun r => (.loop, r)
  (if arrived.isEmpty then l else l.requestStop,
    { ledger, monitor, wire, records := w.records ++ records })

/-- Runs the loop until a signal arrives. -/
def runLoop (ledger : Source.Ledger) (m : Monitor History.Store) (now : Instant) :
    Program Unit := do
  Program.say .loop m.beginLog
  let wire := (← get).wire
  let (_, w) := Monitor.watch (watchCycle now) (wire.events.length + 1) (.begin false false)
    { ledger, monitor := m, wire, records := [] }
  modify fun s => { s with wire := w.wire, records := s.records ++ w.records }
  keepMonitor w.monitor
  Program.say .loop Monitor.endLog
  closeStore
  Program.tell .info "Exiting."
  throw (.exit 0)

/-! ### The whole run -/

/-- The text that explains the command. -/
def usage : String :=
  "usage: feewatch [-h] [--config CONFIG] [--once] [--check-provider] [--verbose]\n"

/-- Prints the text that explains the command. -/
def explain : Program Unit := do
  modify fun s => { s with output := s.output ++ usage }
  throw (.exit 0)

/-- Does what the arguments ask for. -/
def perform (i : Inputs) (a : Arguments) : Program Unit := do
  let c ← loadConfig a.config i.environment
  routeLog c
  let (ledger, monitor) ← build c i.hookReplies
  if a.checkProvider then checkProvider a.verbose ledger
  else if a.once then runOnce a.verbose ledger monitor i.now
  else runLoop ledger monitor i.now

def program (i : Inputs) : Program Unit :=
  match Arguments.read i.arguments with
  | .error _ => throw (.exit 2)
  | .ok .help => explain
  | .ok (.run a) => perform i a

def run (i : Inputs) : Outcome :=
  let start : Session :=
    { files := i.files, wire := ⟨i.events, [], []⟩, output := "", records := [], route := none
      store := none, posts := [] }
  let (ended, s) := (program i).run start
  match ended with
  | .ok () => s.outcome i.time (.ok 0)
  | .error (.exit code) => s.outcome i.time (.ok code)
  | .error (.fault f) => s.outcome i.time (.error f)

end FeeWatch.Command
