import FeeWatch.Monitor.Basic

/-! One cycle of the monitor.

A cycle asks the source for points, puts them into the window, evaluates the
aggregates and publishes a snapshot together with the status. A failed fetch is
counted and leaves everything else as it was. History is kept and changes are
announced only after publication, and a keeper's trouble is counted, not passed
on.

Every value that readers can see during a cycle is one of its `views`, in order:
one for each phase that is entered, one for the publication or the counted
failure, and one for a keeper's trouble. -/
namespace FeeWatch.Monitor

open FeeWatch.Calendar (Instant)
open FeeWatch.Fee (Point Snapshot Status Health Phase Market)

variable {α : Type}

inductive Result where
  /-- The cycle is complete: how many points entered and left, the snapshot that is current, and
  whether the cycle published it. -/
  | complete (ingested evicted : Nat) (snapshot : Snapshot) (emitted : Bool)
  /-- The fetch failed; the snapshot is the last one. -/
  | failed (fault : Source.Fault) (snapshot : Option Snapshot)
deriving DecidableEq, Repr, Inhabited

/-- Whether a cycle is complete. -/
def Result.isComplete : Result → Bool
  | .complete .. => true
  | .failed .. => false

/-- The fault of a failed fetch. -/
def Result.fault? : Result → Option Source.Fault
  | .complete .. => none
  | .failed f _ => some f

/-- What a cycle came to as a datum, but for the fault of its fetch. -/
def Result.report (r : Result) : Datum :=
  let (ingested, evicted, emitted, snapshot) : Nat × Nat × Bool × Option Snapshot :=
    match r with
    | .complete ingested evicted snapshot emitted => (ingested, evicted, emitted, some snapshot)
    | .failed _ snapshot => (0, 0, false, snapshot)
  .record [("ok", .bool r.isComplete), ("points_ingested", .int ingested),
    ("points_evicted", .int evicted), ("snapshot_emitted", .bool emitted),
    ("snapshot", (snapshot.map Snapshot.report).getD .null)]

/-- Why a cycle did not come to a result. -/
inductive Fault where
  | window (f : Window.Fault)
  | detector (f : Congestion.Fault)
  /-- A fee has too many digits to be written. -/
  | unwritable
  | alert (f : Alert.Hook.Fault)
deriving DecidableEq, Repr, Inhabited

def Fault.message : Fault → String
  | .window f => f.message
  | .detector f => f.message
  | .unwritable => Number.Fault.message .unwritable
  | .alert f => f.message

/-- A cycle that has run. -/
structure Run (α : Type) where
  result : Except Fault Result
  monitor : Monitor α
  /-- What readers could see, in order. -/
  views : List Published
  log : Log

/-! ### Keeping and announcing -/

/-- Appends to a history: points first, then the snapshot unless the points gave trouble. -/
def keep (K : Keeper α) (points : List Point) (emitted : Option Snapshot) (archive : α) :
    Except Trouble Unit × α × Log :=
  match K.keepPoints points archive, emitted with
  | (.ok _, archive, log), some s =>
    let (result, archive, more) := K.keepSnapshot s archive
    (result, archive, log ++ more)
  | (result, archive, log), _ => (result, archive, log)

/-- The line that reports a keeper's trouble. -/
def troubleText (t : Trouble) (count : Nat) : String :=
  if t.medium then s!"Failed to persist fee history: {t.text} ({count} failures so far)"
  else s!"Unexpected error from FeeStore: {t.text} ({count} failures so far)"

/-- Keeps the history of a cycle. The views are what readers see of it: a counted trouble. -/
def persist (K : Keeper α) (m : Monitor α) (points : List Point) (emitted : Option Snapshot) :
    Monitor α × List Published × Log :=
  match m.archive with
  | none => (m, [], [])
  | some archive =>
    match keep K points emitted archive with
    | (.ok _, archive, log) => ({ m with archive := some archive }, [], log)
    | (.error t, archive, log) =>
      let m := { m with archive := some archive }.setStatus fun s =>
        { s with persistenceFailures := s.persistenceFailures + 1 }
      (m, [m.published], log ++ say .error (troubleText t m.status.persistenceFailures))

/-- Announces the market of a published snapshot, then the health of a status. -/
def announce (desk : Alert.Desk) (emitted : Option Snapshot) (status : Status) (now : Instant) :
    Except Alert.Hook.Fault Unit × Alert.Desk × Log :=
  let market : Except Alert.Hook.Fault Bool × Alert.Desk × Log :=
    match emitted with
    | none => (.ok false, desk, [])
    | some s => desk.noticeMarket s now
  match market with
  | (.error f, desk, log) => (.error f, desk, log)
  | (.ok _, desk, log) =>
    let (result, desk, more) := desk.noticeHealth status now
    (result.map fun _ => (), desk, log ++ more)

/-- Announces changes, if anyone does. -/
def notify (m : Monitor α) (emitted : Option Snapshot) (status : Status) (now : Instant) :
    Except Fault Unit × Monitor α × Log :=
  match m.desk with
  | none => (.ok (), m, [])
  | some desk =>
    let (result, desk, log) := announce desk emitted status now
    (result.mapError Fault.alert, { m with desk := some desk }, log)

/-! ### Failed fetches -/

/-- The line that reports the fault of a fetch. -/
def reason : Source.Fault → String
  | .failure f => f.text
  | f => (Service.Error.mk .unknown f.message).text

/-- Whether a number of failed fetches in a row degrades the monitor. -/
def isEnough (s : Settings) (consecutive : Nat) : Bool :=
  Number.le s.failureThreshold.amount (.int consecutive)

/-- Counts a failed fetch. -/
def countFailure (m : Monitor α) (f : Source.Fault) : Monitor α :=
  m.setStatus fun s =>
    let consecutive := s.consecutiveFailures + 1
    { s with
      phase := .degraded
      health := if isEnough m.settings consecutive then .degraded else .healthy
      consecutiveFailures := consecutive
      totalFailures := s.totalFailures + 1
      lastError := some (reason f) }

/-- What is logged of a failed fetch: `before` and `after` are the status before and after it was
counted. -/
def failureLog (f : Source.Fault) (before after : Status) : Log :=
  let unexpected := match f with
    | .failure _ => []
    | f => say .error s!"Provider {before.source} raised unexpected error: {f.message}"
  let failed := say .warning
    s!"Fetch from {before.source} failed ({after.consecutiveFailures} consecutive): {reason f}"
  let degraded :=
    if after.isDegraded && !before.isDegraded then
      say .error
        s!"Engine degraded after {after.consecutiveFailures} consecutive fetch failures; serving last known snapshot"
    else []
  unexpected ++ failed ++ degraded

/-- The rest of a cycle whose fetch failed. -/
def fail (m : Monitor α) (f : Source.Fault) (now : Instant) : Run α :=
  let counted := m.countFailure f
  let log := failureLog f m.status counted.status
  let (result, told, more) := counted.notify none counted.status now
  ⟨result.map fun _ => .failed f counted.current, told, [counted.published], log ++ more⟩

/-! ### Successful fetches -/

/-- The aggregates of a window. -/
def reading (w : Window) : Congestion.Reading :=
  .ofInts w.tally.average w.extremes.min w.extremes.max

/-- Whether the base fee or an aggregate of a window has too many digits to be written. -/
def isUnwritable (s : Settings) (w : Window) : Bool :=
  s.baseFee.isOverlong || (reading w).isOverlong

/-- The snapshot of a window. -/
def candidate (s : Settings) (w : Window) (market : Market) (now : Instant) : Snapshot :=
  { base := s.baseFee.written, min := toString w.extremes.min, max := toString w.extremes.max
    avg := toString w.tally.average, time := now, count := w.size, market }

def emits (policy : Policy) (previous : Option Snapshot) (s : Snapshot) : Bool :=
  match policy, previous with
  | .always, _ => true
  | _, none => true
  | _, some p => !s.sameFees p || p.market != s.market

/-- Publishes a complete cycle: the snapshot, if it is to be published, and the status at once. -/
def publish (m : Monitor α) (emitted : Option Snapshot) (market : Market) (now : Instant) :
    Monitor α :=
  { m with published :=
    ⟨emitted.or m.current,
      { m.status with
        phase := .idle
        health := .healthy
        market
        consecutiveFailures := 0
        cyclesCompleted := m.status.cyclesCompleted + 1
        lastSuccess := some now }⟩ }

/-- The line that sums up a complete cycle. -/
def summary (ingested evicted : Nat) (s : Snapshot) (emitted : Bool) : String :=
  let skipped := if emitted then "" else " (unchanged, snapshot skipped)"
  s!"Cycle: +{ingested} -{evicted} pts (n={s.count}) avg={s.avg} min={s.min} max={s.max} [{s.market.word}]{skipped}"

/-- The last part of a cycle: publication, history and announcements. -/
def conclude (K : Keeper α) (m : Monitor α) (points left : List Point) (now : Instant) : Run α :=
  let shown := candidate m.settings m.window m.detector.state now
  let emitted := emits m.settings.policy m.current shown
  let kept := if emitted then some shown else none
  let out := m.publish kept m.detector.state now
  let recovered :=
    if m.status.isDegraded then
      say .info s!"Provider {m.status.source} recovered, engine healthy again"
    else []
  let log := recovered ++ say .debug (summary points.length left.length shown emitted)
  let (stored, views, storeLog) := out.persist K points kept
  let (result, told, alertLog) := stored.notify kept out.status now
  let current := if emitted then shown else m.current.getD shown
  ⟨result.map fun _ => .complete points.length left.length current emitted, told,
    out.published :: views, log ++ storeLog ++ alertLog⟩

/-- The rest of a cycle whose fetch returned points. -/
def absorb (K : Keeper α) (m : Monitor α) (points : List Point) (now : Instant) : Run α :=
  let ingesting := m.enter .ingesting
  match ingesting.window.ingest points with
  | (.error f, window) =>
    ⟨.error (.window f), { ingesting with window }, [ingesting.published], []⟩
  | (.ok left, window) =>
    let recomputing := { ingesting with window }.enter .recomputing
    match recomputing.detector.evaluate (reading window) with
    | .error f =>
      ⟨.error (.detector f), recomputing, [ingesting.published, recomputing.published], []⟩
    | .ok (detector, log) =>
      let judged := { recomputing with detector }
      -- The detector has changed before the line that says so turns out to be unwritable.
      if !log.isEmpty && (reading window).isOverlong then
        ⟨.error .unwritable, judged, [ingesting.published, recomputing.published], []⟩
      else
        let snapshotting := judged.enter .snapshotting
        let run :=
          if isUnwritable m.settings window then ⟨.error .unwritable, snapshotting, [], []⟩
          else conclude K snapshotting points left now
        { run with
          views :=
            ingesting.published :: recomputing.published :: snapshotting.published :: run.views
          log := log ++ run.log }

/-- Runs a cycle whose fetch has an outcome, at the moment when the fetch has returned. -/
def cycle (K : Keeper α) (m : Monitor α) (outcome : Except Source.Fault (List Point))
    (now : Instant) : Run α :=
  let fetching := m.enter .fetching
  let run := match outcome with
    | .ok points => absorb K fetching points now
    | .error f => fail fetching f now
  { run with views := fetching.published :: run.views }

end FeeWatch.Monitor
