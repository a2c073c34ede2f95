import FeeWatch.Calendar.Span
import FeeWatch.Fee.Snapshot

/-! The published status of the monitor: its health, its phase and its counters. -/
namespace FeeWatch.Fee

/-- Whether fetches succeed. -/
inductive Health where
  | healthy
  | degraded
deriving DecidableEq, Repr, Inhabited

/-- Where a cycle is. -/
inductive Phase where
  | idle
  | fetching
  | ingesting
  | recomputing
  | snapshotting
  | degraded
deriving DecidableEq, Repr, Inhabited

def Health.word : Health → String
  | .healthy => "healthy"
  | .degraded => "degraded"

def Phase.word : Phase → String
  | .idle => "idle"
  | .fetching => "fetching"
  | .ingesting => "ingesting"
  | .recomputing => "recomputing"
  | .snapshotting => "snapshotting"
  | .degraded => "degraded"

def Health.ofWord? (word : String) : Option Health :=
  [Health.healthy, .degraded].find? (·.word == word)

def Phase.ofWord? (word : String) : Option Phase :=
  [Phase.idle, .fetching, .ingesting, .recomputing, .snapshotting, .degraded].find?
    (·.word == word)

theorem Health.ofWord?_word (h : Health) : Health.ofWord? h.word = some h := by
  cases h <;> rfl

theorem Phase.ofWord?_word (p : Phase) : Phase.ofWord? p.word = some p := by
  cases p <;> rfl

/-- A view of the monitor. -/
structure Status where
  health : Health := .healthy
  phase : Phase := .idle
  market : Market := .normal
  /-- Failed fetches since the last successful cycle. -/
  consecutiveFailures : Nat := 0
  totalFailures : Nat := 0
  /-- Cycles whose history could not be stored. -/
  persistenceFailures : Nat := 0
  cyclesCompleted : Nat := 0
  lastError : Option String := none
  lastSuccess : Option Calendar.Instant := none
  /-- The name of the source of points. -/
  source : String := ""
deriving DecidableEq, Repr, Inhabited

namespace Status

def isDegraded (s : Status) : Bool := s.health == .degraded

/-- Whether the last success is longer ago than a number of seconds, or there was none. -/
def isStale (s : Status) (now : Calendar.Instant) (seconds : Number) : Bool :=
  match s.lastSuccess with
  | none => true
  | some last => Calendar.Span.exceeds (now.since last) seconds

def report (s : Status) : Datum :=
  .record [("health", .text s.health.word), ("phase", .text s.phase.word),
    ("congestion", .text s.market.word), ("consecutive_failures", .int s.consecutiveFailures),
    ("total_failures", .int s.totalFailures),
    ("persistence_failures", .int s.persistenceFailures),
    ("cycles_completed", .int s.cyclesCompleted), ("last_error", .ofText? s.lastError),
    ("last_success_at", .ofText? (s.lastSuccess.map Calendar.Instant.text)),
    ("provider_name", .text s.source)]

def fieldNames : List String := (({} : Status).report.fields).map (·.1)

/-- Reads a status from some of the fields of a report. Its words and its time must fit. Gives
also the report with the counters and the texts as they were given. -/
def ofRecord (d : Datum) : Except Datum.Misfit (Status × Datum) := do
  let health ← d.wordAt "health" "EngineHealth" Health.ofWord? .healthy
  let phase ← d.wordAt "phase" "CyclePhase" Phase.ofWord? .idle
  let market ← d.wordAt "congestion" Market.kind Market.ofWord? .normal
  let time := d.field "last_success_at"
  let lastSuccess ← if time.isNull then .ok none else time.instant.map some
  d.checkFields "EngineStatus" fieldNames []
  let s : Status := { health, phase, market, lastSuccess }
  let read := ["health", "phase", "congestion", "last_success_at"]
  .ok (s, .record (s.report.fields.map fun (k, v) =>
    (k, if read.contains k then v else d.given k v)))

end Status
end FeeWatch.Fee
