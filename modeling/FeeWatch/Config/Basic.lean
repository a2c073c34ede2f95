import FeeWatch.Config.Default
import FeeWatch.Monitor.Settings
import FeeWatch.Text.Case

/-! The settings of the program.

The settings of the monitor are read when a document is loaded. The others are read
when they are asked for, so that a setting that does not fit is a fault of those who
ask for it. -/
namespace FeeWatch

/-- The settings of the program: the entries of the document, and the monitor's settings that were
read from them. -/
structure Config where
  entries : List (Scalar × Datum)
  monitor : Monitor.Settings
deriving Repr, Inhabited

namespace Config

open FeeWatch.Datum (Misfit)

/-- A group of settings; one that is not there is empty. -/
def group (entries : List (Scalar × Datum)) (name : String) : Datum :=
  (Entries.find? (.text name) entries).getD (.map [])

/-- A setting as the document or the default gives it. -/
def setting (entries : List (Scalar × Datum)) (name key : String) : Except Misfit Datum :=
  (group entries name).getD key (defaultOf [name, key])

/-! ### The monitor's settings -/

/-- A limit that may be left out: null and the empty text are none. -/
def optional {α : Type} (read : Datum → Except Misfit α) (d : Datum) : Except Misfit (Option α) :=
  match d with
  | .scalar .null => .ok none
  | .scalar (.text "") => .ok none
  | d => (read d).map some

/-- Why the monitor's settings could not be read. -/
inductive ReadFault where
  | setting (f : Setting.Fault)
  | misfit (m : Misfit)
deriving DecidableEq, Repr, Inhabited

/-- A value that does not fit is a fault of the settings; one that lacks a feature or is out of
range is not recognised as such. -/
def ReadFault.ofMisfit (m : Misfit) : ReadFault :=
  match m.family with
  | .value => .setting (.misfit m.message)
  | .kind => .setting (.misfit m.message)
  | _ => .misfit m

/-- The policy that a document names. -/
def readPolicy (entries : List (Scalar × Datum)) : Except ReadFault Monitor.Policy := do
  let d ← (setting entries "polling" "snapshot_policy").mapError .ofMisfit
  let name := Text.lower (← d.written?.mapError .ofMisfit)
  match Monitor.Policy.ofName? name with
  | some policy => .ok policy
  | none => .error (.setting (.policyName (Text.quoted name)))

/-- The monitor's settings that a document gives. -/
def readMonitor (entries : List (Scalar × Datum)) : Except ReadFault Monitor.Settings := do
  let policy ← readPolicy entries
  let read {α : Type} (kind : Datum → Except Misfit α) (name key : String) : Except ReadFault α :=
    ((setting entries name key).bind kind).mapError .ofMisfit
  let interval ← read Datum.real "polling" "poll_secs"
  let maxPoints ← read (optional Datum.whole) "polling" "window_max_points"
  let maxAge ← read (optional Datum.real) "polling" "window_max_age_secs"
  let baseFee ← read Datum.whole "congestion" "base_fee"
  let multiplier ← read Datum.written? "congestion" "avg_multiplier"
  let ceiling ← read (optional Datum.whole) "congestion" "absolute_ceiling"
  let maxFeeCeiling ← read (optional Datum.whole) "congestion" "max_fee_ceiling"
  let margin ← read Datum.written? "congestion" "hysteresis_margin"
  let enterCycles ← read Datum.whole "congestion" "enter_cycles"
  let failureThreshold ← read Datum.whole "polling" "failure_threshold"
  let grace ← read Datum.real "polling" "shutdown_grace_secs"
  .ok {
    interval := .float interval
    maxPoints := limit .int maxPoints
    maxAge := limit .float maxAge
    baseFee := .int baseFee
    multiplier := .text multiplier
    ceiling := limit .int ceiling
    maxFeeCeiling := limit .int maxFeeCeiling
    margin := .text margin
    enterCycles := .int enterCycles
    policy
    failureThreshold := .int failureThreshold
    grace := .float grace }
where
  /-- A limit as a datum; none is null. -/
  limit {α : Type} (make : α → Datum) (x : Option α) : Datum := (x.map make).getD .null

/-! ### Other settings -/

/-- The address of the ledger service. -/
def ledgerUrl (c : Config) : Except Misfit Datum := setting c.entries "horizon" "url"

/-- How long to wait for the ledger service, in seconds. -/
def ledgerTimeout (c : Config) : Except Misfit Number.Binary :=
  (setting c.entries "horizon" "timeout_secs").bind Datum.real

/-- Transactions of a page. -/
def ledgerBatch (c : Config) : Except Misfit Int :=
  (setting c.entries "horizon" "batch_size").bind Datum.whole

/-- The most pages of a fetch. -/
def ledgerPages (c : Config) : Except Misfit Int :=
  (setting c.entries "horizon" "max_pages").bind Datum.whole

/-- The settings of the store. -/
structure Storage where
  enabled : Datum
  backend : Datum
  path : Datum
  folder : Datum
deriving Repr, Inhabited

/-- The settings of the store. -/
def storage (c : Config) : Except Misfit Storage := do
  let get (key : String) := setting c.entries "storage" key
  .ok ⟨← get "enabled", ← get "backend", ← get "db_path", ← get "jsonl_dir"⟩

/-- The address that alerts are posted to. -/
def alertUrl (c : Config) : Except Misfit Datum := setting c.entries "alerts" "webhook_url"

/-- How long to keep quiet after an alert, in seconds. -/
def alertQuiet (c : Config) : Except Misfit Int :=
  (setting c.entries "alerts" "min_change_secs").bind Datum.whole

def logLevel (c : Config) : Except Misfit Datum := setting c.entries "logging" "level"

def logFolder (c : Config) : Except Misfit Datum := setting c.entries "logging" "log_dir"

def consoleLevel (c : Config) : Except Misfit Datum := setting c.entries "logging" "console_level"

/-- When and how log files are rotated. -/
structure Rotation where
  maxBytes : Datum
  backups : Datum
  time : Datum
deriving Repr, Inhabited

/-- When and how log files are rotated. -/
def rotation (c : Config) : Except Misfit Rotation := do
  let d ← (group c.entries "logging").getD "rotation" (.map [])
  let get (key : String) := d.getD key (defaultOf ["logging", "rotation", key])
  .ok ⟨← get "max_bytes", ← get "backup_count", ← get "when"⟩

/-- A group of settings as a datum. -/
def Storage.report (s : Storage) : Datum :=
  .record [("enabled", s.enabled), ("backend", s.backend), ("db_path", s.path),
    ("jsonl_dir", s.folder)]

/-- A group of settings as a datum. -/
def Rotation.report (r : Rotation) : Datum :=
  .record [("max_bytes", r.maxBytes), ("backup_count", r.backups), ("when", r.time)]

/-- All settings but the monitor's own, by name; one that does not fit has its fault. -/
def properties (c : Config) : List (String × Except Misfit Datum) :=
  [("horizon_url", c.ledgerUrl), ("horizon_timeout_secs", c.ledgerTimeout.map .float),
    ("horizon_batch_size", c.ledgerBatch.map .int), ("horizon_max_pages", c.ledgerPages.map .int),
    ("poll_secs", .ok c.monitor.interval),
    ("storage_config", c.storage.map Storage.report), ("alert_webhook_url", c.alertUrl),
    ("alert_min_change_secs", c.alertQuiet.map .int), ("log_level", c.logLevel),
    ("log_dir", c.logFolder), ("console_level", c.consoleLevel),
    ("log_rotation", c.rotation.map Rotation.report)]

end Config
end FeeWatch
