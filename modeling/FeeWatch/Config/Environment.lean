import FeeWatch.Datum.Access
import FeeWatch.Text.Case

/-! Settings from the environment.

A variable that is set and not empty goes before what the documents say about its
setting. Its value is the variable's text, but for the switch of the store, which is
whether that text is `true`. -/
namespace FeeWatch.Config

/-- The variables of the environment, by name. -/
abbrev Environment := List (String × String)

/-- The value of a variable that is set and not empty. -/
def Environment.get? (env : Environment) (name : String) : Option String :=
  ((env.find? (·.1 == name)).map (·.2)).filter (· != "")

/-- A setting that a variable gives. -/
structure Variable where
  name : String
  group : String
  key : String
deriving DecidableEq, Repr

/-- The variables whose text is a setting. -/
def textVariables : List Variable := [
  ⟨"FI_HORIZON_URL", "horizon", "url"⟩,
  ⟨"FI_HORIZON_TIMEOUT_SECS", "horizon", "timeout_secs"⟩,
  ⟨"FI_POLL_SECS", "polling", "poll_secs"⟩,
  ⟨"FI_WINDOW_MAX_POINTS", "polling", "window_max_points"⟩,
  ⟨"FI_WINDOW_MAX_AGE_SECS", "polling", "window_max_age_secs"⟩,
  ⟨"FI_SNAPSHOT_POLICY", "polling", "snapshot_policy"⟩,
  ⟨"FI_FAILURE_THRESHOLD", "polling", "failure_threshold"⟩,
  ⟨"FI_BASE_FEE", "congestion", "base_fee"⟩,
  ⟨"FI_CONGESTION_MULTIPLIER", "congestion", "avg_multiplier"⟩,
  ⟨"FI_CONGESTION_CEILING", "congestion", "absolute_ceiling"⟩,
  ⟨"FI_HYSTERESIS_MARGIN", "congestion", "hysteresis_margin"⟩,
  ⟨"FI_STORAGE_BACKEND", "storage", "backend"⟩,
  ⟨"FI_DB_PATH", "storage", "db_path"⟩,
  ⟨"FI_ALERT_WEBHOOK", "alerts", "webhook_url"⟩,
  ⟨"FI_LOG_DIR", "logging", "log_dir"⟩,
  ⟨"FI_LOG_LEVEL", "logging", "level"⟩,
  ⟨"FI_CONSOLE_LEVEL", "logging", "console_level"⟩]

def storeSwitch : Variable := ⟨"FI_STORAGE_ENABLED", "storage", "enabled"⟩

/-- Sets a part of a datum by name. -/
def setPart (key : String) (value : Datum) : Datum → Except Datum.Misfit Datum
  | .map entries => .ok (.map (Entries.insert (.text key) value entries))
  | .list _ => .error .listIndex
  | d => .error (.fixed d.kind)

/-- Sets a setting. A group that a document does not have is made. -/
def setSetting (entries : List (Scalar × Datum)) (v : Variable) (value : Scalar) :
    Except Datum.Misfit (List (Scalar × Datum)) := do
  let group := (Entries.find? (.text v.group) entries).getD (.map [])
  let group ← setPart v.key (.scalar value) group
  .ok (Entries.insert (.text v.group) group entries)

/-- The values that the environment gives, in the order in which they are set. -/
def Environment.settings (env : Environment) : List (Variable × Scalar) :=
  let texts := textVariables.filterMap fun v => (env.get? v.name).map fun s => (v, Scalar.text s)
  let switch := (env.get? storeSwitch.name).map fun s =>
    (storeSwitch, Scalar.bool (Text.lower s == "true"))
  texts ++ switch.toList

/-- Sets all settings that the environment gives. -/
def applyEnvironment (env : Environment) (entries : List (Scalar × Datum)) :
    Except Datum.Misfit (List (Scalar × Datum)) :=
  env.settings.foldlM (fun entries (v, value) => setSetting entries v value) entries

end FeeWatch.Config
