import FeeWatch.Datum.Access
import FeeWatch.Service.Error

/-! Faults of settings.

A setting is at fault when its value lies outside the range that it is documented
to have. The fault names the setting, the range and the value. A value that cannot be
compared with the range at all, or cannot be written, is a misfit. -/
namespace FeeWatch.Setting

inductive Fault where
  /-- A value must be positive. -/
  | positive (name : String) (got : String)
  /-- A value must not be less than a bound. -/
  | least (name : String) (bound : Nat) (got : String)
  /-- A value must not be negative. -/
  | negative (name : String) (got : String)
  /-- A decimal value must lie in `[0, 1)`. -/
  | fraction (name : String) (got : String)
  /-- A window needs one of its two bounds. -/
  | noBound
  /-- A value, as it is shown, is no decimal number. -/
  | noNumber (name : String) (shown : String)
  /-- A policy, as it is shown, is none of the two. -/
  | policy (shown : String)
  /-- A policy's name, as it is shown, is none of the two. -/
  | policyName (shown : String)
  /-- A value cannot be used as its setting at all. -/
  | misfit (message : String)
  /-- No store has this name. -/
  | backend (name : String)
  /-- The document at a path is no map. -/
  | noMapping (path : String)
  /-- The text at a path is no settings document. -/
  | malformed (path : String)
deriving DecidableEq, Repr, Inhabited

def Fault.problem : Fault → String
  | .positive name got => s!"{name} must be > 0, got {got}"
  | .least name bound got => s!"{name} must be >= {bound}, got {got}"
  | .negative name got => s!"{name} must be non-negative, got {got}"
  | .fraction name got => s!"{name} must be in [0, 1), got {got}"
  | .noBound => "window needs a max_points or max_age_secs bound"
  | .noNumber name shown => s!"{name} is not a number: {shown}"
  | .policy shown => s!"snapshot_policy must be a SnapshotPolicy, got {shown}"
  | .policyName shown =>
    s!"snapshot_policy must be {always} or {onChange}, got {shown}"
  | .misfit message => s!"invalid setting: {message}"
  | .backend name => s!"unknown storage backend: {name}"
  | .noMapping path => s!"{path} must contain a mapping at top level"
  | .malformed path => s!"invalid YAML in {path}"
where
  always : String := Datum.named "always"
  onChange : String := Datum.named "on_change"

/-- The line that reports a fault of a setting. -/
def Fault.message (f : Fault) : String := (Service.Error.mk .config f.problem).text

/-- Why a value is refused. -/
inductive Refusal where
  | fault (f : Fault)
  | misfit (m : Datum.Misfit)
deriving DecidableEq, Repr, Inhabited

/-- Refuses a value if a test holds, with a fault that names it. -/
def refuseIf (test : Except Datum.Misfit Bool) (fault : String → Fault) (got : Datum) :
    Except Refusal Unit := do
  if ← test.mapError .misfit then
    let shown ← got.written?.mapError .misfit
    .error (.fault (fault shown))

end FeeWatch.Setting
