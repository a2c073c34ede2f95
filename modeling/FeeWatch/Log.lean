/-! Log records. -/
namespace FeeWatch

/-- How grave a record is. -/
inductive Level where
  | debug
  | info
  | warning
  | error
deriving DecidableEq, Repr, Inhabited

/-- The weight of a level: a reader that wants a weight gets all records of at least that much. -/
def Level.weight : Level → Nat
  | .debug => 10
  | .info => 20
  | .warning => 30
  | .error => 40

def Level.word : Level → String
  | .debug => "DEBUG"
  | .info => "INFO"
  | .warning => "WARNING"
  | .error => "ERROR"

/-- Which part of the program wrote a record. -/
inductive Origin where
  | detector
  | store
  | alerts
  | ledger
  | monitor
  | command
deriving DecidableEq, Repr, Inhabited

/-- The name under which a part of the program writes its records. -/
def Origin.name : Origin → String
  | .detector => "feeinsights.detector"
  | .store => "feeinsights.storage"
  | .alerts => "feeinsights.alerts"
  | .ledger => "feeinsights.horizon"
  | .monitor => "feeinsights.engine"
  | .command => "feeinsights.cli"

/-- A line of the log. -/
structure Record where
  level : Level
  origin : Origin
  text : String
deriving DecidableEq, Repr, Inhabited

/-- The records that a program writes, first to last. -/
abbrev Log := List Record

end FeeWatch
