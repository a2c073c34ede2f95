/-! Incidents: what may go wrong beneath the program, in a connection or a device.

The program sees an incident only by its nature, which decides whether it is
handled, and by its text. The label is the name under which it was reported. -/
namespace FeeWatch

/-- What an incident concerns. -/
inductive Incident.Nature where
  /-- The system: a device, a file, a connection. -/
  | system
  /-- A database. -/
  | database
  /-- The rules of a protocol. -/
  | protocol
  /-- An unfit value. -/
  | value
  | other
deriving DecidableEq, Repr, Inhabited

/-- Something that went wrong beneath the program. -/
structure Incident where
  label : String
  nature : Incident.Nature
  text : String
deriving DecidableEq, Repr, Inhabited

end FeeWatch
