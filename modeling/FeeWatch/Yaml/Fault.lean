import FeeWatch.Datum.Access

/-! Why a YAML text has no data. Most texts that fail are malformed; a scalar whose tag
promises a number, a truth value or a time that it does not hold fails in the way of
that kind of value. -/
namespace FeeWatch.Yaml

/-- Why a text is not read. -/
inductive Fault where
  /-- The text is no YAML, or its data cannot be built. -/
  | malformed
  /-- A number that its tag promised. -/
  | number (f : Number.Fault)
  /-- A day or time that there is not. -/
  | calendar (f : Calendar.Fault)
  /-- A word that is no truth value. -/
  | truth (word : String)
  /-- A text that is no day or time. -/
  | moment
  /-- A number without characters. -/
  | emptyNumber
  /-- An escape for a character that there is not. -/
  | character
  /-- An escape whose number is beyond all characters and 31 bits. -/
  | farCharacter
  /-- A time whose tag stands before a map. -/
  | mapTime
  /-- Collections that lie in each other too deep. -/
  | tooDeep
deriving DecidableEq, Repr, Inhabited

def Fault.message : Fault → String
  | .malformed => "invalid YAML"
  | .number f => f.message
  | .calendar f => f.message
  | .truth word => Text.quoted word
  | .moment => (Datum.Misfit.lacks (Scalar.kind .null) "groupdict").message
  | .emptyNumber => "string index out of range"
  | .character => "chr() arg not in range(0x110000)"
  | .farCharacter => "Python int too large to convert to C int"
  | .mapTime => s!"expected string or bytes-like object, got {Datum.named (Datum.list []).kind}"
  | .tooDeep => "maximum recursion depth exceeded"

end FeeWatch.Yaml
