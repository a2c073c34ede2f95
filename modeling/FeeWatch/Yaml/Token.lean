/-! The tokens of a YAML text. -/
namespace FeeWatch.Yaml

inductive Token where
  /-- A directive that states the version. -/
  | version (major : Nat)
  /-- A directive that names the beginning of tags. -/
  | tagHandle (handle lead : String)
  /-- A directive without effect. -/
  | reserved
  | documentStart
  | documentEnd
  | streamEnd
  | flowListStart
  | flowListEnd
  | flowMapStart
  | flowMapEnd
  | flowEntry
  | listStart
  | mapStart
  | blockEnd
  | blockEntry
  | key
  | value
  | alias (name : String)
  | anchor (name : String)
  /-- A tag: its handle, if it has one, and the rest. -/
  | tag (handle : Option String) (suffix : String)
  /-- A scalar, and whether it stands without quotes and marks. -/
  | scalar (plain : Bool) (text : String)
deriving DecidableEq, Repr, Inhabited

end FeeWatch.Yaml
