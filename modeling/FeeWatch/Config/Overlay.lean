import FeeWatch.Config.Default
import FeeWatch.Config.Environment
import FeeWatch.Config.Merge
import FeeWatch.Datum.Shared

/-! Laying documents over each other when their collections stand at several places.

A document whose collections each stand at one place is a tree, and trees are laid over
each other as maps are. In other documents what is laid over a map at one place is seen
at each place where the map stands, and a setting of the environment likewise. Such
documents can be laid over each other without an end, and a map can even grow while it
is laid over another one. -/
namespace FeeWatch.Config

open FeeWatch.Datum (Misfit Part Cell)

/-- Why documents could not be laid over each other. -/
inductive OverlayFault where
  | misfit (m : Misfit)
  /-- A map grew while it was laid over another one. -/
  | growing
  /-- Maps lie in each other without an end. -/
  | endless
deriving DecidableEq, Repr, Inhabited

def OverlayFault.message : OverlayFault → String
  | .misfit m => m.message
  | .growing => "dictionary changed size during iteration"
  | .endless => "maximum recursion depth exceeded while calling a Python object"

/-! ### Shared maps -/

/-- The entries of the map of a number. -/
def entriesAt (s : Shared) (n : Nat) : List (Scalar × Part) := (s.entries? (.place n)).getD []

/-- Sets an entry of the map of a number. -/
def setEntry (s : Shared) (n : Nat) (key : Scalar) (value : Part) : Shared :=
  { s with cells := s.cells.set! n (.map (Entries.insert key value (entriesAt s n))) }

def mapNumber? (s : Shared) : Part → Option Nat
  | .scalar _ => none
  | .place n => if (s.entries? (.place n)).isSome then some n else none

/-- How many entries the map of a number has. -/
def sizeAt (s : Shared) (n : Nat) : Nat := (entriesAt s n).length

/-- The maps that an entry brings together: the one under its key in the map of a number, and its
value. -/
def meeting? (s : Shared) (lower : Nat) (key : Scalar) (value : Part) : Option (Nat × Nat) :=
  match (Entries.find? key (entriesAt s lower)).bind (mapNumber? s), mapNumber? s value with
  | some a, some b => some (a, b)
  | _, _ => none

/-- Refuses to go on with a map that had another size when it was begun. -/
def checkSize (s : Shared) (n size : Nat) : Except OverlayFault Unit :=
  if sizeAt s n = size then .ok () else .error .growing

/-- Lays one entry of a map over another map. Two maps that it brings together are laid over each
other as `inside` does it. -/
def layEntry (inside : Nat → Nat → Shared → Except OverlayFault Shared) (lower upper size : Nat)
    (s : Shared) (i : Nat) : Except OverlayFault Shared := do
  checkSize s upper size
  match (entriesAt s upper)[i]? with
  | none => .ok s
  | some (key, value) =>
    match meeting? s lower key value with
    | some (a, b) => inside a b s
    | none => .ok (setEntry s lower key value)

/-- Lays the map of a number over that of another one; the first argument bounds how deep. -/
def lay : Nat → Nat → Nat → Shared → Except OverlayFault Shared
  | 0, _, _, _ => .error .endless
  | depth + 1, lower, upper, s => do
    let size := sizeAt s upper
    let s ← (List.range size).foldlM (layEntry (lay depth) lower upper size) s
    checkSize s upper size
    .ok s

/-- How deep maps may lie in each other when they are laid over others. Trees need no bound: who
reads one goes deeper at each map than laying does, and fails before. -/
def layDepth : Nat := 960

/-- Sets a setting of the map of a number. A group that the map does not have is made. -/
def setShared (root : Nat) (s : Shared) (v : Variable) (value : Scalar) :
    Except Misfit Shared :=
  match Entries.find? (.text v.group) (entriesAt s root) with
  | none =>
    let group : Cell := .map [(.text v.key, .scalar value)]
    .ok (setEntry { s with cells := s.cells.push group } root (.text v.group) (.place s.cells.size))
  | some group =>
    match mapNumber? s group with
    | some n => .ok (setEntry s n (.text v.key) (.scalar value))
    | none =>
      match group with
      | .scalar x => .error (.fixed x.kind)
      | .place n =>
        match s.cell n with
        | .list _ => .error .listIndex
        | cell => .error (.fixed cell.kind)

/-- Sets all settings that the environment gives in the map of a number. -/
def applyShared (env : Environment) (root : Nat) (s : Shared) : Except Misfit Shared :=
  env.settings.foldlM (fun s (v, value) => setShared root s v value) s

/-! ### Documents -/

/-- The groups of the settings, and the names of the settings in each. -/
def knownSettings : List (String × List String) :=
  match defaultDocument with
  | .map groups => groups.map fun (group, settings) => (group.written, keys settings)
  | _ => []
where
  /-- The texts that are keys of a map. -/
  keys : Datum → List String
    | .map entries => entries.map fun (key, _) => key.written
    | _ => []

/-- The settings of a map that the program knows, each with a copy of what stands there. -/
def knownEntries (s : Shared) (root : Nat) : List (Scalar × Datum) :=
  (entriesAt s root).filterMap fun (group, p) =>
    (knownSettings.find? fun (name, _) => group == .text name).map fun (_, names) =>
      match mapNumber? s p with
      | none => (group, s.datum p)
      | some n =>
        let known := (entriesAt s n).filter fun (key, _) => names.any fun name => key == .text name
        (group, .map (known.map fun (key, p) => (key, s.datum p)))

/-- A part whose collection has a number that is greater by so much. -/
def shift (by_ : Nat) : Part → Part
  | .scalar x => .scalar x
  | .place n => .place (n + by_)

/-- A collection whose parts have greater numbers. -/
def shiftCell (by_ : Nat) : Cell → Cell
  | .list items => .list (items.map (shift by_))
  | .map entries => .map (entries.map fun (key, p) => (key, shift by_ p))
  | .set members => .set members
  | .pair first second => .pair (shift by_ first) (shift by_ second)

/-- Two documents with their collections numbered together, and what the second one is then. -/
def together (a b : Shared) : Shared × Part :=
  (⟨a.cells ++ b.cells.map (shiftCell a.cells.size), a.root⟩, shift a.cells.size b.root)

/-- Lays a document, if it is a map, over the map of a number in another one. -/
def layUpper (lower : Shared) (root : Nat) : Option Shared → Except OverlayFault Shared
  | none => .ok lower
  | some upper =>
    let (s, top) := together lower upper
    match mapNumber? s top with
    | none => .error (.misfit (.lacks (s.kind top) "items"))
    | some top => lay layDepth root top s

/-- Lays a document over another one, if both are maps, and sets what the environment gives. -/
def layShared (env : Environment) (lower : Shared) (upper : Option Shared) :
    Except OverlayFault (List (Scalar × Datum)) := do
  match mapNumber? lower lower.root with
  | none => .error (.misfit (.lacks (lower.kind lower.root) "items"))
  | some root =>
    let s ← layUpper lower root upper
    let s ← (applyShared env root s).mapError .misfit
    .ok (knownEntries s root)

/-- Lays a tree over another one, if both are maps, and sets what the environment gives. -/
def layTrees (env : Environment) (lower : Datum) (upper : Option Datum) :
    Except Misfit (List (Scalar × Datum)) := do
  match lower with
  | .map lower =>
    match upper with
    | none => applyEnvironment env lower
    | some (.map upper) => applyEnvironment env (merge lower upper)
    | some d => .error (.lacks d.kind "items")
  | d => .error (.lacks d.kind "items")

/-- The settings of the main document with the local one laid over it, and the environment over
both. -/
def layOver (env : Environment) (lower : Shared) (upper : Option Shared) :
    Except OverlayFault (List (Scalar × Datum)) :=
  if lower.isTree && upper.all Shared.isTree then
    (layTrees env (lower.datum lower.root) (upper.map fun s => s.datum s.root)).mapError .misfit
  else layShared env lower upper

end FeeWatch.Config
