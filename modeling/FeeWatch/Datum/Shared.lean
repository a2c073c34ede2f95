import FeeWatch.Datum.Basic

/-! Data in which a collection may stand at several places, and even inside itself.

Such data come from settings files with aliases. Their collections are known by
numbers, and what is done to a collection is seen at every place where it stands.
Unfolded, each place has a copy of its own; a collection inside itself is not unfolded
again. -/
namespace FeeWatch

namespace Datum

inductive Part where
  | scalar (s : Scalar)
  /-- The collection of a number. -/
  | place (n : Nat)
deriving DecidableEq, Repr, Inhabited

/-- A collection of shared data. -/
inductive Cell where
  | list (items : List Part)
  | map (entries : List (Scalar × Part))
  | set (members : List Scalar)
  | pair (first second : Part)
deriving DecidableEq, Repr, Inhabited

def Cell.parts : Cell → List Part
  | .list items => items
  | .map entries => entries.map (·.2)
  | .set _ => []
  | .pair first second => [first, second]

/-- The name of a collection's kind. -/
def Cell.kind : Cell → String
  | .list _ => (Datum.list []).kind
  | .map _ => (Datum.map []).kind
  | .set _ => (Datum.set []).kind
  | .pair .. => (Datum.pair .null .null).kind

end Datum

open Datum (Part Cell)

structure Shared where
  /-- The collections by their numbers. -/
  cells : Array Cell
  root : Part
deriving DecidableEq, Repr, Inhabited

namespace Shared

/-- A collection by its number. -/
def cell (s : Shared) (n : Nat) : Cell := s.cells[n]?.getD (.map [])

/-- The numbers among some parts. -/
def places (parts : List Part) : List Nat :=
  parts.filterMap fun p => match p with
    | .place n => some n
    | .scalar _ => none

/-- Whether each collection stands at one place at most. -/
def isTree (s : Shared) : Bool :=
  let all := places (s.root :: s.cells.toList.flatMap Cell.parts)
  let sorted := all.mergeSort
  (sorted.zip (sorted.drop 1)).all fun (a, b) => a != b

def kind (s : Shared) : Part → String
  | .scalar x => x.kind
  | .place n => (s.cell n).kind

/-- Whether a part counts as something: empty collections do not. -/
def isSome (s : Shared) : Part → Bool
  | .scalar x => x.isSome
  | .place n =>
    match s.cell n with
    | .list items => !items.isEmpty
    | .map entries => !entries.isEmpty
    | .set members => !members.isEmpty
    | .pair .. => true

def entries? (s : Shared) : Part → Option (List (Scalar × Part))
  | .scalar _ => none
  | .place n => match s.cell n with
    | .map entries => some entries
    | _ => none

/-- Unfolds a part that stands inside some collections; `fuel` bounds how many. -/
def unfold (s : Shared) : Nat → List Nat → Part → Datum
  | _, _, .scalar x => .scalar x
  | 0, _, .place _ => .again true
  | fuel + 1, around, .place n =>
    if around.contains n then .again (s.entries? (.place n)).isSome
    else
      let part := s.unfold fuel (n :: around)
      match s.cell n with
      | .list items => .list (items.map part)
      | .map entries => .map (entries.map fun (k, p) => (k, part p))
      | .set members => .set members
      | .pair first second => .pair (part first) (part second)

/-- A part with a copy of each collection at each place. -/
def datum (s : Shared) (p : Part) : Datum := s.unfold (s.cells.size + 1) [] p

theorem datum_scalar (s : Shared) (x : Scalar) : s.datum (.scalar x) = .scalar x := by
  simp [datum, unfold]

end Shared
end FeeWatch
