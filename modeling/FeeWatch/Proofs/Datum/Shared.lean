import FeeWatch.Datum.Shared
import FeeWatch.Proofs.Datum.Keys

/-! Parts of shared data and what they are when they are unfolded.

A part has the kind of the datum that it unfolds to (`Shared.kind_datum`), and is a map exactly if
that is one (`Shared.entries?_isSome_iff`). If the maps of shared data have distinct keys, so has
every map in what is unfolded (`Shared.IsKeyed.datum`). -/
namespace FeeWatch

open FeeWatch.Datum (Part Cell)

/-- The keys of a collection that is a map are distinct. -/
def Datum.Cell.IsKeyed : Cell → Prop
  | .map es => Entries.Distinct es
  | _ => True

namespace Shared

theorem datum_place (s : Shared) (n : Nat) : s.datum (.place n) =
    match s.cell n with
    | .list items => .list (items.map (s.unfold s.cells.size [n]))
    | .map entries => .map (entries.map fun (k, p) => (k, s.unfold s.cells.size [n] p))
    | .set members => .set members
    | .pair first second =>
      .pair (s.unfold s.cells.size [n] first) (s.unfold s.cells.size [n] second) := by
  rw [datum, unfold]
  exact if_neg (by simp)

/-- A part is a map exactly if it is one when it is unfolded. -/
theorem entries?_isSome_iff {s : Shared} {p : Part} :
    (s.entries? p).isSome ↔ ∃ es, s.datum p = .map es := by
  cases p with
  | scalar x => simp [entries?, datum_scalar]
  | place n => rw [datum_place]; cases hcell : s.cell n <;> simp [entries?, hcell]

theorem entries?_eq_none_iff {s : Shared} {p : Part} :
    s.entries? p = none ↔ ∀ es, s.datum p ≠ .map es := by
  rw [← Option.not_isSome_iff_eq_none, entries?_isSome_iff, not_exists]

theorem kind_datum (s : Shared) (p : Part) : (s.datum p).kind = s.kind p := by
  cases p with
  | scalar x => rw [datum_scalar]; rfl
  | place n => rw [datum_place, kind]; cases s.cell n <;> rfl

/-! ### Keys -/

/-- The keys of each map of shared data are distinct. -/
def IsKeyed (s : Shared) : Prop := ∀ cell ∈ s.cells, cell.IsKeyed

theorem IsKeyed.cell {s : Shared} (h : s.IsKeyed) (n : Nat) : (s.cell n).IsKeyed := by
  unfold Shared.cell
  cases hn : s.cells[n]? with
  | none => exact Entries.distinct_nil
  | some c => exact h c (Array.mem_of_getElem? hn)

/-- Unfolded, a map keeps its keys. -/
theorem IsKeyed.unfold {s : Shared} (h : s.IsKeyed) (fuel : Nat) (around : List Nat) (p : Part) :
    Datum.IsKeyed (s.unfold fuel around p) := by
  induction fuel generalizing around p with
  | zero => cases p <;> exact .other (by simp [Shared.unfold])
  | succ fuel ih =>
    cases p with
    | scalar x => exact .other (by simp [Shared.unfold])
    | place n =>
      have hcell := h.cell n
      unfold Shared.unfold
      split
      · exact .other (by simp)
      · cases hn : s.cell n with
        | map es =>
          rw [hn] at hcell
          refine .map (List.pairwise_map.mpr hcell) fun e he => ?_
          obtain ⟨x, -, rfl⟩ := List.mem_map.mp he
          exact ih _ _
        | _ => exact .other (by simp)

theorem IsKeyed.datum {s : Shared} (h : s.IsKeyed) (p : Part) : Datum.IsKeyed (s.datum p) :=
  h.unfold _ _ p

end Shared

end FeeWatch
