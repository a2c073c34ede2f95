import FeeWatch.Proofs.Window.Ingest
import Mathlib.Algebra.GroupWithZero.Nat

/-! The aggregates of a window.

A window is used by calls: batches arrive, and now and then it is cleared. A batch
whose ingest fails has arrived nevertheless, and its points stay as far as the bound
on the count lets them. `aggregates_agree`: after any calls the tally and the
extremes are those of the points that are held, and no ingest ever asks the tally
for a fee that it does not have. -/
namespace FeeWatch.Window

open FeeWatch.Fee (Point)

/-! ### Calls -/

inductive Call where
  | ingest (batch : List Point)
  | clear

/-- The window after a call, whether the call returned or failed. -/
def after (w : Window) : Call → Window
  | .ingest batch => (w.ingest batch).2
  | .clear => w.clear

def run (w : Window) (calls : List Call) : Window := calls.foldl after w

theorem run_concat (w : Window) (calls : List Call) (call : Call) :
    w.run (calls ++ [call]) = (w.run calls).after call := by
  rw [run, List.foldl_append]
  rfl

theorem after_sound {w : Window} (hw : w.Sound) : (call : Call) → (w.after call).Sound
  | .ingest batch => ingest_sound hw batch
  | .clear => clear_sound w

theorem run_sound {w : Window} (hw : w.Sound) (calls : List Call) : (w.run calls).Sound := by
  induction calls generalizing w with
  | nil => exact hw
  | cons call rest ih => exact ih (after_sound hw call)

theorem after_bounds {w : Window} (hw : w.Sound) : (call : Call) → (w.after call).bounds = w.bounds
  | .ingest batch => bounds_ingest hw batch
  | .clear => rfl

theorem run_bounds {w : Window} (hw : w.Sound) (calls : List Call) :
    (w.run calls).bounds = w.bounds := by
  induction calls generalizing w with
  | nil => rfl
  | cons call rest ih => exact (ih (after_sound hw call)).trans (after_bounds hw call)

/-! ### Aggregates -/

/-- The fees of the points that are held, oldest arrival first. -/
def fees (w : Window) : List Nat := w.points.map Point.fee

/-- The aggregates are those of the points that are held; without points they are zero, as is a
quotient by zero. -/
structure Agrees (w : Window) : Prop where
  count : w.tally.count = w.size
  total : w.tally.total = w.fees.sum
  average : w.tally.average = (w.fees.sum / w.size : Nat)
  min : w.extremes.min = (w.fees.min?.getD 0 : Nat)
  max : w.extremes.max = (w.fees.max?.getD 0 : Nat)

theorem sum_natCast (ns : List Nat) : Tally.sum (ns.map Nat.cast) = (ns.sum : Nat) := by
  induction ns with
  | nil => rfl
  | cons n rest ih =>
    rw [List.map_cons, Tally.sum, ih, List.sum_cons, Int.natCast_add]

theorem min?_natCast (ns : List Nat) :
    (ns.map (Nat.cast : Nat → Int)).min?.getD 0 = (ns.min?.getD 0 : Nat) := by
  cases hmin : ns.min? with
  | none => rw [List.min?_eq_none_iff.mp hmin]; rfl
  | some n =>
    obtain ⟨hmem, hleast⟩ := List.min?_eq_some_iff.mp hmin
    have : (ns.map (Nat.cast : Nat → Int)).min? = some (n : Int) := by
      refine List.min?_eq_some_iff.mpr ⟨List.mem_map_of_mem hmem, fun i hi => ?_⟩
      obtain ⟨m, hm, rfl⟩ := List.mem_map.mp hi
      exact Int.ofNat_le.mpr (hleast m hm)
    rw [this]
    rfl

theorem max?_natCast (ns : List Nat) :
    (ns.map (Nat.cast : Nat → Int)).max?.getD 0 = (ns.max?.getD 0 : Nat) := by
  cases hmax : ns.max? with
  | none => rw [List.max?_eq_none_iff.mp hmax]; rfl
  | some n =>
    obtain ⟨hmem, hgreatest⟩ := List.max?_eq_some_iff.mp hmax
    have : (ns.map (Nat.cast : Nat → Int)).max? = some (n : Int) := by
      refine List.max?_eq_some_iff.mpr ⟨List.mem_map_of_mem hmem, fun i hi => ?_⟩
      obtain ⟨m, hm, rfl⟩ := List.mem_map.mp hi
      exact Int.ofNat_le.mpr (hgreatest m hm)
    rw [this]
    rfl

theorem Sound.agrees {w : Window} (hw : w.Sound) : w.Agrees := by
  have hfees : w.held.map Held.fee = w.fees.map Nat.cast := by
    rw [fees, points, List.map_map, List.map_map]
    rfl
  have hentries : (w.held.map Held.entry).map Entry.fee = w.fees.map Nat.cast := by
    rw [← hfees, List.map_map]
    rfl
  have hcount : w.tally.count = w.size := by rw [hw.tally, Tally.ofList, List.length_map, size]
  have htotal : w.tally.total = w.fees.sum := by rw [hw.tally, Tally.ofList, hfees, sum_natCast]
  refine ⟨hcount, htotal, ?_, ?_, ?_⟩
  · rw [Tally.average, hcount, htotal]
    split
    · rename_i hsize
      rw [hsize, Nat.div_zero]
      rfl
    · rw [Int.fdiv_eq_ediv_of_nonneg _ (Int.natCast_nonneg _), Int.natCast_ediv]
  · rw [hw.extremes, Extremes.min_ofList, hentries, min?_natCast]
  · rw [hw.extremes, Extremes.max_ofList, hentries, max?_natCast]

/-- The tally and the extremes do not depend on the order of the points. -/
theorem Sound.aggregates_perm {a b : Window} (ha : a.Sound) (hb : b.Sound)
    (h : a.points.Perm b.points) :
    a.tally = b.tally ∧ a.extremes.min = b.extremes.min ∧ a.extremes.max = b.extremes.max := by
  have hfees : a.fees.Perm b.fees := h.map Point.fee
  have hsize : a.size = b.size := by
    have hlength := h.length_eq
    rwa [points, points, List.length_map, List.length_map] at hlength
  have hmin : a.fees.min? = b.fees.min? := by
    apply Option.ext
    intro n
    simp only [List.min?_eq_some_iff, hfees.mem_iff]
  have hmax : a.fees.max? = b.fees.max? := by
    apply Option.ext
    intro n
    simp only [List.max?_eq_some_iff, hfees.mem_iff]
  have htotal : a.tally.total = b.tally.total := by
    rw [ha.agrees.total, hb.agrees.total, hfees.sum_nat]
  have hcount : a.tally.count = b.tally.count := by rw [ha.agrees.count, hb.agrees.count, hsize]
  refine ⟨?_, ?_, ?_⟩
  · cases hsum : a.tally
    cases hsum' : b.tally
    simp_all
  · rw [ha.agrees.min, hb.agrees.min, hmin]
  · rw [ha.agrees.max, hb.agrees.max, hmax]

/-- **The aggregates describe exactly the points held**, after any calls on a window of any bounds,
those included that failed; and an ingest never fails for want of a fee to remove. -/
theorem aggregates_agree (bounds : Bounds) (calls : List Call) :
    ((empty bounds).run calls).Agrees ∧
      ∀ batch f, (((empty bounds).run calls).ingest batch).1 ≠ .error (.tally f) := by
  have hw := run_sound (empty_sound bounds) calls
  refine ⟨hw.agrees, fun batch f => ?_⟩
  rcases ingest_cases hw batch with ⟨_, h⟩ | ⟨_, _, _, h⟩ <;> rw [h] <;> simp

end FeeWatch.Window
