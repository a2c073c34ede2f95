import FeeWatch.Config.Merge
import FeeWatch.Proofs.Datum.Keys

/-! What one map laid over another one holds.

The keys of a map are taken in one after the other, and since they are distinct each key is laid
over what the lower map has under it (`find?_merge`). From that follows what stands at the end of a
path of any length (`at?_overlay`), and that a map laid a second time over the same map changes
nothing (`merge_merge_self`). -/
namespace FeeWatch.Config

open FeeWatch.Datum (IsKeyed IsSilent at?)
open FeeWatch.Entries (find? Distinct)

theorem overlay_other (below : Option Datum) {d : Datum} (h : ∀ es, d ≠ .map es) :
    overlay below d = d := by
  rw [overlay]
  exact h

/-- Over what is no map, a map stays as it is. -/
theorem overlay_map_other {below : Option Datum} (h : ∀ es, below ≠ some (.map es))
    (upper : List (Scalar × Datum)) : overlay below (.map upper) = .map upper := by
  rw [overlay]
  exact h

theorem overlay_map (lower upper : List (Scalar × Datum)) :
    overlay (some (.map lower)) (.map upper) = .map (merge lower upper) := by rw [overlay]

@[simp] theorem overlay_none (d : Datum) : overlay none d = d := by
  cases d with
  | map es => exact overlay_map_other (by simp) es
  | _ => exact overlay_other _ (by simp)

theorem merge_cons (lower : List (Scalar × Datum)) (key : Scalar) (value : Datum)
    (rest : List (Scalar × Datum)) :
    merge lower ((key, value) :: rest) =
      merge (Entries.insert key (overlay (find? key lower) value) lower) rest := by rw [merge]

/-- **Under each key a map laid over another one has its own value, laid over the other's, or the
other's where it has none.** -/
theorem find?_merge {upper : List (Scalar × Datum)} (hupper : Distinct upper)
    (lower : List (Scalar × Datum)) (key : Scalar) :
    find? key (merge lower upper) =
      match find? key upper with
      | some value => some (overlay (find? key lower) value)
      | none => find? key lower := by
  induction hupper generalizing lower with
  | nil => rw [merge_nil]; rfl
  | @cons e rest hhead _ ih =>
    obtain ⟨k, v⟩ := e
    rw [merge_cons, ih, Entries.find?_insert]
    by_cases hk : k.sameKey key = true
    · have hrest : find? key rest = none := by
        rw [← Entries.find?_congr hk]
        exact Entries.find?_eq_none fun e he => (Scalar.sameKey_comm _ _).trans (hhead e he)
      simp [find?, hk, hrest, Entries.find?_congr hk]
    · simp [find?, hk]

/-- What a key leads to in a datum laid over another one. -/
theorem at?_overlay_key {upper : List (Scalar × Datum)} (hupper : Distinct upper)
    (below : Option Datum) (key : Scalar) :
    at? [key] (overlay below (.map upper)) =
      match find? key upper with
      | some value => some (overlay (below.bind (at? [key])) value)
      | none => below.bind (at? [key]) := by
  by_cases h : ∃ lower, below = some (.map lower)
  · obtain ⟨lower, rfl⟩ := h
    have hat : ∀ es, at? [key] (.map es) = find? key es := fun es => by
      cases hf : find? key es <;> simp [hf]
    rw [overlay_map, hat, find?_merge hupper, Option.bind_some, hat]
  · have hbelow : below.bind (at? [key]) = none := by
      cases below with
      | none => rfl
      | some d => exact Datum.at?_cons_other (fun es hd => h ⟨es, congrArg some hd⟩) key []
    rw [overlay_map_other fun es hes => h ⟨es, hes⟩, hbelow]
    cases hf : find? key upper <;> simp [hf]

/-- **What stands at the end of a path.** Where the upper datum has something there, it is that,
laid over what the lower one has there; where it says nothing about the path, it is what the lower
one has; and where something that is no map cuts the path off, there is nothing. -/
theorem at?_overlay {upper : Datum} (hupper : IsKeyed upper) (below : Option Datum)
    (path : List Scalar) :
    (∀ d, at? path upper = some d →
      at? path (overlay below upper) = some (overlay (below.bind (at? path)) d)) ∧
    (IsSilent path upper → at? path (overlay below upper) = below.bind (at? path)) ∧
    (at? path upper = none → ¬ IsSilent path upper → at? path (overlay below upper) = none) := by
  induction path generalizing below upper with
  | nil =>
    refine ⟨fun d hd => ?_, fun h => (Datum.not_isSilent_nil _ h).elim, fun h => ?_⟩
    · cases (Datum.at?_nil upper).symm.trans hd
      cases below <;> simp
    · exact absurd h (by simp)
  | cons key path ih =>
    cases hupper with
    | other h =>
      rw [overlay_other below h, Datum.at?_cons_other h]
      exact ⟨fun d hd => (nomatch hd), fun hs => (Datum.not_isSilent_other h _ hs).elim,
        fun _ _ => rfl⟩
    | @map es hkeys hvalues =>
      -- What the lower datum has at the end of the path it has below the first key.
      have hbelow : below.bind (at? (key :: path)) = (below.bind (at? [key])).bind (at? path) := by
        cases below with
        | none => rfl
        | some d => exact Datum.at?_cons key path d
      rw [Datum.at?_cons key path (overlay _ _), at?_overlay_key hkeys, hbelow,
        Datum.at?_cons_map, Datum.isSilent_cons_map]
      cases hf : find? key es with
      | none => exact ⟨fun d hd => (nomatch hd), fun _ => rfl, fun _ hs => (hs (by simp)).elim⟩
      | some value =>
        obtain ⟨k, -, hmem⟩ := Entries.mem_of_find? hf
        simpa using ih (hvalues _ hmem) (below.bind (at? [key]))

/-! ### Once more -/

/-- A map laid over one that has under each of its keys what comes of laying the key's value over it
changes nothing. -/
theorem merge_eq_self {lower upper : List (Scalar × Datum)}
    (h : ∀ e ∈ upper, ∃ d, find? e.1 lower = some d ∧ overlay (some d) e.2 = d) :
    merge lower upper = lower := by
  induction upper with
  | nil => exact merge_nil lower
  | cons e rest ih =>
    obtain ⟨d, hfind, hlayer⟩ := h e List.mem_cons_self
    rw [merge_cons, hfind, hlayer, Entries.insert_of_find? hfind]
    exact ih fun e he => h e (List.mem_cons_of_mem _ he)

/-- Laid over the same datum once more, a datum changes nothing. -/
theorem overlay_overlay_self {upper : Datum} (hupper : IsKeyed upper) (below : Option Datum) :
    overlay (some (overlay below upper)) upper = overlay below upper := by
  induction hupper generalizing below with
  | other h => rw [overlay_other _ h, overlay_other _ h]
  | @map es hkeys _ ih =>
    by_cases hb : ∃ lower, below = some (.map lower)
    · obtain ⟨lower, rfl⟩ := hb
      rw [overlay_map, overlay_map, merge_eq_self fun e he => ?_]
      refine ⟨overlay (find? e.1 lower) e.2, ?_, ih e he _⟩
      rw [find?_merge hkeys, hkeys.find?_of_mem he]
    · rw [overlay_map_other fun es hes => hb ⟨es, hes⟩, overlay_map, merge_eq_self fun e he => ?_]
      have hself := ih e he none
      rw [overlay_none] at hself
      exact ⟨e.2, hkeys.find?_of_mem he, hself⟩

/-- **A map laid a second time over the same map changes nothing.** -/
theorem merge_merge_self {upper : List (Scalar × Datum)} (hupper : IsKeyed (.map upper))
    (lower : List (Scalar × Datum)) : merge (merge lower upper) upper = merge lower upper := by
  have h := overlay_overlay_self hupper (some (.map lower))
  rw [overlay_map, overlay_map] at h
  exact Datum.map.inj h

end FeeWatch.Config
