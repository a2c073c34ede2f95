import FeeWatch.Proofs.Config.Environment
import FeeWatch.Proofs.Config.Laying
import FeeWatch.Proofs.Datum.Shared

/-! Why documents cannot be laid over each other.

Documents whose collections each stand at one place are laid over each other as maps are; in others
what is laid over a map is seen wherever the map stands (`Overlaid`). A document is not laid over one
that is a map if it is no map itself, or if laying it breaks; nor can the environment set a setting
in a group that is no map then. These are the only reasons (`unlaid_of_layOver`), and each of them is
one (`Unlaid.layOver`). -/
namespace FeeWatch.Config

open FeeWatch.Datum (Part Cell Misfit)

/-! ### Maps stay maps -/

/-- The collection of a number is a map. -/
def IsMap (s : Shared) (n : Nat) : Prop := (s.entries? (.place n)).isSome = true

theorem mapNumber?_eq_some {s : Shared} {p : Part} {n : Nat} :
    mapNumber? s p = some n ↔ p = .place n ∧ IsMap s n := by
  cases p with
  | scalar x => simp [mapNumber?]
  | place m =>
    show (if (s.entries? (.place m)).isSome then some m else none) = some n ↔ _
    by_cases h : (s.entries? (.place m)).isSome = true
    · rw [if_pos h, Option.some.injEq, Part.place.injEq]
      exact ⟨fun hm => ⟨hm, hm ▸ h⟩, And.left⟩
    · rw [if_neg h]
      refine ⟨nofun, fun ⟨hm, hn⟩ => ?_⟩
      cases hm
      exact absurd hn h

section Cells
variable {s t : Shared} {n m : Nat} {key : Scalar} {value : Part} {es : List (Scalar × Part)}

theorem isMap_of_cell (h : s.cell n = .map es) : IsMap s n := by
  rw [IsMap, Shared.entries?, h]
  rfl

theorem isMap_congr (h : t.cell n = s.cell n) : IsMap t n ↔ IsMap s n := by
  simp only [IsMap, Shared.entries?, h]

theorem entriesAt_of_cell (h : s.cell n = .map es) : entriesAt s n = es := by
  simp only [entriesAt, Shared.entries?, h, Option.getD_some]

theorem entriesAt_congr (h : t.cell n = s.cell n) : entriesAt t n = entriesAt s n := by
  simp only [entriesAt, Shared.entries?, h]

theorem cell_setEntry (s : Shared) (n m : Nat) (key : Scalar) (value : Part) :
    (setEntry s n key value).cell m =
      if n = m ∧ n < s.cells.size then .map (Entries.insert key value (entriesAt s n))
      else s.cell m := by
  unfold setEntry Shared.cell
  rw [Array.set!_eq_setIfInBounds, Array.getElem?_setIfInBounds]
  by_cases hm : n = m
  · by_cases hn : n < s.cells.size
    · rw [if_pos hm, if_pos hn, if_pos ⟨hm, hn⟩]
      rfl
    · rw [if_pos hm, if_neg hn, if_neg fun h => hn h.2,
        Array.getElem?_eq_none (hm ▸ Nat.not_lt.mp hn)]
  · rw [if_neg hm, if_neg fun h => hm h.1]

/-- An entry of a map is set, or the map is not among the collections. -/
theorem entriesAt_setEntry (s : Shared) (n m : Nat) (key : Scalar) (value : Part) :
    entriesAt (setEntry s n key value) m = entriesAt s m ∨
      n = m ∧ entriesAt (setEntry s n key value) m = Entries.insert key value (entriesAt s m) := by
  have hcell := cell_setEntry s n m key value
  split at hcell <;> rename_i hm
  · rw [← hm.1] at hcell ⊢
    exact .inr ⟨rfl, entriesAt_of_cell hcell⟩
  · exact .inl (entriesAt_congr hcell)

theorem isMap_setEntry (h : IsMap s n) : IsMap (setEntry s n key value) m ↔ IsMap s m := by
  have hcell := cell_setEntry s n m key value
  split at hcell <;> rename_i hm
  · exact iff_of_true (isMap_of_cell hcell) (hm.1 ▸ h)
  · exact isMap_congr hcell

theorem IsMap.setEntry (h : IsMap s m) : IsMap (setEntry s n key value) m := by
  have hcell := cell_setEntry s n m key value
  split at hcell
  · exact isMap_of_cell hcell
  · exact (isMap_congr hcell).mpr h

theorem entriesAt_of_not_isMap (h : ¬ IsMap s n) : entriesAt s n = [] := by
  rw [IsMap, Option.not_isSome_iff_eq_none] at h
  rw [entriesAt, h]
  rfl

end Cells

/-! ### Settings of the environment -/

/-- A group of settings in a map is a map, or can be made. -/
def IsGroupAt (s : Shared) (root : Nat) (name : String) : Prop :=
  ∀ p, Entries.find? (.text name) (entriesAt s root) = some p → ∃ n, mapNumber? s p = some n

section Settings
variable {s t : Shared} {root : Nat} {v : Variable} {value : Scalar} {name : String}

theorem setShared_isOk_iff : (∃ t, setShared root s v value = .ok t) ↔ IsGroupAt s root v.group := by
  unfold setShared IsGroupAt
  cases Entries.find? (.text v.group) (entriesAt s root) with
  | none => exact iff_of_true ⟨_, rfl⟩ nofun
  | some p =>
    cases hp : mapNumber? s p with
    | some n => simp [hp]
    | none =>
      refine iff_of_false ?_ fun h => by simpa [hp] using h p rfl
      rintro ⟨t, ht⟩
      cases p with
      | scalar x => simp [hp] at ht
      | place n => cases hcell : s.cell n <;> simp [hp, hcell] at ht

theorem setShared_failsOnly : FailsOnly (fun m => m = .listIndex ∨ ∃ kind, m = .fixed kind)
    (setShared root s v value) := by
  unfold setShared
  cases Entries.find? (.text v.group) (entriesAt s root) with
  | none => exact .ok _
  | some p =>
    cases hp : mapNumber? s p with
    | some n => simpa [hp] using .ok _
    | none =>
      cases p with
      | scalar x => simpa [hp] using .error (.inr ⟨_, rfl⟩)
      | place n =>
        cases hcell : s.cell n <;> simp only [hp, hcell]
        case list => exact .error (.inl rfl)
        all_goals exact .error (.inr ⟨_, rfl⟩)

/-- A group with one setting. -/
def groupOf (v : Variable) (value : Scalar) : Cell := .map [(.text v.key, .scalar value)]

/-- Shared data with one more map. -/
def withGroup (s : Shared) (v : Variable) (value : Scalar) : Shared :=
  { s with cells := s.cells.push (groupOf v value) }

/-- A setting is set in its group, or in a group that is made for it. -/
theorem setShared_eq_ok (h : setShared root s v value = .ok t) :
    (Entries.find? (.text v.group) (entriesAt s root) = none ∧
      t = setEntry (withGroup s v value) root (.text v.group) (.place s.cells.size)) ∨
    ∃ n, IsMap s n ∧ t = setEntry s n (.text v.key) (.scalar value) := by
  unfold setShared at h
  cases hfind : Entries.find? (.text v.group) (entriesAt s root) with
  | none =>
    rw [hfind] at h
    cases h
    exact .inl ⟨rfl, rfl⟩
  | some p =>
    rw [hfind] at h
    cases hp : mapNumber? s p with
    | some n =>
      simp only [hp, Except.ok.injEq] at h
      exact .inr ⟨n, (mapNumber?_eq_some.mp hp).2, h.symm⟩
    | none =>
      cases p with
      | scalar x => simp [hp] at h
      | place n => cases hcell : s.cell n <;> simp [hp, hcell] at h

theorem cell_withGroup (s : Shared) (v : Variable) (value : Scalar) (n : Nat) :
    (withGroup s v value).cell n = if n = s.cells.size then groupOf v value else s.cell n := by
  unfold withGroup Shared.cell
  rw [Array.getElem?_push]
  split <;> rfl

theorem cell_size (s : Shared) : s.cell s.cells.size = .map [] := by
  rw [Shared.cell, Array.getElem?_eq_none (Nat.le_refl _)]
  rfl

theorem isMap_withGroup (s : Shared) (v : Variable) (value : Scalar) (n : Nat) :
    IsMap (withGroup s v value) n ↔ IsMap s n := by
  have hcell := cell_withGroup s v value n
  split at hcell <;> rename_i hn
  · exact iff_of_true (isMap_of_cell hcell) (hn ▸ isMap_of_cell (cell_size s))
  · exact isMap_congr hcell

theorem not_sameKey_text {key name : String} (h : key ≠ name) :
    ¬ Scalar.sameKey (.text key) (.text name) = true := fun hsame => h (Scalar.sameKey_text.mp hsame)

theorem find?_withGroup (s : Shared) (value : Scalar) (n : Nat) (h : v.key ≠ name) :
    Entries.find? (.text name) (entriesAt (withGroup s v value) n) =
      Entries.find? (.text name) (entriesAt s n) := by
  have hcell := cell_withGroup s v value n
  split at hcell <;> rename_i hn
  · rw [entriesAt_of_cell hcell, hn, entriesAt_of_cell (cell_size s)]
    exact if_neg (not_sameKey_text h)
  · rw [entriesAt_congr hcell]

theorem find?_setEntry (s : Shared) (n m : Nat) {key : String} (p : Part) (h : key ≠ name) :
    Entries.find? (.text name) (entriesAt (setEntry s n (.text key) p) m) =
      Entries.find? (.text name) (entriesAt s m) := by
  rcases entriesAt_setEntry s n m (.text key) p with hentries | ⟨-, hentries⟩
  · rw [hentries]
  · rw [hentries, Entries.find?_insert, if_neg (not_sameKey_text h)]

theorem isGroupAt_congr (hmaps : ∀ n, IsMap t n ↔ IsMap s n)
    (hfind : Entries.find? (.text name) (entriesAt t root) =
      Entries.find? (.text name) (entriesAt s root)) :
    IsGroupAt t root name ↔ IsGroupAt s root name := by
  simp only [IsGroupAt, hfind, mapNumber?_eq_some, hmaps]

/-- A group that is made for a setting is a map. -/
theorem isGroupAt_made (hfind : Entries.find? (.text v.group) (entriesAt s root) = none)
    (hname : v.key ≠ v.group) :
    IsGroupAt (setEntry (withGroup s v value) root (.text v.group) (.place s.cells.size)) root
      v.group := by
  intro p hp
  rcases entriesAt_setEntry (withGroup s v value) root root (.text v.group)
      (.place s.cells.size) with hentries | ⟨-, hentries⟩
  · rw [hentries, find?_withGroup s value root hname, hfind] at hp
    cases hp
  · rw [hentries, Entries.find?_insert_self] at hp
    cases hp
    have hsize := (isMap_withGroup s v value _).mpr (isMap_of_cell (cell_size s))
    exact ⟨_, mapNumber?_eq_some.mpr ⟨rfl, hsize.setEntry⟩⟩

/-- Setting a setting leaves groups as they are, but for one that it makes. -/
theorem setShared_isGroupAt (h : setShared root s v value = .ok t) (hname : v.key ≠ name) :
    IsGroupAt t root name ↔ IsGroupAt s root name := by
  rcases setShared_eq_ok h with ⟨hfind, rfl⟩ | ⟨n, hn, rfl⟩
  · by_cases hgroup : v.group = name
    · subst hgroup
      exact iff_of_true (isGroupAt_made hfind hname) fun p hp => nomatch hfind.symm.trans hp
    · have hsame := (find?_setEntry (withGroup s v value) root root (.place s.cells.size) hgroup).trans
        (find?_withGroup s value root hname)
      by_cases hroot : IsMap s root
      · have hroot' := (isMap_withGroup s v value root).mpr hroot
        exact isGroupAt_congr (fun n => (isMap_setEntry hroot').trans (isMap_withGroup s v value n)) hsame
      · have hnone : Entries.find? (.text name) (entriesAt s root) = none := by
          rw [entriesAt_of_not_isMap hroot]
          rfl
        exact iff_of_true (fun p hp => nomatch (hsame.trans hnone).symm.trans hp)
          fun p hp => nomatch hnone.symm.trans hp
  · exact isGroupAt_congr (fun m => isMap_setEntry hn) (find?_setEntry s n root _ hname)

theorem key_ne_group : ∀ v ∈ allVariables, ∀ w ∈ allVariables, v.key ≠ w.group := by decide

/-- **The environment can set its settings exactly if their groups are maps**, also where a group
stands at several places. -/
theorem applyShared_isOk_iff (env : Environment) (root : Nat) (s : Shared) :
    (∃ t, applyShared env root s = .ok t) ↔
      ∀ v ∈ allVariables, (env.get? v.name).isSome → IsGroupAt s root v.group := by
  rw [← forall_settings_iff (P := fun v => IsGroupAt s root v.group)]
  refine foldlM_isOk_iff (P := fun s (x : Variable × Scalar) => IsGroupAt s root x.1.group)
    (fun _ _ _ => setShared_isOk_iff) (fun _ _ x hx h z hz => ?_) s
  exact setShared_isGroupAt h
    (key_ne_group _ (mem_settings.mp hx).1 _ (mem_settings.mp hz).1)

/-- The environment cannot set its settings because a group of theirs is no map. -/
theorem applyShared_eq_error {env : Environment} {m : Misfit}
    (h : applyShared env root s = .error m) : (m = .listIndex ∨ ∃ kind, m = .fixed kind) ∧
      ∃ v ∈ allVariables, (env.get? v.name).isSome ∧ ¬ IsGroupAt s root v.group := by
  refine ⟨FailsOnly.foldlM (fun _ _ => setShared_failsOnly) _ _ m h, ?_⟩
  by_contra hgroups
  obtain ⟨t, hok⟩ := (applyShared_isOk_iff env root s).mpr fun v hv hset =>
    not_not.mp fun hgroup => hgroups ⟨v, hv, hset, hgroup⟩
  cases h.symm.trans hok

end Settings

/-! ### Documents -/

/-- The entries that a document lays over those of another one; no document has none. -/
inductive Gives : Option Shared → List (Scalar × Datum) → Prop
  | none : Gives none []
  | some {s : Shared} {es : List (Scalar × Datum)} (h : s.datum s.root = .map es) :
    Gives (some s) es

/-- A document was laid over the map of a number in another one. -/
inductive Overlaid (lower : Shared) (root : Nat) : Option Shared → Shared → Prop
  | alone : Overlaid lower root none lower
  | laid {upper s t : Shared} {top : Nat} (htop : together lower upper = (s, .place top))
    (h : Lays root top s (sizeAt s top) t) (hend : sizeAt t top = sizeAt s top) :
    Overlaid lower root (some upper) t

/-- Why a document cannot be laid over one that is a map, and the environment over both. -/
inductive Unlaid (env : Environment) (lower : Shared) : Option Shared → OverlayFault → Prop
  /-- What is laid over is no map. -/
  | noMap {upper : Shared} (h : upper.entries? upper.root = none) :
    Unlaid env lower (some upper) (.misfit (.lacks (upper.kind upper.root) "items"))
  /-- The documents are trees, and a variable gives a setting in a group that is no map. -/
  | fixed {upper : Option Shared} {base layer : List (Scalar × Datum)} {v : Variable} {m : Misfit}
    (htrees : (lower.isTree && upper.all Shared.isTree) = true)
    (hbase : lower.datum lower.root = .map base) (hlayer : Gives upper layer)
    (hv : v ∈ allVariables) (hset : (env.get? v.name).isSome)
    (hgroup : ¬ IsGroup (merge base layer) v.group) (hm : m = .listIndex ∨ ∃ kind, m = .fixed kind) :
    Unlaid env lower upper (.misfit m)
  /-- Some collection stands at several places, and a variable gives a setting in a group that is no
  map. -/
  | fixedShared {upper : Option Shared} {root : Nat} {s : Shared} {v : Variable} {m : Misfit}
    (hshared : (lower.isTree && upper.all Shared.isTree) = false)
    (hroot : mapNumber? lower lower.root = some root) (hlaid : Overlaid lower root upper s)
    (hv : v ∈ allVariables) (hset : (env.get? v.name).isSome) (hgroup : ¬ IsGroupAt s root v.group)
    (hm : m = .listIndex ∨ ∃ kind, m = .fixed kind) : Unlaid env lower upper (.misfit m)
  /-- Some collection stands at several places, and a map gets an entry while its own are laid over
  another one, or maps come to lie in each other without an end. -/
  | broken {upper s : Shared} {root top : Nat} {o : OverlayFault}
    (hshared : (lower.isTree && upper.isTree) = false)
    (hroot : mapNumber? lower lower.root = some root) (htop : together lower upper = (s, .place top))
    (h : Breaks layDepth root top s o) : Unlaid env lower (some upper) o

section Documents
variable {env : Environment} {lower : Shared} {upper : Option Shared} {root : Nat}
  {base layer : List (Scalar × Datum)} {o : OverlayFault}

theorem cell_together (a b : Shared) (n : Nat) :
    (together a b).1.cell (n + a.cells.size) = shiftCell a.cells.size (b.cell n) := by
  unfold together Shared.cell
  dsimp only
  rw [Array.getElem?_append_right (Nat.le_add_left _ _), Nat.add_sub_cancel, Array.getElem?_map]
  cases b.cells[n]? <;> rfl

theorem kind_together (a b : Shared) :
    (together a b).1.kind (together a b).2 = b.kind b.root := by
  show (together a b).1.kind (shift _ b.root) = _
  cases b.root with
  | scalar x => rfl
  | place n =>
    show ((together a b).1.cell (n + a.cells.size)).kind = (b.cell n).kind
    rw [cell_together]
    cases b.cell n <;> rfl

theorem mapNumber?_together_eq_none {a b : Shared} :
    mapNumber? (together a b).1 (together a b).2 = none ↔ b.entries? b.root = none := by
  show mapNumber? (together a b).1 (shift _ b.root) = none ↔ _
  cases b.root with
  | scalar x => exact iff_of_true rfl rfl
  | place n =>
    simp only [shift, mapNumber?, Shared.entries?, cell_together]
    cases b.cell n <;> simp [shiftCell]

/-- Trees are laid over each other as maps are, and the environment over both. -/
theorem layOver_of_trees (htrees : (lower.isTree && upper.all Shared.isTree) = true)
    (hbase : lower.datum lower.root = .map base) (hlayer : Gives upper layer) :
    layOver env lower upper = (applyEnvironment env (merge base layer)).mapError .misfit := by
  rw [layOver, if_pos htrees, hbase]
  cases hlayer with
  | none => rw [merge_nil]; rfl
  | some h => rw [Option.map_some, h]; rfl

theorem layOver_of_shared (hshared : (lower.isTree && upper.all Shared.isTree) = false)
    (hroot : mapNumber? lower lower.root = some root) : layOver env lower upper =
      layUpper lower root upper >>= fun s =>
        (applyShared env root s).mapError .misfit >>= fun s => .ok (knownEntries s root) := by
  rw [layOver, hshared, if_neg Bool.false_ne_true, layShared, hroot]

theorem exists_root {s : Shared} (h : (s.entries? s.root).isSome) :
    ∃ root, mapNumber? s s.root = some root := by
  generalize s.root = p at h ⊢
  cases p with
  | scalar x => cases h
  | place n => exact ⟨n, mapNumber?_eq_some.mpr ⟨rfl, h⟩⟩

/-- What is no map is not laid over a map. -/
theorem layOver_noMap {upper : Shared} (hlower : (lower.entries? lower.root).isSome)
    (h : upper.entries? upper.root = none) : layOver env lower (some upper) =
      .error (.misfit (.lacks (upper.kind upper.root) "items")) := by
  obtain ⟨base, hbase⟩ := Shared.entries?_isSome_iff.mp hlower
  have hno := Shared.entries?_eq_none_iff.mp h
  cases hshared : lower.isTree && (some upper).all Shared.isTree with
  | true =>
    rw [layOver, if_pos hshared, hbase, Option.map_some, ← Shared.kind_datum]
    cases hd : upper.datum upper.root with
    | map es => exact absurd hd (hno es)
    | _ => rfl
  | false =>
    obtain ⟨root, hroot⟩ := exists_root hlower
    rw [layOver_of_shared hshared hroot, layUpper, ← kind_together lower upper]
    dsimp only
    rw [mapNumber?_together_eq_none.mpr h]
    rfl

/-- A document that was laid over another one came to what it should, and one that was not is no map
or breaks. -/
theorem layUpper_explained (env : Environment)
    (hshared : (lower.isTree && upper.all Shared.isTree) = false)
    (hroot : mapNumber? lower lower.root = some root) :
    (∃ s, layUpper lower root upper = .ok s ∧ Overlaid lower root upper s) ∨
      ∃ o, layUpper lower root upper = .error o ∧ Unlaid env lower upper o := by
  cases upper with
  | none => exact .inl ⟨lower, rfl, .alone⟩
  | some upper =>
    rw [layUpper]
    dsimp only
    cases hmap : mapNumber? (together lower upper).1 (together lower upper).2 with
    | none =>
      refine .inr ⟨_, rfl, ?_⟩
      rw [kind_together]
      exact .noMap (mapNumber?_together_eq_none.mp hmap)
    | some top =>
      have htop : together lower upper = ((together lower upper).1, .place top) :=
        Prod.ext rfl (mapNumber?_eq_some.mp hmap).1
      have hlay := lay_explained layDepth root top (together lower upper).1
      dsimp only
      cases hresult : lay layDepth root top (together lower upper).1 with
      | ok t =>
        rw [hresult] at hlay
        exact .inl ⟨t, rfl, .laid htop hlay.1 hlay.2⟩
      | error o =>
        rw [hresult] at hlay
        exact .inr ⟨o, rfl, .broken hshared hroot htop hlay⟩

/-- **A document cannot be laid over a map, and the environment over both, for a reason.** -/
theorem unlaid_of_layOver (hlower : (lower.entries? lower.root).isSome)
    (h : layOver env lower upper = .error o) : Unlaid env lower upper o := by
  cases hshared : lower.isTree && upper.all Shared.isTree with
  | true =>
    obtain ⟨base, hbase⟩ := Shared.entries?_isSome_iff.mp hlower
    have hgives (layer) (hlayer : Gives upper layer) : Unlaid env lower upper o := by
      rw [layOver_of_trees hshared hbase hlayer] at h
      obtain ⟨m, hm, rfl⟩ := mapError_eq_error.mp h
      obtain ⟨hform, v, hv, hset, hgroup⟩ := applyEnvironment_eq_error hm
      exact .fixed hshared hbase hlayer hv hset hgroup hform
    cases upper with
    | none => exact hgives [] .none
    | some upper =>
      cases hentries : upper.entries? upper.root with
      | none =>
        rw [layOver_noMap hlower hentries] at h
        cases h
        exact .noMap hentries
      | some es =>
        obtain ⟨layer, hlayer⟩ := Shared.entries?_isSome_iff.mp (Option.isSome_of_eq_some hentries)
        exact hgives layer (.some hlayer)
  | false =>
    obtain ⟨root, hroot⟩ := exists_root hlower
    rw [layOver_of_shared hshared hroot] at h
    rcases layUpper_explained env hshared hroot with ⟨s, hs, hlaid⟩ | ⟨o', ho, hunlaid⟩
    · rw [hs] at h
      change (applyShared env root s).mapError OverlayFault.misfit >>= _ = _ at h
      rcases bind_eq_error.mp h with h | ⟨t, -, h⟩
      · obtain ⟨m, hm, rfl⟩ := mapError_eq_error.mp h
        obtain ⟨hform, v, hv, hset, hgroup⟩ := applyShared_eq_error hm
        exact .fixedShared hshared hroot hlaid hv hset hgroup hform
      · cases h
    · rw [ho] at h
      cases h
      exact hunlaid

theorem Overlaid.layUpper {s : Shared} (h : Overlaid lower root upper s) :
    layUpper lower root upper = .ok s ∨ ∃ o, layUpper lower root upper = .error o := by
  cases h with
  | alone => exact .inl rfl
  | laid htop hlays hend =>
    rw [Config.layUpper, htop]
    dsimp only
    split
    · exact .inr ⟨_, rfl⟩
    · next top htop =>
      cases (mapNumber?_eq_some.mp htop).1
      rcases hlays.foldlM (Nat.le_refl _) (layDepth - 1) with ht | ⟨o, ho⟩
      · exact .inl ((lay_succ_of_ok ht).trans (if_pos hend))
      · exact .inr ⟨o, lay_succ_of_error (Nat.le_refl _) ho⟩

/-- **No document is laid over another one if there is a reason against it.** -/
theorem Unlaid.layOver (hlower : (lower.entries? lower.root).isSome) (h : Unlaid env lower upper o) :
    ∃ o', layOver env lower upper = .error o' := by
  cases h with
  | noMap h => exact ⟨_, layOver_noMap hlower h⟩
  | fixed htrees hbase hlayer hv hset hgroup _ =>
    rw [layOver_of_trees htrees hbase hlayer]
    cases happly : applyEnvironment env _ with
    | error m => exact ⟨_, rfl⟩
    | ok entries => exact absurd ((applyEnvironment_isOk_iff env _).mp ⟨_, happly⟩ _ hv hset) hgroup
  | @fixedShared _ root s _ _ hshared hroot hlaid hv hset hgroup _ =>
    rw [layOver_of_shared hshared hroot]
    rcases hlaid.layUpper with hs | ⟨o, ho⟩
    · rw [hs]
      show ∃ o', (applyShared env root s).mapError OverlayFault.misfit >>= _ = .error o'
      cases happly : applyShared env root s with
      | error m => exact ⟨_, rfl⟩
      | ok t => exact absurd ((applyShared_isOk_iff env _ _).mp ⟨t, happly⟩ _ hv hset) hgroup
    · rw [ho]
      exact ⟨o, rfl⟩
  | @broken upper s root top o hshared hroot htop h =>
    rw [layOver_of_shared hshared hroot, Config.layUpper, htop]
    dsimp only
    split
    · exact ⟨_, rfl⟩
    · next top htop =>
      cases (mapNumber?_eq_some.mp htop).1
      obtain ⟨o', ho'⟩ := h.lay
      rw [ho']
      exact ⟨o', rfl⟩

end Documents

end FeeWatch.Config
