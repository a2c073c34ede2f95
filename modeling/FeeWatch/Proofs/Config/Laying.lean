import FeeWatch.Config.Overlay
import Mathlib.Data.List.Basic

/-! Laying one map over another, without a bound.

Maps are laid over each other entry by entry, and maps that an entry brings together in turn. Which
entries were laid and to what that came is a relation without a bound on the depth (`Lays`), and so
is to which maps it leads (`ComesTo`). Laying ends with a fault exactly if it leads to a map that
gets an entry while its own are laid over another one, or to maps that lie deeper than the bound
(`Breaks`): what `lay` does is explained by that (`lay_explained`), and what breaks is not laid
(`Breaks.lay`). -/
namespace FeeWatch.Config

open FeeWatch.Datum (Part)

/-- `Lays a b s i t`: the first `i` entries of map `b` were laid over map `a` of `s`, which came to
`t`; `b` had as many entries before each of them as in `s`. -/
inductive Lays : Nat → Nat → Shared → Nat → Shared → Prop
  | none {a b : Nat} {s : Shared} : Lays a b s 0 s
  /-- An entry is set, unless it brings two maps together. -/
  | set {a b i : Nat} {s t : Shared} {key : Scalar} {value : Part} (h : Lays a b s i t)
    (hsize : sizeAt t b = sizeAt s b) (hentry : (entriesAt t b)[i]? = some (key, value))
    (hmeeting : meeting? t a key value = .none) : Lays a b s (i + 1) (setEntry t a key value)
  /-- Maps that an entry brings together are laid over each other. -/
  | maps {a b a' b' i : Nat} {s t u : Shared} {key : Scalar} {value : Part} (h : Lays a b s i t)
    (hsize : sizeAt t b = sizeAt s b) (hentry : (entriesAt t b)[i]? = some (key, value))
    (hmeeting : meeting? t a key value = some (a', b')) (hinside : Lays a' b' t (sizeAt t b') u)
    (hend : sizeAt u b' = sizeAt t b') : Lays a b s (i + 1) u

/-- `ComesTo a b s n a' b' t`: to lay map `b` over map `a` of `s`, map `b'` has to be laid over map
`a'` of `t`, which lie `n` maps deeper. -/
inductive ComesTo : Nat → Nat → Shared → Nat → Nat → Nat → Shared → Prop
  | here {a b : Nat} {s : Shared} : ComesTo a b s 0 a b s
  | inside {a b a' b' a'' b'' i n : Nat} {s t u : Shared} {key : Scalar} {value : Part}
    (h : Lays a b s i t) (hsize : sizeAt t b = sizeAt s b)
    (hentry : (entriesAt t b)[i]? = some (key, value))
    (hmeeting : meeting? t a key value = some (a', b')) (hdeeper : ComesTo a' b' t n a'' b'' u) :
    ComesTo a b s (n + 1) a'' b'' u

/-- Laying entries of map `b` over map `a` gives `b` itself another entry. -/
def Grows (a b : Nat) (s : Shared) : Prop :=
  ∃ i t, i ≤ sizeAt s b ∧ Lays a b s i t ∧ sizeAt t b ≠ sizeAt s b

/-- Why map `b` cannot be laid over map `a`, if maps may lie so deep in each other. -/
inductive Breaks (depth a b : Nat) (s : Shared) : OverlayFault → Prop
  | growing {n a' b' : Nat} {t : Shared} (h : ComesTo a b s n a' b' t) (hgrows : Grows a' b' t) :
    Breaks depth a b s .growing
  | endless {a' b' : Nat} {t : Shared} (h : ComesTo a b s depth a' b' t) :
    Breaks depth a b s .endless

/-- What it means that map `b` was laid over map `a`, or could not be. -/
def Explains (depth a b : Nat) (s : Shared) : Except OverlayFault Shared → Prop
  | .ok t => Lays a b s (sizeAt s b) t ∧ sizeAt t b = sizeAt s b
  | .error o => Breaks depth a b s o

section Lay
variable {depth a b i n : Nat} {s t : Shared} {o : OverlayFault}
  {step : Nat → Nat → Shared → Except OverlayFault Shared}

theorem layEntry_of_grown {size : Nat} (h : sizeAt s b ≠ size) :
    layEntry step a b size s i = .error .growing := by
  rw [layEntry, checkSize, if_neg h]
  rfl

theorem layEntry_of_entry {size : Nat} {key : Scalar} {value : Part} (hsize : sizeAt s b = size)
    (hentry : (entriesAt s b)[i]? = some (key, value)) : layEntry step a b size s i =
      match meeting? s a key value with
      | some (a', b') => step a' b' s
      | none => .ok (setEntry s a key value) := by
  rw [layEntry, checkSize, if_pos hsize, hentry]
  rfl

theorem exists_entry (h : i < sizeAt s b) : ∃ key value, (entriesAt s b)[i]? = some (key, value) :=
  ⟨_, _, List.getElem?_eq_getElem h⟩

theorem Breaks.inside {a' b' : Nat} {key : Scalar} {value : Part} (h : Lays a b s i t)
    (hsize : sizeAt t b = sizeAt s b) (hentry : (entriesAt t b)[i]? = some (key, value))
    (hmeeting : meeting? t a key value = some (a', b')) (hbreaks : Breaks depth a' b' t o) :
    Breaks (depth + 1) a b s o := by
  cases hbreaks with
  | growing hcomes hgrows => exact .growing (.inside h hsize hentry hmeeting hcomes) hgrows
  | endless hcomes => exact .endless (.inside h hsize hentry hmeeting hcomes)

theorem Breaks.ofGrows (h : Grows a b s) : Breaks depth a b s .growing := .growing .here h

/-- The entries that are laid one after the other, if what they bring together is laid as it should
be. -/
theorem foldlM_layEntry_explained (ih : ∀ a b s, Explains depth a b s (lay depth a b s))
    (hi : i ≤ sizeAt s b) :
    (∃ t, (List.range i).foldlM (layEntry (lay depth) a b (sizeAt s b)) s = .ok t ∧
      Lays a b s i t) ∨
    ∃ o, (List.range i).foldlM (layEntry (lay depth) a b (sizeAt s b)) s = .error o ∧
      Breaks (depth + 1) a b s o := by
  induction i with
  | zero => exact .inl ⟨s, rfl, .none⟩
  | succ i hprev =>
    rw [List.range_succ, List.foldlM_append]
    rcases hprev (Nat.le_of_succ_le hi) with ⟨t, ht, hlays⟩ | ⟨o, ho, hbreaks⟩
    · rw [ht]
      simp only [List.foldlM_cons, List.foldlM_nil, bind_pure]
      show (∃ u, layEntry (lay depth) a b (sizeAt s b) t i = .ok u ∧ _) ∨
        ∃ o, layEntry (lay depth) a b (sizeAt s b) t i = .error o ∧ _
      by_cases hsize : sizeAt t b = sizeAt s b
      · obtain ⟨key, value, hentry⟩ := exists_entry (hsize ▸ hi : i < sizeAt t b)
        rw [layEntry_of_entry hsize hentry]
        cases hmeeting : meeting? t a key value with
        | none => exact .inl ⟨_, rfl, .set hlays hsize hentry hmeeting⟩
        | some maps =>
          obtain ⟨a', b'⟩ := maps
          have hinside := ih a' b' t
          dsimp only
          cases hlay : lay depth a' b' t with
          | ok u =>
            rw [hlay] at hinside
            exact .inl ⟨u, rfl, .maps hlays hsize hentry hmeeting hinside.1 hinside.2⟩
          | error o =>
            rw [hlay] at hinside
            exact .inr ⟨o, rfl, .inside hlays hsize hentry hmeeting hinside⟩
      · exact .inr ⟨_, layEntry_of_grown hsize, .ofGrows ⟨i, t, Nat.le_of_succ_le hi, hlays, hsize⟩⟩
    · exact .inr ⟨o, by rw [ho]; rfl, hbreaks⟩

/-- **A map is laid over another one entry by entry, or breaks for a reason.** -/
theorem lay_explained (depth a b : Nat) (s : Shared) : Explains depth a b s (lay depth a b s) := by
  induction depth generalizing a b s with
  | zero => exact Breaks.endless .here
  | succ depth ih =>
    rw [lay]
    rcases foldlM_layEntry_explained ih (Nat.le_refl (sizeAt s b)) with
      ⟨t, ht, hlays⟩ | ⟨o, ho, hbreaks⟩
    · rw [ht]
      show Explains _ a b s (checkSize t b (sizeAt s b) >>= fun _ => .ok t)
      by_cases hsize : sizeAt t b = sizeAt s b
      · rw [checkSize, if_pos hsize]
        exact ⟨hlays, hsize⟩
      · rw [checkSize, if_neg hsize]
        exact Breaks.ofGrows ⟨_, t, Nat.le_refl _, hlays, hsize⟩
    · rw [ho]
      exact hbreaks

/-! ### What cannot be laid -/

/-- A fold that fails at its first steps fails. -/
theorem foldlM_range_eq_error {α ε : Type} {f : α → Nat → Except ε α} {k n : Nat} (h : k ≤ n)
    {x : α} {e : ε} (herror : (List.range k).foldlM f x = .error e) :
    (List.range n).foldlM f x = .error e := by
  obtain ⟨m, rfl⟩ := Nat.exists_eq_add_of_le h
  rw [List.range_add, List.foldlM_append, herror]
  rfl

/-- A map is laid over another one if its entries are, and it did not grow. -/
theorem lay_succ_of_ok
    (h : (List.range (sizeAt s b)).foldlM (layEntry (lay depth) a b (sizeAt s b)) s = .ok t) :
    lay (depth + 1) a b s = if sizeAt t b = sizeAt s b then .ok t else .error .growing := by
  rw [lay, h]
  show (checkSize t b (sizeAt s b) >>= fun _ => .ok t) = _
  rw [checkSize]
  split <;> rfl

theorem lay_succ_of_error (hi : i ≤ sizeAt s b)
    (h : (List.range i).foldlM (layEntry (lay depth) a b (sizeAt s b)) s = .error o) :
    lay (depth + 1) a b s = .error o := by
  rw [lay, foldlM_range_eq_error hi h]
  rfl

theorem foldlM_layEntry_succ
    (h : (List.range i).foldlM (layEntry (lay depth) a b (sizeAt s b)) s = .ok t) :
    (List.range (i + 1)).foldlM (layEntry (lay depth) a b (sizeAt s b)) s =
      layEntry (lay depth) a b (sizeAt s b) t i := by
  rw [List.range_succ, List.foldlM_append, h]
  exact bind_pure (layEntry _ _ _ _ _ _)

/-- The entries that were laid are laid again, or the bound on the depth is met. -/
theorem Lays.foldlM (h : Lays a b s i t) (hi : i ≤ sizeAt s b) (depth : Nat) :
    (List.range i).foldlM (layEntry (lay depth) a b (sizeAt s b)) s = .ok t ∨
      ∃ o, (List.range i).foldlM (layEntry (lay depth) a b (sizeAt s b)) s = .error o := by
  induction h generalizing depth with
  | none => exact .inl rfl
  | set _ hsize hentry hmeeting ih =>
    rcases ih (Nat.le_of_succ_le hi) depth with ht | ⟨o, ho⟩
    · rw [foldlM_layEntry_succ ht, layEntry_of_entry hsize hentry, hmeeting]
      exact .inl rfl
    · exact .inr ⟨o, foldlM_range_eq_error (Nat.le_succ _) ho⟩
  | maps _ hsize hentry hmeeting _ hend ih ihinside =>
    rcases ih (Nat.le_of_succ_le hi) depth with ht | ⟨o, ho⟩
    · rw [foldlM_layEntry_succ ht, layEntry_of_entry hsize hentry, hmeeting]
      cases depth with
      | zero => exact .inr ⟨_, rfl⟩
      | succ depth =>
        rcases ihinside (Nat.le_refl _) depth with hu | ⟨o, ho⟩
        · exact .inl ((lay_succ_of_ok hu).trans (if_pos hend))
        · exact .inr ⟨o, lay_succ_of_error (Nat.le_refl _) ho⟩
    · exact .inr ⟨o, foldlM_range_eq_error (Nat.le_succ _) ho⟩

theorem Grows.lay (h : Grows a b s) (depth : Nat) : ∃ o, lay depth a b s = .error o := by
  obtain ⟨i, t, hi, hlays, hsize⟩ := h
  cases depth with
  | zero => exact ⟨_, rfl⟩
  | succ depth =>
    rcases hlays.foldlM hi depth with ht | ⟨o, ho⟩
    · rcases Nat.lt_or_eq_of_le hi with hlt | rfl
      · have hstep := (foldlM_layEntry_succ ht).trans (layEntry_of_grown hsize)
        exact ⟨_, lay_succ_of_error hlt hstep⟩
      · exact ⟨_, (lay_succ_of_ok ht).trans (if_neg hsize)⟩
    · exact ⟨o, lay_succ_of_error hi ho⟩

/-- What fails deeper, fails. -/
theorem ComesTo.lay {a' b' : Nat} (h : ComesTo a b s n a' b' t)
    (hdeeper : ∃ o, lay (depth - n) a' b' t = .error o) : ∃ o, lay depth a b s = .error o := by
  induction h generalizing depth with
  | here => exact hdeeper
  | @inside a b _ _ _ _ i _ s t _ _ _ hlays hsize hentry hmeeting _ ih =>
    cases depth with
    | zero => exact ⟨_, rfl⟩
    | succ depth =>
      rw [Nat.succ_sub_succ] at hdeeper
      obtain ⟨o, ho⟩ := ih hdeeper
      have hlt : i < sizeAt t b := (List.getElem?_eq_some_iff.mp hentry).1
      rw [hsize] at hlt
      rcases hlays.foldlM (Nat.le_of_lt hlt) depth with ht | ⟨o, ho⟩
      · have hstep : layEntry (Config.lay depth) a b (sizeAt s b) t i = .error o := by
          rw [layEntry_of_entry hsize hentry, hmeeting]
          exact ho
        exact ⟨o, lay_succ_of_error hlt ((foldlM_layEntry_succ ht).trans hstep)⟩
      · exact ⟨o, lay_succ_of_error (Nat.le_of_lt hlt) ho⟩

/-- **A map that breaks for a reason is not laid over another one.** -/
theorem Breaks.lay (h : Breaks depth a b s o) : ∃ o', lay depth a b s = .error o' := by
  cases h with
  | growing hcomes hgrows => exact hcomes.lay (hgrows.lay _)
  | endless hcomes =>
    refine hcomes.lay ⟨.endless, ?_⟩
    rw [Nat.sub_self]
    rfl

end Lay

/-- A map that an entry of its own puts into the one it is laid over, where another one gets to it. -/
example : lay 9 0 1 ⟨#[.map [(.text "b", .place 0)],
    .map [(.text "a", .place 1), (.text "b", .place 2)], .map [(.text "a", .place 3)],
    .map [(.text "c", .scalar .null)]], .place 0⟩ = .error .growing := by rfl

end FeeWatch.Config
