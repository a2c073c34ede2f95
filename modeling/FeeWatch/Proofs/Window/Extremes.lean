import FeeWatch.Window.Extremes
import Mathlib.Data.List.Induction

/-! What the queues of extremes hold.

An entry leads if it beats every entry that came after it (`mem_leaders_iff`).
`ofList_eq`: the queues of a list of entries are its leaders, once by lower and once
by higher fees. So a queue depends on the entries alone and not on how they came and
went: `evict_ofList_cons` takes the oldest entry away as if it had never entered, and
the front of a queue is the extreme (`min_ofList`, `max_ofList`). -/
namespace FeeWatch.Window

/-! ### Leaders -/

/-- What a way to beat entries owes: it is strict, and a beaten entry stays beaten by what beats
an entry at least as good. -/
structure Beats (r : Entry → Entry → Bool) : Prop where
  asymm : ∀ {a b}, r a b = true → r b a = false
  extend : ∀ {a b c}, r a b = true → r c b = false → r a c = true

theorem Beats.trans {r : Entry → Entry → Bool} (hr : Beats r) {a b c : Entry}
    (hab : r a b = true) (hbc : r b c = true) : r a c = true :=
  hr.extend hab (hr.asymm hbc)

/-- The entries that beat every later one, oldest first. -/
def leaders (r : Entry → Entry → Bool) : List Entry → List Entry
  | [] => []
  | e :: rest => if rest.all (r e) then e :: leaders r rest else leaders r rest

section Leaders
variable {r : Entry → Entry → Bool}

theorem leaders_sublist (es : List Entry) : (leaders r es).Sublist es := by
  induction es with
  | nil => exact .slnil
  | cons e rest ih =>
    rw [leaders]
    split
    · exact ih.cons_cons e
    · exact ih.cons e

theorem leaders_pairwise (es : List Entry) : (leaders r es).Pairwise (r · · = true) := by
  induction es with
  | nil => exact .nil
  | cons e rest ih =>
    rw [leaders]
    split
    · rename_i hall
      refine .cons (fun b hb => ?_) ih
      exact List.all_eq_true.mp hall b ((leaders_sublist rest).subset hb)
    · exact ih

/-- Of the leaders of a first part those stay that beat all of the second part. -/
theorem leaders_append (es later : List Entry) :
    leaders r (es ++ later) = (leaders r es).filter (fun e => later.all (r e)) ++ leaders r later := by
  induction es with
  | nil => rfl
  | cons a rest ih =>
    rw [List.cons_append, leaders, leaders, ih, List.all_append]
    cases hfirst : rest.all (r a) <;> cases hlater : later.all (r a) <;> simp [hlater]

/-- A new entry leads; of the older leaders those stay that beat it. -/
theorem leaders_append_singleton (es : List Entry) (e : Entry) :
    leaders r (es ++ [e]) = (leaders r es).filter (r · e) ++ [e] := by
  simp [leaders_append, leaders]

/-- An entry that stands at one place alone leads if it beats all that came after it. -/
theorem mem_leaders_iff {older newer : List Entry} {e : Entry} (holder : e ∉ older)
    (hnewer : e ∉ newer) :
    e ∈ leaders r (older ++ e :: newer) ↔ ∀ b ∈ newer, r e b = true := by
  have hfirst : e ∉ leaders r older := fun h => holder ((leaders_sublist older).subset h)
  have hlast : e ∉ leaders r newer := fun h => hnewer ((leaders_sublist newer).subset h)
  rw [leaders_append, leaders, ← List.all_eq_true]
  cases hall : newer.all (r e) with
  | true => simp
  | false => simp [hfirst, hlast]

/-- On a queue in which each entry beats the later ones, dropping from the back what does not
beat a new entry drops all of it. -/
theorem dropBack_eq_filter (hr : Beats r) (e : Entry) (q : List Entry)
    (hq : q.Pairwise (r · · = true)) :
    Extremes.dropBack (fun old => !r old e) q = q.filter (r · e) := by
  induction q using List.reverseRecOn with
  | nil => rfl
  | append_singleton q x ih =>
    rw [List.pairwise_append] at hq
    obtain ⟨hq, _, hx⟩ := hq
    have hdrop : Extremes.dropBack (fun old => !r old e) (q ++ [x]) =
        if r x e then q ++ [x] else Extremes.dropBack (fun old => !r old e) q := by
      cases hxe : r x e <;> simp [Extremes.dropBack, hxe]
    rw [hdrop]
    cases hxe : r x e
    · simp [ih hq, hxe]
    · have hall : ∀ a ∈ q, r a e = true := fun a ha =>
        hr.trans (hx a ha x (List.mem_singleton_self x)) hxe
      simp [List.filter_eq_self.mpr hall, hxe]

/-- The oldest entry leaves the queue of leaders, whether it leads or not. -/
theorem dropFront_leaders_cons (e : Entry) (rest : List Entry) (hnew : ∀ b ∈ rest, b.seq ≠ e.seq) :
    Extremes.dropFront e.seq (leaders r (e :: rest)) = leaders r rest := by
  rw [leaders]
  split
  · simp [Extremes.dropFront]
  · cases hq : leaders r rest with
    | nil => rfl
    | cons b q =>
      have hb : b ∈ rest := (leaders_sublist rest).subset (by rw [hq]; exact List.mem_cons_self)
      simp [Extremes.dropFront, hnew b hb]

/-- No entry beats the oldest leader. -/
theorem leaders_head (hr : Beats r) {es : List Entry} {h : Entry}
    (hh : (leaders r es).head? = some h) : h ∈ es ∧ ∀ a ∈ es, r a h = false := by
  induction es with
  | nil => simp [leaders] at hh
  | cons e rest ih =>
    rw [leaders] at hh
    split at hh
    · rename_i hall
      obtain rfl : e = h := by simpa using hh
      refine ⟨List.mem_cons_self, fun a ha => ?_⟩
      rcases List.mem_cons.mp ha with rfl | ha
      · cases haa : r a a
        · rfl
        · exact haa.symm.trans (hr.asymm haa)
      · exact hr.asymm (List.all_eq_true.mp hall a ha)
    · rename_i hall
      obtain ⟨hmem, hleast⟩ := ih hh
      refine ⟨List.mem_cons_of_mem e hmem, fun a ha => ?_⟩
      rcases List.mem_cons.mp ha with rfl | ha
      · -- An entry that beat the leader would beat all that the leader is not beaten by.
        obtain ⟨b, hb, hab⟩ : ∃ b ∈ rest, r a b = false := by simpa using hall
        cases hah : r a h
        · rfl
        · rw [hr.extend hah (hleast b hb)] at hab
          exact absurd hab (by decide)
      · exact hleast a ha

theorem leaders_eq_nil {es : List Entry} (h : leaders r es = []) : es = [] := by
  induction es using List.reverseRecOn with
  | nil => rfl
  | append_singleton es e _ => simp [leaders_append_singleton] at h

end Leaders

/-! ### The two queues -/

/-- Whether an entry has the lower fee. -/
def lower (a b : Entry) : Bool := a.fee < b.fee

/-- Whether an entry has the higher fee. -/
def higher (a b : Entry) : Bool := b.fee < a.fee

theorem beats_lower : Beats lower where
  asymm h := by simp only [lower, decide_eq_true_eq, decide_eq_false_iff_not] at h ⊢; omega
  extend h h' := by simp only [lower, decide_eq_true_eq, decide_eq_false_iff_not] at h h' ⊢; omega

theorem beats_higher : Beats higher where
  asymm h := by simp only [higher, decide_eq_true_eq, decide_eq_false_iff_not] at h ⊢; omega
  extend h h' := by simp only [higher, decide_eq_true_eq, decide_eq_false_iff_not] at h h' ⊢; omega

namespace Extremes

/-- An entry enters the queues of leaders. -/
theorem push_leaders (es : List Entry) (e : Entry) :
    (⟨leaders lower es, leaders higher es⟩ : Extremes).push e =
      ⟨leaders lower (es ++ [e]), leaders higher (es ++ [e])⟩ := by
  have hmins : (fun old : Entry => decide (e.fee ≤ old.fee)) = fun old => !lower old e := by
    funext old
    simp only [lower, ← decide_not, Int.not_lt]
  have hmaxs : (fun old : Entry => decide (old.fee ≤ e.fee)) = fun old => !higher old e := by
    funext old
    simp only [higher, ← decide_not, Int.not_lt]
  rw [push, hmins, hmaxs, leaders_append_singleton, leaders_append_singleton,
    dropBack_eq_filter beats_lower e _ (leaders_pairwise es),
    dropBack_eq_filter beats_higher e _ (leaders_pairwise es)]

/-- **The queues of a list of entries are its leaders.** -/
theorem ofList_eq (es : List Entry) : ofList es = ⟨leaders lower es, leaders higher es⟩ := by
  induction es using List.reverseRecOn with
  | nil => rfl
  | append_singleton es e ih => rw [ofList_append_singleton, ih, push_leaders]

/-- The oldest entry leaves as if it had never entered. -/
theorem evict_ofList_cons (e : Entry) (rest : List Entry) (hnew : ∀ b ∈ rest, b.seq ≠ e.seq) :
    (ofList (e :: rest)).evict e.seq = ofList rest := by
  rw [ofList_eq, ofList_eq, evict, dropFront_leaders_cons e rest hnew,
    dropFront_leaders_cons e rest hnew]

theorem min_ofList (es : List Entry) : (ofList es).min = ((es.map Entry.fee).min?).getD 0 := by
  rw [ofList_eq, min]
  cases hh : (leaders lower es).head? with
  | none =>
    obtain rfl := leaders_eq_nil (List.head?_eq_none_iff.mp hh)
    rfl
  | some h =>
    obtain ⟨hmem, hleast⟩ := leaders_head beats_lower hh
    have hmin : (es.map Entry.fee).min? = some h.fee := by
      rw [List.min?_eq_some_iff]
      refine ⟨List.mem_map_of_mem hmem, fun fee hfee => ?_⟩
      obtain ⟨a, ha, rfl⟩ := List.mem_map.mp hfee
      simpa [lower] using hleast a ha
    rw [hmin]
    rfl

theorem max_ofList (es : List Entry) : (ofList es).max = ((es.map Entry.fee).max?).getD 0 := by
  rw [ofList_eq, max]
  cases hh : (leaders higher es).head? with
  | none =>
    obtain rfl := leaders_eq_nil (List.head?_eq_none_iff.mp hh)
    rfl
  | some h =>
    obtain ⟨hmem, hgreatest⟩ := leaders_head beats_higher hh
    have hmax : (es.map Entry.fee).max? = some h.fee := by
      rw [List.max?_eq_some_iff]
      refine ⟨List.mem_map_of_mem hmem, fun fee hfee => ?_⟩
      obtain ⟨a, ha, rfl⟩ := List.mem_map.mp hfee
      simpa [higher] using hgreatest a ha
    rw [hmax]
    rfl

end Extremes
end FeeWatch.Window
