import FeeWatch.Datum.Basic
import FeeWatch.Proofs.Number.Order

/-! Keys of maps.

Two scalars are the same key if they are equal, or if they are numbers of one value or moments of
one instant. That is an equivalence, since each scalar has something that is all that a map knows of
it as a key (`Scalar.name`, `Scalar.sameKey_iff`). So what is found under a key does not depend on
which of the scalars that are this key is asked for, and setting a key changes nothing under the
others (`Entries.find?_insert`). -/
namespace FeeWatch

namespace Number

theorem exists_compare?_of_ne {x y : Number} (hx : x ≠ .float .nan) (hy : y ≠ .float .nan) :
    ∃ order, compare? x y = some order := by
  cases x with
  | int a =>
    cases y with
    | int b => exact ⟨_, rfl⟩
    | float y => cases y <;> first | exact absurd rfl hy | exact ⟨_, rfl⟩
  | float x =>
    cases x with
    | nan => exact absurd rfl hx
    | infinite s =>
      cases y with
      | int b => exact ⟨_, rfl⟩
      | float y => cases y <;> first | exact absurd rfl hy | exact ⟨_, rfl⟩
    | finite s m e =>
      cases y with
      | int b => exact ⟨_, rfl⟩
      | float y => cases y <;> first | exact absurd rfl hy | exact ⟨_, rfl⟩

/-- Numbers compare equal exactly if they have one value. -/
theorem compare?_eq_iff {x y : Number} :
    compare? x y = some .eq ↔ x ≠ .float .nan ∧ y ≠ .float .nan ∧
      (Decimal.ofNumber x).value = (Decimal.ofNumber y).value := by
  constructor
  · intro h
    refine ⟨?_, ?_, compare?_compares h⟩
    · rintro rfl
      cases y with
      | int b => cases h
      | float y => simp [compare?, Binary.compare?_nan_left] at h
    · rintro rfl
      cases x with
      | int a => cases h
      | float x => simp [compare?, Binary.compare?_nan_right] at h
  · rintro ⟨hx, hy, heq⟩
    obtain ⟨order, h⟩ := exists_compare?_of_ne hx hy
    rw [h, (compare?_compares h).eq_eq.mpr heq]

end Number

namespace Scalar

/-- What a map knows of a scalar as a key: the instant of a moment with an offset, the value of what
counts as a number, and otherwise the scalar itself. -/
inductive Name where
  | instant (seconds : Int) (micros : Nat)
  | amount (value : Number.Extended)
  | itself (s : Scalar)

/-- The name of a number that counts as such; one that is no number at all equals no other. -/
def amountName (x : Number) (s : Scalar) : Name :=
  if x = .float .nan then .itself s else .amount (Number.Decimal.ofNumber x).value

/-- What a map knows of a scalar as a key. -/
def name (s : Scalar) : Name :=
  match s with
  | .moment m =>
    match m.utc? with
    | some (seconds, micros) => .instant seconds micros
    | none => .itself s
  | s =>
    match s.number? with
    | some x => amountName x s
    | none => .itself s

theorem name_number {s : Scalar} {x : Number} (h : s.number? = some x) :
    s.name = amountName x s := by
  cases s <;> simp_all [name, number?]

theorem sameKey_numbers {a b : Scalar} {x y : Number} (ha : a.number? = some x)
    (hb : b.number? = some y) :
    a.sameKey b = true ↔ a = b ∨ Number.compare? x y = some .eq := by
  unfold sameKey
  rw [Bool.or_eq_true, beq_iff_eq]
  refine or_congr Iff.rfl ?_
  split
  · cases ha
  · rw [ha, hb]
    exact beq_iff_eq

theorem sameKey_moments {m n : Moment} :
    sameKey (.moment m) (.moment n) = true ↔ m = n ∨ m.utc?.isSome ∧ m.utc? = n.utc? := by
  simp [sameKey]

/-- A scalar that is neither a number nor a moment is the same key as itself only. -/
theorem sameKey_other {a b : Scalar} (h : a.number? = none ∨ b.number? = none)
    (hm : ∀ m n, ¬ (a = .moment m ∧ b = .moment n)) : a.sameKey b = true ↔ a = b := by
  unfold sameKey
  rw [Bool.or_eq_true, beq_iff_eq]
  refine or_iff_left ?_
  split
  · exact absurd ⟨rfl, rfl⟩ (hm _ _)
  · rcases h with h | h <;> rw [h]
    · exact Bool.false_ne_true
    · cases a.number? <;> exact Bool.false_ne_true

theorem name_cases (s : Scalar) :
    (∃ m seconds micros, s = .moment m ∧ m.utc? = some (seconds, micros) ∧
      s.name = .instant seconds micros) ∨
    (∃ x, s.number? = some x ∧ x ≠ .float .nan ∧
      s.name = .amount (Number.Decimal.ofNumber x).value) ∨ s.name = .itself s := by
  cases hs : s.number? with
  | some x =>
    rw [name_number hs, amountName]
    split
    · exact Or.inr (Or.inr rfl)
    · next hx => exact Or.inr (Or.inl ⟨x, rfl, hx, rfl⟩)
  | none =>
    cases s with
    | moment m =>
      cases hm : m.utc? with
      | some t => exact Or.inl ⟨m, t.1, t.2, rfl, hm, by simp [name, hm]⟩
      | none => exact Or.inr (Or.inr (by simp [name, hm]))
    | _ => exact Or.inr (Or.inr (by simp_all [name]))

theorem name_eq_of_sameKey {a b : Scalar} (h : a.sameKey b = true) : a.name = b.name := by
  cases ha : a.number? with
  | some x =>
    cases hb : b.number? with
    | some y =>
      rcases (sameKey_numbers ha hb).mp h with rfl | h
      · rfl
      · obtain ⟨hx, hy, heq⟩ := Number.compare?_eq_iff.mp h
        rw [name_number ha, name_number hb, amountName, amountName, if_neg hx, if_neg hy, heq]
    | none => rw [(sameKey_other (Or.inr hb) fun m n hmn => by simp [hmn.1, number?] at ha).mp h]
  | none =>
    by_cases hmn : ∃ m n, a = .moment m ∧ b = .moment n
    · obtain ⟨m, n, rfl, rfl⟩ := hmn
      rcases sameKey_moments.mp h with rfl | ⟨hm, hmn⟩
      · rfl
      · obtain ⟨t, ht⟩ := Option.isSome_iff_exists.mp hm
        simp only [name, ht, ← hmn]
    · rw [(sameKey_other (Or.inl ha) fun m n h => hmn ⟨m, n, h⟩).mp h]

/-- **Scalars are the same key exactly if they have one name.** -/
theorem sameKey_iff {a b : Scalar} : a.sameKey b = true ↔ a.name = b.name := by
  refine ⟨name_eq_of_sameKey, fun h => ?_⟩
  rcases name_cases a with ⟨m, seconds, micros, rfl, hm, ha⟩ | ⟨x, hx, hnx, ha⟩ | ha <;>
    rcases name_cases b with ⟨n, seconds', micros', rfl, hn, hb⟩ | ⟨y, hy, hny, hb⟩ | hb <;>
    rw [ha, hb] at h <;> injection h
  case inl.inl hs hu =>
    exact sameKey_moments.mpr (Or.inr ⟨by rw [hm]; rfl, by rw [hm, hn, hs, hu]⟩)
  case inr.inl.inr.inl heq =>
    exact (sameKey_numbers hx hy).mpr (Or.inr (Number.compare?_eq_iff.mpr ⟨hnx, hny, heq⟩))
  case inr.inr.inr.inr heq => exact heq ▸ sameKey_self a

theorem sameKey_comm (a b : Scalar) : a.sameKey b = b.sameKey a := by
  rw [Bool.eq_iff_iff, sameKey_iff, sameKey_iff]
  exact eq_comm

/-- Scalars that are the same key are the same key as the same others. -/
theorem sameKey_congr {a b : Scalar} (h : a.sameKey b = true) (c : Scalar) :
    c.sameKey a = c.sameKey b := by
  rw [Bool.eq_iff_iff, sameKey_iff, sameKey_iff, sameKey_iff.mp h]

theorem sameKey_text {a b : String} : sameKey (.text a) (.text b) = true ↔ a = b := by
  simp [sameKey, number?]

/-- A text is the same key as no other scalar. -/
theorem sameKey_text_left {a : String} {b : Scalar} :
    sameKey (.text a) b = true ↔ b = .text a := by
  rw [sameKey_other (Or.inl rfl) (by simp)]
  exact eq_comm

end Scalar

/-! ### Entries -/

namespace Entries
variable {α : Type}

/-- What is found does not depend on which of the scalars that are one key is asked for. -/
theorem find?_congr {a b : Scalar} (h : a.sameKey b = true) (es : List (Scalar × α)) :
    find? a es = find? b es := by
  induction es with
  | nil => rfl
  | cons e es ih => simp only [find?, Scalar.sameKey_congr h, ih]

/-- Setting a key sets it under all of its names, and changes nothing under other keys. -/
theorem find?_insert (key other : Scalar) (value : α) (es : List (Scalar × α)) :
    find? other (insert key value es) =
      if key.sameKey other then some value else find? other es := by
  cases h : key.sameKey other with
  | true => rw [find?_congr ((Scalar.sameKey_comm _ _).trans h), find?_insert_self, if_pos rfl]
  | false =>
    rw [if_neg Bool.false_ne_true]
    induction es with
    | nil => simp [insert, find?, h]
    | cons e es ih =>
      obtain ⟨k, v⟩ := e
      unfold insert
      split
      · next hk =>
        have hother : k.sameKey other = false := by
          rw [Scalar.sameKey_comm, Scalar.sameKey_congr hk, Scalar.sameKey_comm, h]
        simp [find?, hother]
      · simp only [find?, ih]

/-- Setting a key to what it has changes nothing. -/
theorem insert_of_find? {key : Scalar} {value : α} {es : List (Scalar × α)}
    (h : find? key es = some value) : insert key value es = es := by
  induction es with
  | nil => cases h
  | cons e es ih =>
    obtain ⟨k, v⟩ := e
    unfold insert
    split
    · next hk =>
      rw [find?, if_pos hk, Option.some.injEq] at h
      rw [h]
    · next hk =>
      rw [find?, if_neg hk] at h
      rw [ih h]

/-- The keys of some entries are not the same key, two by two. -/
def Distinct (es : List (Scalar × α)) : Prop :=
  es.Pairwise fun a b => a.1.sameKey b.1 = false

theorem find?_eq_none {key : Scalar} {es : List (Scalar × α)}
    (h : ∀ e ∈ es, e.1.sameKey key = false) : find? key es = none := by
  induction es with
  | nil => rfl
  | cons e es ih =>
    rw [find?, if_neg (by simp [h e List.mem_cons_self]),
      ih fun x hx => h x (List.mem_cons_of_mem _ hx)]

theorem mem_of_find? {key : Scalar} {value : α} {es : List (Scalar × α)}
    (h : find? key es = some value) : ∃ k, k.sameKey key = true ∧ (k, value) ∈ es := by
  induction es with
  | nil => cases h
  | cons e es ih =>
    obtain ⟨k, v⟩ := e
    rw [find?] at h
    split at h
    · next hk => exact ⟨k, hk, by rw [← Option.some.inj h]; exact List.mem_cons_self⟩
    · obtain ⟨k', hk', hmem⟩ := ih h
      exact ⟨k', hk', List.mem_cons_of_mem _ hmem⟩

/-- Among distinct keys, each is found with its own value. -/
theorem Distinct.find?_of_mem {key : Scalar} {value : α} {es : List (Scalar × α)}
    (hes : Distinct es) (h : (key, value) ∈ es) : find? key es = some value := by
  induction hes with
  | nil => cases h
  | @cons e es hhead _ ih =>
    rcases List.mem_cons.mp h with rfl | hmem
    · rw [find?, if_pos (Scalar.sameKey_self key)]
    · rw [find?, if_neg (by simp [hhead _ hmem]), ih hmem]

theorem mem_insert {key : Scalar} {value : α} {es : List (Scalar × α)} {e : Scalar × α}
    (h : e ∈ insert key value es) : (e.2 = value ∧ (e.1 = key ∨ ∃ v, (e.1, v) ∈ es)) ∨ e ∈ es := by
  induction es with
  | nil => simp_all [insert]
  | cons x es ih =>
    obtain ⟨k, v⟩ := x
    unfold insert at h
    split at h
    · rcases List.mem_cons.mp h with rfl | h
      · exact Or.inl ⟨rfl, Or.inr ⟨v, List.mem_cons_self⟩⟩
      · exact Or.inr (List.mem_cons_of_mem _ h)
    · rcases List.mem_cons.mp h with rfl | h
      · exact Or.inr List.mem_cons_self
      · rcases ih h with ⟨hv, hk | ⟨w, hw⟩⟩ | h
        · exact Or.inl ⟨hv, Or.inl hk⟩
        · exact Or.inl ⟨hv, Or.inr ⟨w, List.mem_cons_of_mem _ hw⟩⟩
        · exact Or.inr (List.mem_cons_of_mem _ h)

/-- Setting a key keeps the keys distinct. -/
theorem Distinct.insert {es : List (Scalar × α)} (hes : Distinct es) (key : Scalar) (value : α) :
    Distinct (insert key value es) := by
  induction hes with
  | nil => exact List.pairwise_singleton _ _
  | @cons e es hhead htail ih =>
    obtain ⟨k, v⟩ := e
    unfold Entries.insert
    split
    · exact List.Pairwise.cons hhead htail
    · next hk =>
      refine List.Pairwise.cons (fun x hx => ?_) ih
      rcases mem_insert hx with ⟨-, hkey | ⟨w, hw⟩⟩ | hmem
      · rw [hkey]
        exact Bool.not_eq_true _ ▸ hk
      · exact hhead (x.1, w) hw
      · exact hhead _ hmem

theorem distinct_nil : Distinct ([] : List (Scalar × α)) := List.Pairwise.nil

theorem distinct_ofList (es : List (Scalar × α)) : Distinct (ofList es) :=
  List.foldlRecOn es _ distinct_nil fun _ hacc _ _ => hacc.insert _ _

end Entries

/-! ### Maps in maps -/

namespace Datum

/-- The keys of a map are distinct, and so are those of each map that is a value in it. -/
inductive IsKeyed : Datum → Prop
  | other {d : Datum} (h : ∀ es, d ≠ .map es) : IsKeyed d
  | map {es : List (Scalar × Datum)} (hkeys : Entries.Distinct es)
      (hvalues : ∀ e ∈ es, IsKeyed e.2) : IsKeyed (.map es)

theorem IsKeyed.distinct {es : List (Scalar × Datum)} (h : IsKeyed (.map es)) :
    Entries.Distinct es := by
  cases h with
  | other h => exact absurd rfl (h es)
  | map hkeys _ => exact hkeys

theorem IsKeyed.value {es : List (Scalar × Datum)} (h : IsKeyed (.map es)) {e : Scalar × Datum}
    (he : e ∈ es) : IsKeyed e.2 := by
  cases h with
  | other h => exact absurd rfl (h es)
  | map _ hvalues => exact hvalues e he

/-- What stands at the end of a path of keys. -/
def at? : List Scalar → Datum → Option Datum
  | [], d => some d
  | key :: path, .map es => (Entries.find? key es).bind (at? path)
  | _ :: _, _ => none

/-- A datum says nothing about a path: the path leads through its maps to a key that is not
there. -/
def IsSilent : List Scalar → Datum → Prop
  | key :: path, .map es => ∀ d, Entries.find? key es = some d → IsSilent path d
  | _, _ => False

@[simp] theorem at?_nil (d : Datum) : at? [] d = some d := by cases d <;> rfl

@[simp] theorem at?_cons_map (key : Scalar) (path : List Scalar) (es : List (Scalar × Datum)) :
    at? (key :: path) (.map es) = (Entries.find? key es).bind (at? path) := rfl

theorem at?_cons (key : Scalar) (path : List Scalar) (d : Datum) :
    at? (key :: path) d = (at? [key] d).bind (at? path) := by
  cases d with
  | map es => cases h : Entries.find? key es <;> simp [h]
  | _ => rfl

theorem isSilent_cons_map (key : Scalar) (path : List Scalar) (es : List (Scalar × Datum)) :
    IsSilent (key :: path) (.map es) ↔ ∀ d, Entries.find? key es = some d → IsSilent path d :=
  Iff.rfl

theorem not_isSilent_nil (d : Datum) : ¬ IsSilent [] d := by
  cases d <;> exact id

theorem at?_cons_other {d : Datum} (h : ∀ es, d ≠ .map es) (key : Scalar) (path : List Scalar) :
    at? (key :: path) d = none := by
  cases d with
  | map es => exact absurd rfl (h es)
  | _ => rfl

theorem not_isSilent_other {d : Datum} (h : ∀ es, d ≠ .map es) (path : List Scalar) :
    ¬ IsSilent path d := by
  cases path with
  | nil => exact not_isSilent_nil d
  | cons key path =>
    cases d with
    | map es => exact absurd rfl (h es)
    | _ => exact id

end Datum
end FeeWatch
