import FeeWatch.Window.Basic

/-! What follows when settings were accepted.

Settings are checked by steps that may refuse them, one after another, so what was
accepted has passed every step (`bind_eq_ok`, `guard_eq_ok`). A value that passed a
comparison is a number, and its order is that of whole numbers as far as these
compare (`Number.lt_int_of_le`), whether it is a whole number or a double. -/
namespace FeeWatch

section Steps
variable {ε ε' α β : Type}

theorem bind_eq_ok {x : Except ε α} {k : α → Except ε β} {b : β} :
    x >>= k = .ok b ↔ ∃ a, x = .ok a ∧ k a = .ok b := by
  cases x <;> simp [bind, Except.bind]

theorem then_eq_ok {x : Except ε Unit} {k : Unit → Except ε β} {b : β} :
    x >>= k = .ok b ↔ x = .ok () ∧ k () = .ok b := by
  rw [bind_eq_ok]
  exact ⟨fun ⟨_, hx, hk⟩ => ⟨hx, hk⟩, fun ⟨hx, hk⟩ => ⟨_, hx, hk⟩⟩

theorem bind_eq_error {x : Except ε α} {k : α → Except ε β} {e : ε} :
    x >>= k = .error e ↔ x = .error e ∨ ∃ a, x = .ok a ∧ k a = .error e := by
  cases x <;> simp [bind, Except.bind]

/-- Steps that return, each whatever the one before returned, return together. -/
theorem exists_bind_eq_ok {x : Except ε α} {k : α → Except ε β} (hx : ∃ a, x = .ok a)
    (hk : ∀ a, ∃ b, k a = .ok b) : ∃ b, x >>= k = .ok b := by
  obtain ⟨a, rfl⟩ := hx
  exact hk a

theorem mapError_ok (f : ε → ε') (a : α) : (Except.ok a).mapError f = .ok a := rfl

theorem mapError_eq_ok {x : Except ε α} {f : ε → ε'} {a : α} :
    x.mapError f = .ok a ↔ x = .ok a := by
  cases x with
  | ok b => exact ⟨congrArg _ ∘ Except.ok.inj, congrArg _ ∘ Except.ok.inj⟩
  | error e => exact ⟨nofun, nofun⟩

theorem mapError_eq_error {x : Except ε α} {f : ε → ε'} {e' : ε'} :
    x.mapError f = .error e' ↔ ∃ e, x = .error e ∧ f e = e' := by
  cases x with
  | ok a => exact ⟨nofun, fun ⟨_, h, _⟩ => nomatch h⟩
  | error e =>
    constructor
    · intro h
      exact ⟨e, rfl, Except.error.inj h⟩
    · rintro ⟨_, ⟨⟩, rfl⟩
      rfl

theorem map_eq_error {x : Except ε α} {f : α → β} {e : ε} : x.map f = .error e ↔ x = .error e := by
  cases x <;> simp [Except.map]

theorem ok_of_toOption {x : Except ε α} {a : α} (h : x.toOption = some a) : x = .ok a := by
  cases x with
  | error e => cases h
  | ok b => exact congrArg _ (Option.some.inj h)

/-- What passed a check was returned. -/
theorem exists_ok_of_any {x : Except ε α} {check : α → Bool} (h : x.toOption.any check = true) :
    ∃ a, x = .ok a ∧ check a = true := by
  cases x with
  | error e => cases h
  | ok a => exact ⟨a, rfl, h⟩

/-- Items whose written form is read are read one after the other. -/
theorem mapM_map_of_ok {γ : Type} {read : β → Except ε γ} {write : α → β} {result : α → γ}
    {items : List α} (h : ∀ item ∈ items, read (write item) = .ok (result item)) :
    (items.map write).mapM read = .ok (items.map result) := by
  induction items with
  | nil => rfl
  | cons item items ih =>
    rw [List.map_cons, List.mapM_cons, h item List.mem_cons_self,
      ih fun item hitem => h item (List.mem_cons_of_mem _ hitem)]
    rfl

/-- Steps are all taken, one after the other, exactly if each could be the first, provided that none
changes which of the others can be taken. -/
theorem foldlM_isOk_iff {f : β → α → Except ε β} {P : β → α → Prop} {items : List α}
    (hstep : ∀ b, ∀ x ∈ items, (∃ b', f b x = .ok b') ↔ P b x)
    (hkeep : ∀ b b', ∀ x ∈ items, f b x = .ok b' → ∀ z ∈ items, P b' z ↔ P b z) (b : β) :
    (∃ b', items.foldlM f b = .ok b') ↔ ∀ x ∈ items, P b x := by
  induction items generalizing b with
  | nil => exact ⟨fun _ => nofun, fun _ => ⟨b, rfl⟩⟩
  | cons x rest ih =>
    have hrest := ih (fun b z hz => hstep b z (List.mem_cons_of_mem x hz)) fun b b' z hz h w hw =>
      hkeep b b' z (List.mem_cons_of_mem x hz) h w (List.mem_cons_of_mem x hw)
    simp only [List.foldlM_cons, bind_eq_ok, List.forall_mem_cons]
    constructor
    · rintro ⟨b'', b', hx, h⟩
      refine ⟨(hstep b x List.mem_cons_self).mp ⟨b', hx⟩, fun z hz => ?_⟩
      exact (hkeep b b' x List.mem_cons_self hx z (List.mem_cons_of_mem x hz)).mp
        ((hrest b').mp ⟨b'', h⟩ z hz)
    · rintro ⟨hx, h⟩
      obtain ⟨b', hx⟩ := (hstep b x List.mem_cons_self).mpr hx
      obtain ⟨b'', h⟩ := (hrest b').mpr fun z hz =>
        (hkeep b b' x List.mem_cons_self hx z (List.mem_cons_of_mem x hz)).mpr (h z hz)
      exact ⟨b'', b', hx, h⟩

/-- A step that is taken only under a condition. -/
theorem guard_eq_ok_iff {c : Prop} [Decidable c] {x : Except ε Unit} {k : Unit → Except ε β}
    {b : β} : (if c then x >>= k else k ()) = .ok b ↔ (c → x = .ok ()) ∧ k () = .ok b := by
  split
  · rw [then_eq_ok, forall_prop_of_true ‹_›]
  · simp [*]

theorem guard_eq_ok {c : Prop} [Decidable c] {x : Except ε Unit} {k : Unit → Except ε β} {b : β}
    (h : (if c then x >>= k else k ()) = .ok b) : (c → x = .ok ()) ∧ k () = .ok b :=
  guard_eq_ok_iff.mp h

/-- Whether a step fails, if it fails at all, with a fault of which something holds. -/
def FailsOnly (P : ε → Prop) (x : Except ε α) : Prop := ∀ e, x = .error e → P e

namespace FailsOnly
variable {P : ε → Prop} {x : Except ε α}

theorem ok (a : α) : FailsOnly P (.ok a : Except ε α) := nofun

theorem error {e : ε} (h : P e) : FailsOnly P (.error e : Except ε α) :=
  fun _ he => Except.error.inj he ▸ h

theorem mono {Q : ε → Prop} (hPQ : ∀ e, P e → Q e) (h : FailsOnly P x) : FailsOnly Q x :=
  fun e he => hPQ e (h e he)

theorem bind {k : α → Except ε β} (hx : FailsOnly P x)
    (hk : ∀ a, x = .ok a → FailsOnly P (k a)) : FailsOnly P (x >>= k) := by
  intro e he
  obtain he | ⟨a, ha, he⟩ := bind_eq_error.mp he
  · exact hx e he
  · exact hk a ha e he

theorem foldlM {f : β → α → Except ε β} (h : ∀ b x, FailsOnly P (f b x)) (items : List α) (b : β) :
    FailsOnly P (items.foldlM f b) := by
  induction items generalizing b with
  | nil => exact .ok b
  | cons x rest ih =>
    rw [List.foldlM_cons]
    exact .bind (h b x) fun b' _ => ih b'

theorem mapError {Q : ε' → Prop} {f : ε → ε'} (h : FailsOnly (fun e => Q (f e)) x) :
    FailsOnly Q (x.mapError f) := by
  intro e' hmapped
  obtain ⟨e, he, rfl⟩ := mapError_eq_error.mp hmapped
  exact h e he

theorem ite {c : Prop} [Decidable c] {y : Except ε α} (hx : c → FailsOnly P x)
    (hy : ¬ c → FailsOnly P y) : FailsOnly P (if c then x else y) := by
  split
  · exact hx ‹_›
  · exact hy ‹_›

/-- A step that is taken only under a condition. -/
theorem guard {c : Prop} [Decidable c] {x : Except ε Unit} {k : Unit → Except ε β}
    (hx : c → FailsOnly P x) (hk : FailsOnly P (k ())) :
    FailsOnly P (if c then x >>= k else k ()) :=
  ite (fun hc => bind (hx hc) fun _ _ => hk) fun _ => hk

end FailsOnly
end Steps

theorem Setting.refuseIf_of_false {test : Except Datum.Misfit Bool} {fault : String → Fault}
    {got : Datum} (h : test = .ok false) : refuseIf test fault got = .ok () := by
  rw [refuseIf, h]
  rfl

theorem Setting.refuseIf_eq_ok {test : Except Datum.Misfit Bool} {fault : String → Fault}
    {got : Datum} (h : refuseIf test fault got = .ok ()) : test = .ok false := by
  obtain ⟨refused, htest, h⟩ := bind_eq_ok.mp h
  rw [mapError_eq_ok.mp htest]
  cases refused with
  | false => rfl
  | true =>
    obtain ⟨_, _, h⟩ := bind_eq_ok.mp h
    cases h

theorem Setting.refuseIf_eq_ok_iff {test : Except Datum.Misfit Bool} {fault : String → Fault}
    {got : Datum} : refuseIf test fault got = .ok () ↔ test = .ok false :=
  ⟨refuseIf_eq_ok, refuseIf_of_false⟩

namespace Number

theorem lt_float_int {negative : Bool} {m : Nat} {e n : Int} :
    lt (.float (.finite negative m e)) (.int n) = true ↔
      Binary.signed negative m * (twoTo (e - min 0 e).toNat : Nat) <
        n * (twoTo (0 - min 0 e).toNat : Nat) := by
  rw [← Int.compare_eq_gt]
  simp only [lt, compare?, compareIntFloat, Binary.compareDyadic]
  generalize compare (α := Int) _ _ = order
  cases order <;> decide

theorem le_float_int {negative : Bool} {m : Nat} {e n : Int} :
    le (.float (.finite negative m e)) (.int n) = true ↔
      Binary.signed negative m * (twoTo (e - min 0 e).toNat : Nat) ≤
        n * (twoTo (0 - min 0 e).toNat : Nat) := by
  rw [← Int.compare_ne_lt]
  simp only [le, compare?, compareIntFloat, Binary.compareDyadic]
  generalize compare (α := Int) _ _ = order
  cases order <;> decide

/-- What is less than a whole number is less than a greater one. -/
theorem lt_int_of_le {x : Number} {a b : Int} (hab : a ≤ b) (hlt : lt x (.int a) = true) :
    lt x (.int b) = true := by
  cases x with
  | int n =>
    rw [lt_int, decide_eq_true_eq] at hlt ⊢
    omega
  | float x =>
    cases x with
    | nan => exact hlt
    | infinite negative => exact hlt
    | finite negative m e =>
      rw [lt_float_int] at hlt ⊢
      exact Int.lt_of_lt_of_le hlt (Int.mul_le_mul_of_nonneg_right hab (Int.natCast_nonneg _))

/-- What is at most a whole number is at most a greater one. -/
theorem le_int_of_le {x : Number} {a b : Int} (hab : a ≤ b) (hle : le x (.int a) = true) :
    le x (.int b) = true := by
  cases x with
  | int n =>
    rw [le_int, decide_eq_true_eq] at hle ⊢
    omega
  | float x =>
    cases x with
    | nan => exact hle
    | infinite negative => exact hle
    | finite negative m e =>
      rw [le_float_int] at hle ⊢
      exact Int.le_trans hle (Int.mul_le_mul_of_nonneg_right hab (Int.natCast_nonneg _))

/-- What is at most a whole number is less than a greater one. -/
theorem lt_int_of_lt {x : Number} {a b : Int} (hab : a < b) (hle : le x (.int a) = true) :
    lt x (.int b) = true := by
  cases x with
  | int n =>
    rw [le_int, decide_eq_true_eq] at hle
    rw [lt_int, decide_eq_true_eq]
    omega
  | float x =>
    cases x with
    | nan => cases hle
    | infinite negative => cases negative <;> first | rfl | cases hle
    | finite negative m e =>
      have htwo : (0 : Int) < (twoTo (0 - min 0 e).toNat : Nat) :=
        Int.natCast_pos.mpr (Nat.two_pow_pos _)
      rw [le_float_int] at hle
      rw [lt_float_int]
      exact Int.lt_of_le_of_lt hle (Int.mul_lt_mul_of_pos_right hab htwo)

end Number

namespace Datum

/-- A datum that could be compared with a whole number counts as a number. -/
theorem isLess_eq_ok {d : Datum} {n : Int} {r : Bool} (h : d.isLess (.int n) = .ok r) :
    ∃ x, d.number? = some x ∧ Number.lt x (.int n) = r := by
  cases hx : d.number? with
  | none => simp [isLess, relate, hx] at h
  | some x =>
    have hn : (Datum.int n).number? = some (.int n) := rfl
    rw [isLess, relate, hx, hn] at h
    exact ⟨x, rfl, Except.ok.inj h⟩

theorem isOverlong_text (s : String) : (text s).isOverlong = false := by
  unfold isOverlong
  rfl

theorem isOverlong_int (n : Int) : (int n).isOverlong = Number.isOverlong n := by
  unfold isOverlong
  rfl

theorem isOverlong_float (x : Number.Binary) : (float x).isOverlong = false := by
  unfold isOverlong
  rfl

theorem anyOverlongEntry_text (fields : List (String × Datum)) :
    anyOverlongEntry (fields.map fun f => (.text f.1, f.2)) =
      fields.any fun f => f.2.isOverlong := by
  induction fields with
  | nil => rw [List.map_nil, anyOverlongEntry, List.any_nil]
  | cons f rest ih =>
    have htext : (scalar (.text f.1)).isOverlong = false := isOverlong_text f.1
    rw [List.map_cons, anyOverlongEntry, htext, Bool.false_or, List.any_cons, ih]

/-- A record has a number that is too long if a field of it has. -/
theorem isOverlong_record (fields : List (String × Datum)) :
    (record fields).isOverlong = fields.any fun f => f.2.isOverlong := by
  rw [← anyOverlongEntry_text, record]
  unfold isOverlong
  rfl

theorem written?_text (s : String) : (text s).written? = .ok s := by
  simp only [written?, isOverlong_text]
  rfl

theorem number?_ofNumber (x : Number) : (ofNumber x).number? = some x := by
  cases x <;> rfl

theorem isNull_ofNumber (x : Number) : (ofNumber x).isNull = false := by
  cases x <;> rfl

@[simp] theorem isNull_null : null.isNull = true := rfl

@[simp] theorem isLess_ofNumber (x : Number) (n : Int) :
    (ofNumber x).isLess (.int n) = .ok (Number.lt x (.int n)) := by
  have hn : (Datum.int n).number? = some (.int n) := rfl
  rw [isLess, relate, number?_ofNumber, hn]

@[simp] theorem isAtMost_ofNumber (x : Number) (n : Int) :
    (ofNumber x).isAtMost (.int n) = .ok (Number.le x (.int n)) := by
  have hn : (Datum.int n).number? = some (.int n) := rfl
  rw [isAtMost, relate, number?_ofNumber, hn]

theorem isAtMost_eq_ok {d : Datum} {n : Int} {r : Bool} (h : d.isAtMost (.int n) = .ok r) :
    ∃ x, d.number? = some x ∧ Number.le x (.int n) = r := by
  cases hx : d.number? with
  | none => simp [isAtMost, relate, hx] at h
  | some x =>
    have hn : (Datum.int n).number? = some (.int n) := rfl
    rw [isAtMost, relate, hx, hn] at h
    exact ⟨x, rfl, Except.ok.inj h⟩

end Datum

/-- A value that could be tested is refused with a fault of its setting, unless the fault cannot say
the value. -/
theorem Setting.refuseIf_failsOnly {test : Except Datum.Misfit Bool} {fault : String → Fault}
    {got : Datum} {b : Bool} (htest : test = .ok b) :
    FailsOnly (fun r => (∃ f, r = .fault f) ∨
      r = .misfit (.number .unwritable) ∧ b = true ∧ got.isOverlong = true)
      (refuseIf test fault got) := by
  intro r hr
  obtain hr | ⟨refused, _, hr⟩ := bind_eq_error.mp hr
  · rw [htest] at hr
    cases hr
  · cases refused with
    | false => cases hr
    | true =>
      cases htest.symm.trans (mapError_eq_ok.mp ‹_›)
      obtain hr | ⟨shown, _, hr⟩ := bind_eq_error.mp hr
      · obtain ⟨m, hm, rfl⟩ := mapError_eq_error.mp hr
        rw [Datum.written?] at hm
        split at hm <;> cases hm
        exact .inr ⟨rfl, rfl, ‹_›⟩
      · cases hr
        exact .inl ⟨_, rfl⟩

namespace Window.Bounds

/-- A bound on the count that was accepted is a number not less than one. -/
theorem make_eq_ok {maxPoints maxAge : Datum} {b : Bounds} (h : make maxPoints maxAge = .ok b) :
    b.maxPoints = maxPoints.limit? ∧
      ∀ limit, b.maxPoints = some limit → Number.lt limit 1 = false := by
  unfold make at h
  obtain ⟨_, h⟩ := guard_eq_ok h
  obtain ⟨hpoints, h⟩ := guard_eq_ok h
  obtain ⟨hage, h⟩ := guard_eq_ok h
  have hmax : b.maxPoints = maxPoints.limit? := by
    split at h
    · cases h
      rfl
    · split at h
      · cases h
        rfl
      · cases h
  refine ⟨hmax, fun limit hlimit => ?_⟩
  rw [hmax, Datum.limit?] at hlimit
  split at hlimit
  · cases hlimit
  · rename_i hnull
    have hless := Setting.refuseIf_eq_ok (mapError_eq_ok.mp (hpoints (by simpa using hnull)))
    obtain ⟨x, hx, hlt⟩ := Datum.isLess_eq_ok hless
    rw [Datum.amount, hx] at hlimit
    cases hlimit
    exact hlt

/-- Bounds that no check refuses can be made exactly if the age is a length of time. -/
theorem make_isOk_iff {maxPoints maxAge : Datum}
    (hsome : ¬ (maxPoints.isNull = true ∧ maxAge.isNull = true))
    (hpoints : maxPoints.isNull = false → maxPoints.isLess (.int 1) = .ok false)
    (hage : maxAge.isNull = false → maxAge.isAtMost (.int 0) = .ok false) :
    (∃ b, make maxPoints maxAge = .ok b) ↔
      ∀ x ∈ maxAge.limit?, ∃ ticks, Calendar.Span.ofSeconds x = .ok ticks := by
  rw [make, if_neg (by simpa using hsome)]
  cases maxAge.limit? with
  | none =>
    cases hp : maxPoints.isNull <;> cases ha : maxAge.isNull <;>
      simp [Setting.refuseIf_of_false, mapError_ok, bind, Except.bind, *]
  | some x =>
    cases hx : Calendar.Span.ofSeconds x <;> cases hp : maxPoints.isNull <;>
      cases ha : maxAge.isNull <;>
      simp [Setting.refuseIf_of_false, mapError_ok, bind, Except.bind, *]

end Window.Bounds
end FeeWatch
