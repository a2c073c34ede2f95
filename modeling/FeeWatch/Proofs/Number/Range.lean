import FeeWatch.Proofs.Number.Precision

/-! The range of results.

A result has a place for its leading digit up to the greatest power; what rounding would take
beyond that is an overflow. So a value has a result exactly if it lies below half a unit of the
last place above the greatest one (`fit_isOk_iff`). From that it follows when two numbers that
are not negative have a product (`mul_isOk_iff`): infinity has none with zero, and finite ones
have one if it lies in the range. What is left of one by a fraction is always there
(`exists_sub_one`). -/
namespace FeeWatch.Number

/-- Rounding reaches an even number from half a unit below it on. -/
theorem le_roundDiv_iff {n k d : Nat} (hd : 0 < d) (heven : k % 2 = 0) :
    k ≤ roundDiv n d ↔ 2 * k * d ≤ 2 * n + d := by
  have hdecomp := Nat.div_add_mod n d
  have hmod := Nat.mod_lt n hd
  have hmul {a b : Nat} (h : a ≤ b) : a * d ≤ b * d := Nat.mul_le_mul_right d h
  unfold roundDiv
  dsimp only
  generalize n / d = q at *
  generalize n % d = r at *
  rw [Nat.mul_comm] at hdecomp
  rcases Nat.lt_trichotomy k (q + 1) with hlt | heq | hgt
  · have := hmul (Nat.le_of_lt_succ hlt)
    rw [Nat.mul_assoc]
    split <;> omega
  · subst heq
    rw [Nat.mul_assoc, Nat.add_mul]
    split <;> omega
  · have := hmul (show q + 1 + 1 ≤ k from hgt)
    rw [Nat.add_mul, Nat.add_mul] at this
    rw [Nat.mul_assoc]
    split <;> omega

theorem roundDiv_eq_zero {n d : Nat} (h : 2 * n < d) : roundDiv n d = 0 := by
  unfold roundDiv
  rw [Nat.div_eq_of_lt (by omega), Nat.mod_eq_of_lt (by omega), if_neg (by omega)]

namespace Decimal

/-- The least value beyond the range of results: half a unit above the greatest one. -/
def limit : ℚ := (10 ^ precision - 1 / 2) * 10 ^ (greatestPower + 1 - precision)

section Limit

/-- The unit of the greatest result's last place. -/
theorem unit_pos : (0 : ℚ) < 10 ^ (greatestPower + 1 - precision) := by positivity

theorem top_eq : (10 : ℚ) ^ (greatestPower + 1) =
    10 ^ precision * 10 ^ (greatestPower + 1 - precision) := by
  rw [← zpow_natCast, ← zpow_add₀ (by norm_num)]
  congr 1

theorem ten_zpow_le {k l : Int} (h : k ≤ l) : (10 : ℚ) ^ k ≤ 10 ^ l :=
  zpow_le_zpow_right₀ (by norm_num) h

theorem limit_lt_top : limit < 10 ^ (greatestPower + 1) := by
  rw [top_eq, limit]
  exact mul_lt_mul_of_pos_right (by norm_num) unit_pos

theorem lt_limit_of_units {n : Nat} (h : n < 10 ^ precision) :
    (n : ℚ) * 10 ^ (greatestPower + 1 - precision) < limit := by
  have hn : (n : ℚ) + 1 ≤ 10 ^ precision := by exact_mod_cast h
  exact mul_lt_mul_of_pos_right (by linarith) unit_pos

/-- Below the limit lies what has at most 28 digits and a leading one in place. -/
theorem lt_limit {c : Nat} {q : Int} (hc : c < 10 ^ precision)
    (htop : (c : ℚ) * 10 ^ q < 10 ^ (greatestPower + 1)) : (c : ℚ) * 10 ^ q < limit := by
  rcases le_total q (greatestPower + 1 - precision) with hq | hq
  · refine lt_of_le_of_lt ?_ (lt_limit_of_units hc)
    exact mul_le_mul_of_nonneg_left (ten_zpow_le hq) (Nat.cast_nonneg c)
  · -- Zeros behind the digits lead to the unit.
    rw [← pow_mul_zpow (by norm_num) hq, ← mul_assoc] at htop ⊢
    rw [top_eq] at htop
    have hunits := lt_of_mul_lt_mul_right htop unit_pos.le
    have hnat : c * 10 ^ (q - (greatestPower + 1 - precision)).toNat < 10 ^ precision := by
      exact_mod_cast hunits
    have h := lt_limit_of_units hnat
    push_cast at h
    exact h

theorem pow_lt_limit : (10 : ℚ) ^ greatestPower < limit := by
  have htop : (1 : Nat) * (10 : ℚ) ^ greatestPower < 10 ^ (greatestPower + 1) := by simp
  simpa using lt_limit (by decide) htop

end Limit

/-! ### Rounding -/

section Fit
variable {s : Bool} {m : Nat} {p : Int}

theorem ratio_lt_pow : (m : ℚ) * 10 ^ p < 10 ^ ((digitCount m : Int) + p) := by
  have hm : (m : ℚ) < 10 ^ digitCount m := by exact_mod_cast lt_pow_digitCount m
  rw [zpow_add₀ (by norm_num), zpow_natCast]
  exact mul_lt_mul_of_pos_right hm (by positivity)

theorem pow_le_ratio (hm : m ≠ 0) : (10 : ℚ) ^ ((digitCount m : Int) + p - 1) ≤ m * 10 ^ p := by
  have hpos := digitCount_pos hm
  have hle : (10 : ℚ) ^ (digitCount m - 1) ≤ m := by exact_mod_cast pow_digitCount_le hm
  rw [show (digitCount m : Int) + p - 1 = ((digitCount m - 1 : Nat) : Int) + p by omega,
    zpow_add₀ (by norm_num), zpow_natCast]
  exact mul_le_mul_of_nonneg_right hle (by positivity)

/-- Where all digits lie behind the last place but one, nothing is left to round up. -/
theorem rounded_eq (drop : Nat) :
    (if digitCount m < drop then 0 else roundDiv m (tenTo drop)) = roundDiv m (tenTo drop) := by
  split
  · rename_i hdrop
    refine (roundDiv_eq_zero ?_).symm
    obtain ⟨k, rfl⟩ := Nat.exists_eq_add_of_lt hdrop
    have hm := digitCount_le_iff.mp (Nat.le_add_right (digitCount m) k)
    rw [tenTo, Nat.pow_eq, Nat.pow_succ]
    omega
  · rfl

/-- What is rounded at the last place has 28 digits, or is the least number with one more. -/
theorem roundDiv_lastPlace_le (m : Nat) (p : Int) :
    roundDiv m (tenTo (lastPlace m p - p).toNat) ≤ 10 ^ precision := by
  refine roundDiv_le (Nat.pow_pos (by decide)) (Nat.le_of_lt ?_)
  rw [tenTo, Nat.pow_eq, ← Nat.pow_add, ← digitCount_le_iff]
  unfold lastPlace
  omega

/-- Rounding makes one digit more from half a unit below the power of ten on. -/
theorem carries_iff (hlast : p < lastPlace m p) :
    10 ^ precision ≤ roundDiv m (tenTo (lastPlace m p - p).toNat) ↔
      (10 ^ precision - 1 / 2) * 10 ^ lastPlace m p ≤ (m : ℚ) * 10 ^ p := by
  have hpos : 0 < tenTo (lastPlace m p - p).toNat := Nat.pow_pos (by decide)
  have hunit : (0 : ℚ) < 10 ^ p := by positivity
  rw [le_roundDiv_iff hpos (by decide), ← pow_mul_zpow (by norm_num) hlast.le, ← mul_assoc,
    mul_le_mul_iff_left₀ hunit, ← Nat.cast_le (α := ℚ)]
  push_cast [cast_tenTo]
  constructor <;> intro h <;> linarith

/-- What rounding leaves with at most 28 digits lies in the range. -/
theorem lt_limit_of_kept (hlast : p < lastPlace m p)
    (hplaces : lastPlace m p ≤ greatestPower + 1 - precision)
    (hfew : digitCount (roundDiv m (tenTo (lastPlace m p - p).toNat)) ≤ precision) :
    (m : ℚ) * 10 ^ p < limit := by
  have hbelow := mt (carries_iff hlast).mpr (not_le_of_gt (digitCount_le_iff.mp hfew))
  refine (not_le.mp hbelow).trans_le ?_
  exact mul_le_mul_of_nonneg_left (ten_zpow_le hplaces) (by norm_num [precision])

theorem digitCount_carried
    (hmany : ¬ digitCount (roundDiv m (tenTo (lastPlace m p - p).toNat)) ≤ precision) :
    digitCount (roundDiv m (tenTo (lastPlace m p - p).toNat) / 10) = precision := by
  have hpower : roundDiv m (tenTo (lastPlace m p - p).toNat) = 10 ^ precision :=
    Nat.le_antisymm (roundDiv_lastPlace_le m p) (Nat.le_of_not_lt (mt digitCount_le_iff.mpr hmany))
  rw [hpower]
  decide +kernel

/-- What rounding carries to one more digit lies in the range unless the last place is the last one
of the greatest numbers. -/
theorem lt_limit_iff_of_carried (hlast : p < lastPlace m p)
    (hplaces : lastPlace m p ≤ greatestPower + 1 - precision)
    (hplace : (digitCount m : Int) + p ≤ greatestPower + 1)
    (hmany : ¬ digitCount (roundDiv m (tenTo (lastPlace m p - p).toNat)) ≤ precision) :
    (m : ℚ) * 10 ^ p < limit ↔ lastPlace m p < greatestPower + 1 - precision := by
  have hcarried := (carries_iff hlast).mp (Nat.le_of_not_lt (mt digitCount_le_iff.mpr hmany))
  constructor
  · refine fun h => lt_of_le_of_ne hplaces fun hfull => not_lt_of_ge ?_ h
    rwa [hfull] at hcarried
  · intro hroom
    refine (ratio_lt_pow.trans_le (ten_zpow_le ?_)).trans pow_lt_limit
    unfold lastPlace at hlast hroom
    omega

/-- **A value has a result exactly if it lies in the range.** -/
theorem fit_isOk_iff : (∃ x, fit s m p = .ok x) ↔ (m : ℚ) * 10 ^ p < limit := by
  by_cases hm : m = 0
  · subst hm
    have hpos : (0 : ℚ) < limit := by
      simpa using lt_limit_of_units (n := 0) (by decide)
    simpa [fit] using hpos
  · unfold fit
    rw [if_neg hm]
    extract_lets count last drop rounded
    have hrange : leastPower ≤ greatestPower + 1 - precision := by decide
    split
    next hplace =>
      -- The leading digit has no place.
      refine ⟨by rintro ⟨_, ⟨⟩⟩, fun h => absurd (h.trans limit_lt_top) (not_lt_of_ge ?_)⟩
      exact (ten_zpow_le (by omega)).trans (pow_le_ratio hm)
    next hplace =>
      split
      next hexact =>
        refine ⟨fun _ => lt_limit (digitCount_le_iff.mp (by omega)) ?_, fun _ => ⟨_, rfl⟩⟩
        exact ratio_lt_pow.trans_le (ten_zpow_le (by omega))
      next hexact =>
        have hlast : p < lastPlace m p := Int.not_le.mp hexact
        have hplaces : lastPlace m p ≤ greatestPower + 1 - precision := by
          unfold lastPlace
          omega
        have hrounded : rounded = roundDiv m (tenTo (lastPlace m p - p).toNat) := rounded_eq drop
        by_cases hfew : digitCount rounded ≤ precision
        · simp only [if_pos hfew]
          rw [if_neg (by omega)]
          exact iff_of_true ⟨_, rfl⟩ (lt_limit_of_kept hlast hplaces (hrounded ▸ hfew))
        · have hmany := hrounded ▸ hfew
          have hcount : digitCount (rounded / 10) = precision := hrounded ▸ digitCount_carried hmany
          rw [lt_limit_iff_of_carried hlast hplaces (by omega) hmany]
          simp only [if_neg hfew, hcount]
          split
          next hfull =>
            refine ⟨by rintro ⟨_, ⟨⟩⟩, fun hroom => ?_⟩
            have hroom : last < greatestPower + 1 - precision := hroom
            omega
          next hroom =>
            refine ⟨fun _ => ?_, fun _ => ⟨_, rfl⟩⟩
            show last < greatestPower + 1 - precision
            omega

theorem ratio_le : ratio s m p ≤ m * 10 ^ p := by
  cases s with
  | false => exact ratio_false.le
  | true =>
    have hpos : (0 : ℚ) ≤ m * 10 ^ p := by positivity
    rw [ratio_true, ratio_false]
    linarith

theorem lastPlace_le_of_lt (hlast : p < lastPlace m p) (hlimit : (m : ℚ) * 10 ^ p < limit) :
    lastPlace m p ≤ greatestPower + 1 - precision := by
  have hrange : leastPower ≤ greatestPower + 1 - precision := by decide
  unfold lastPlace at hlast ⊢
  by_cases hm : m = 0
  · rw [hm, digitCount] at hlast ⊢
    omega
  · have hcount : (digitCount m : Int) + p - 1 < greatestPower + 1 := by
      by_contra hover
      have htop := (ten_zpow_le (not_lt.mp hover)).trans (pow_le_ratio hm)
      exact absurd (hlimit.trans limit_lt_top) (not_lt_of_ge htop)
    omega

/-- **A result lies in the range itself**, so that nothing less can leave it. -/
theorem fit_lt_limit {x : Decimal} (h : fit s m p = .ok x) {a : ℚ}
    (ha : x.value = (a : WithTop ℚ)) : a < limit := by
  have hlimit := fit_isOk_iff.mp ⟨x, h⟩
  -- What was rounded, with a carry or without, reaches half a unit below the limit at most.
  have hrounded {r : Nat} (hlast : p < lastPlace m p)
      (hr : r ≤ roundDiv m (tenTo (lastPlace m p - p).toNat)) :
      (r : ℚ) * 10 ^ lastPlace m p < limit := by
    rcases (lastPlace_le_of_lt hlast hlimit).lt_or_eq with hlt | heq
    · have hmany : (r : ℚ) ≤ 10 ^ precision := by
        exact_mod_cast hr.trans (roundDiv_lastPlace_le m p)
      calc (r : ℚ) * 10 ^ lastPlace m p
          ≤ 10 ^ precision * 10 ^ lastPlace m p :=
            mul_le_mul_of_nonneg_right hmany (by positivity)
        _ = 10 ^ ((precision : Int) + lastPlace m p) := by
            rw [zpow_add₀ (by norm_num), zpow_natCast]
        _ ≤ 10 ^ greatestPower := ten_zpow_le (by omega)
        _ < limit := pow_lt_limit
    · have hfew := mt (carries_iff hlast).mp (not_le_of_gt (by rwa [heq]))
      rw [heq]
      exact lt_limit_of_units (by omega)
  have hfinite {t : Bool} {n : Nat} {q : Int} (hn : (n : ℚ) * 10 ^ q < limit)
      (hvalue : (finite t n q).value = (a : WithTop ℚ)) : a < limit := by
    rw [value, WithBot.coe_inj, WithTop.coe_inj] at hvalue
    exact hvalue ▸ ratio_le.trans_lt hn
  cases fit_fitted h with
  | zero hm hleast => exact hfinite (by simpa [hm] using hlimit) ha
  | exact hlast => exact hfinite hlimit ha
  | rounded hlast hr hcount => exact hfinite (hrounded hlast hr) ha
  | @carried r hlast hr =>
    refine hfinite (lt_of_le_of_lt ?_ (hrounded hlast hr)) ha
    have hdiv : ((r / 10 : Nat) : ℚ) * 10 ≤ r := by exact_mod_cast Nat.div_mul_le_self r 10
    calc ((r / 10 : Nat) : ℚ) * 10 ^ (lastPlace m p + 1)
        = (r / 10 : Nat) * 10 * 10 ^ lastPlace m p := by rw [zpow_add_one₀ (by norm_num)]; ring
      _ ≤ r * 10 ^ lastPlace m p := mul_le_mul_of_nonneg_right hdiv (by positivity)

end Fit

/-! ### Products -/

/-- Two values that are not negative have a product: infinity has none with zero, and that of
finite values must lie in the range. -/
structure HasProduct (x y : Extended) : Prop where
  left : x = ⊤ → y ≠ whole 0
  right : y = ⊤ → x ≠ whole 0
  finite : ∀ a b : ℚ, x = (a : WithTop ℚ) → y = (b : WithTop ℚ) → a * b < limit

theorem ratio_of_nonneg {s : Bool} {m : Nat} {e : Int} (h : 0 ≤ ratio s m e) :
    ratio s m e = m * 10 ^ e := by
  cases s with
  | false => exact ratio_false
  | true => simp [eq_zero_of_ratio_nonneg h]

theorem ratio_eq_zero_iff {s : Bool} {m : Nat} {e : Int} : ratio s m e = 0 ↔ m = 0 := by
  constructor
  · intro h
    by_contra hm
    have hpos := ratio_false_pos (e := e) hm
    cases s with
    | false => linarith
    | true => rw [ratio_true] at h; linarith
  · rintro rfl
    exact ratio_zero

theorem value_finite_inj {s : Bool} {m : Nat} {e : Int} {a : ℚ} :
    (finite s m e).value = (a : WithTop ℚ) ↔ ratio s m e = a := by
  rw [value, WithBot.coe_inj, WithTop.coe_inj]

theorem value_finite_eq_zero {s : Bool} {m : Nat} {e : Int} :
    (finite s m e).value = whole 0 ↔ m = 0 := by
  rw [whole, value_finite_inj, Int.cast_zero, ratio_eq_zero_iff]

theorem value_finite_ne_top {s : Bool} {m : Nat} {e : Int} : (finite s m e).value ≠ ⊤ :=
  fun h => WithTop.coe_ne_top (WithBot.coe_inj.mp h)

theorem top_ne_coe (a : ℚ) : (⊤ : Extended) ≠ (a : WithTop ℚ) :=
  fun h => WithTop.coe_ne_top (WithBot.coe_inj.mp h.symm)

theorem HasProduct.symm {x y : Extended} (h : HasProduct x y) : HasProduct y x :=
  ⟨h.right, h.left, fun a b ha hb => mul_comm b a ▸ h.finite b a hb ha⟩

theorem hasProduct_top_iff {y : Extended} : HasProduct ⊤ y ↔ y ≠ whole 0 :=
  ⟨fun h => h.left rfl, fun h => ⟨fun _ => h, fun _ => top_ne_coe 0,
    fun a _ ha => absurd ha (top_ne_coe a)⟩⟩

theorem hasProduct_finite_iff {s t : Bool} {m n : Nat} {e f : Int} :
    HasProduct (finite s m e).value (finite t n f).value ↔ ratio s m e * ratio t n f < limit := by
  refine ⟨fun h => h.finite _ _ rfl rfl, fun h => ⟨fun htop => absurd htop value_finite_ne_top,
    fun htop => absurd htop value_finite_ne_top, fun a b ha hb => ?_⟩⟩
  rwa [← value_finite_inj.mp ha, ← value_finite_inj.mp hb]

/-- **Numbers that are not negative have a product exactly if their values have one.** -/
theorem mul_isOk_iff {x y : Decimal} (hx : whole 0 ≤ x.value) (hy : whole 0 ≤ y.value) :
    (∃ z, mul x y = .ok z) ↔ HasProduct x.value y.value := by
  obtain rfl | ⟨s, m, e, rfl, hm⟩ := cases_of_nonneg hx
  · obtain rfl | ⟨t, n, f, rfl, hn⟩ := cases_of_nonneg hy
    · exact iff_of_true ⟨_, rfl⟩ (hasProduct_top_iff.mpr (top_ne_coe 0))
    · change _ ↔ HasProduct ⊤ _
      rw [hasProduct_top_iff, Ne, value_finite_eq_zero, mul]
      split <;> simp [*]
  · obtain rfl | ⟨t, n, f, rfl, hn⟩ := cases_of_nonneg hy
    · change _ ↔ HasProduct _ ⊤
      rw [show HasProduct (finite s m e).value ⊤ ↔ HasProduct ⊤ (finite s m e).value from
        ⟨.symm, .symm⟩, hasProduct_top_iff, Ne, value_finite_eq_zero, mul]
      split <;> simp [*]
    · have hproduct : ((m * n : Nat) : ℚ) * 10 ^ (e + f) = ratio s m e * ratio t n f := by
        rw [ratio_of_nonneg hm, ratio_of_nonneg hn, zpow_add₀ (by norm_num)]
        push_cast
        ring
      rw [hasProduct_finite_iff, ← hproduct]
      exact fit_isOk_iff

/-- What is no number makes no product fail. -/
theorem hasProduct_bot {y : Extended} : HasProduct ⊥ y :=
  ⟨nofun, fun _ => nofun, fun _ _ => nofun⟩

/-- A product is infinite or lies in the range. -/
theorem mul_lt_limit {x y z : Decimal} (hx : whole 0 ≤ x.value) (hy : whole 0 ≤ y.value)
    (h : mul x y = .ok z) {a : ℚ} (ha : z.value = (a : WithTop ℚ)) : a < limit := by
  obtain rfl | ⟨s, m, e, rfl, hm⟩ := cases_of_nonneg hx
  · obtain rfl | ⟨t, n, f, rfl, hn⟩ := cases_of_nonneg hy
    · cases h
      exact absurd ha (top_ne_coe a)
    · rw [mul] at h
      split at h <;> cases h
      rw [sign_of_nonneg hn ‹_›] at ha
      exact absurd ha (top_ne_coe a)
  · obtain rfl | ⟨t, n, f, rfl, hn⟩ := cases_of_nonneg hy
    · rw [mul] at h
      split at h <;> cases h
      rw [sign_of_nonneg hm ‹_›] at ha
      exact absurd ha (top_ne_coe a)
    · exact fit_lt_limit h ha

/-- A value in the range stays there when it is lowered; an infinite one must not be lowered to
nothing. -/
theorem hasProduct_of_le_one {x y : Extended} (hx : whole 0 ≤ x)
    (hlimit : ∀ a : ℚ, x = (a : WithTop ℚ) → a < limit) (hy : y ≤ whole 1)
    (hlost : x = ⊤ → y ≠ whole 0) : HasProduct x y := by
  refine ⟨hlost, fun htop => ?_, fun a b ha hb => ?_⟩
  · rw [htop, top_le_iff] at hy
    exact absurd hy.symm (top_ne_coe _)
  · rw [ha, whole, strictMono_extended.le_iff_le, Int.cast_zero] at hx
    rw [hb, whole, strictMono_extended.le_iff_le, Int.cast_one] at hy
    exact (mul_le_of_le_one_right hx hy).trans_lt (hlimit a ha)

/-- What a fraction leaves of one is always there, and not negative. -/
theorem exists_sub_one {x : Decimal} (hx : whole 0 ≤ x.value) (hlt : x.value < whole 1) :
    ∃ z, sub (.ofInt 1) x = .ok z ∧ whole 0 ≤ z.value := by
  obtain ⟨s, m, p, hfit, hnonneg, hle⟩ := sub_one_eq_fit hx hlt
  have hone : (1 : ℚ) < limit :=
    calc (1 : ℚ) = 10 ^ (0 : Int) := (zpow_zero _).symm
      _ ≤ 10 ^ greatestPower := ten_zpow_le (by decide)
      _ < limit := pow_lt_limit
  obtain ⟨z, hz⟩ := fit_isOk_iff.mpr (ratio_of_nonneg hnonneg ▸ hle.trans_lt hone)
  refine ⟨z, hfit.trans hz, (fit_fitted hz).nonneg (whole_le_value_finite.mpr ?_)⟩
  rwa [Int.cast_zero]

end Decimal
end FeeWatch.Number
