import FeeWatch.Calendar.Civil
import Mathlib.Algebra.GroupWithZero.Nat

/-! Days and dates name each other.

The number of a day is read back as a date of the calendar (`ofDayNumber_isDate`) that
has this number (`dayNumber_ofDayNumber`), and later days have later dates
(`ofDayNumber_before`). Both rest on the two steps of the reading: the year's first
estimate is off by one at most (`yearOf_spec`), and a day of a year falls into one month
(`splitMonth_spec`). -/
namespace FeeWatch.Calendar

/-- Whether a date is one of the calendar. -/
structure Date.IsDate (d : Date) : Prop where
  year : 1 ≤ d.year
  month : 1 ≤ d.month ∧ d.month ≤ 12
  day : 1 ≤ d.day ∧ d.day ≤ monthLength d.year d.month

/-- Whether a date comes before another. -/
def Date.Before (a b : Date) : Prop :=
  a.year < b.year ∨
    a.year = b.year ∧ (a.month < b.month ∨ a.month = b.month ∧ a.day < b.day)

/-! ### Years -/

theorem sum_monthLengths (year : Nat) :
    (monthLengths (isLeap year)).sum = if isLeap year then 366 else 365 := by
  cases isLeap year <;> rfl

theorem isLeap_iff {year : Nat} :
    isLeap year = true ↔ year % 4 = 0 ∧ (year % 100 ≠ 0 ∨ year % 400 = 0) := by
  simp [isLeap]

/-- A year ends when the days of its months are over. -/
theorem daysBeforeYear_succ {year : Nat} (h : 1 ≤ year) :
    daysBeforeYear (year + 1) = daysBeforeYear year + (monthLengths (isLeap year)).sum := by
  have hfour : year / 4 = (year - 1) / 4 + if year % 4 = 0 then 1 else 0 := by split <;> omega
  have hcentury : year / 100 = (year - 1) / 100 + if year % 100 = 0 then 1 else 0 := by
    split <;> omega
  have hround : year / 400 = (year - 1) / 400 + if year % 400 = 0 then 1 else 0 := by
    split <;> omega
  have hless : (year - 1) / 100 ≤ (year - 1) * 365 := by omega
  rw [sum_monthLengths, daysBeforeYear, daysBeforeYear, Nat.add_sub_cancel, hfour, hcentury, hround]
  generalize (year - 1) / 4 = fours, (year - 1) / 100 = centuries at *
  by_cases hleap : isLeap year = true
  · have hdivides := isLeap_iff.mp hleap
    rw [if_pos hleap, if_pos hdivides.1]
    split <;> split <;> omega
  · have hdivides := mt isLeap_iff.mpr hleap
    rw [if_neg hleap]
    split <;> split <;> split <;> omega

theorem daysBeforeYear_mono {a b : Nat} (ha : 1 ≤ a) (h : a ≤ b) :
    daysBeforeYear a ≤ daysBeforeYear b := by
  induction h with
  | refl => exact Nat.le_refl _
  | step hle ih =>
    rw [Nat.succ_eq_add_one, daysBeforeYear_succ (Nat.le_trans ha hle)]
    exact Nat.le_trans ih (Nat.le_add_right _ _)

theorem yearOf_spec (n : Nat) :
    1 ≤ yearOf n ∧ daysBeforeYear (yearOf n) ≤ n ∧ n < daysBeforeYear (yearOf n + 1) := by
  -- In whole days the average year of 146097 / 400 days is off by less than two.
  have hlow : daysBeforeYear (n * 400 / 146097) ≤ n := by
    unfold daysBeforeYear
    omega
  have hhigh : n < daysBeforeYear (n * 400 / 146097 + 3) := by
    unfold daysBeforeYear
    omega
  have hfirst : daysBeforeYear 1 = 0 := rfl
  unfold yearOf
  dsimp only
  split
  · rename_i hless
    have hpositive : n * 400 / 146097 ≠ 0 := fun h => by
      rw [h, hfirst] at hless
      exact absurd hless (Nat.not_lt_zero n)
    exact ⟨Nat.pos_of_ne_zero hpositive, hlow, hless⟩
  · split
    · exact ⟨by omega, by assumption, hhigh⟩
    · exact ⟨by omega, by omega, by omega⟩

/-! ### Months -/

/-- A day of a year falls into one of its months. -/
theorem splitMonth_spec (lengths : List Nat) (day : Nat) (h : day < lengths.sum) :
    ∃ length, lengths[(splitMonth lengths day).1]? = some length ∧
      (splitMonth lengths day).2 < length ∧
      (lengths.take (splitMonth lengths day).1).sum + (splitMonth lengths day).2 = day := by
  induction lengths generalizing day with
  | nil => exact absurd h (Nat.not_lt_zero day)
  | cons length rest ih =>
    rw [List.sum_cons] at h
    unfold splitMonth
    split
    · rename_i hless
      exact ⟨length, rfl, hless, Nat.zero_add day⟩
    · rename_i hless
      obtain ⟨found, hfound, hday, hsum⟩ := ih (day - length) (by omega)
      rcases hsplit : splitMonth rest (day - length) with ⟨month, left⟩
      rw [hsplit] at hfound hday hsum
      refine ⟨found, hfound, hday, ?_⟩
      dsimp only at hsum ⊢
      rw [List.take_succ_cons, List.sum_cons]
      omega

def daysBeforeMonth (year month : Nat) : Nat := ((monthLengths (isLeap year)).take (month - 1)).sum

theorem dayNumber_eq (d : Date) :
    dayNumber d = daysBeforeYear d.year + daysBeforeMonth d.year d.month + (d.day - 1) := by
  rw [dayNumber, daysBeforeMonth, List.sum_eq_foldl_nat]

theorem length_monthLengths (leap : Bool) : (monthLengths leap).length = 12 := rfl

/-- A month ends when its days are over. -/
theorem daysBeforeMonth_succ {year month : Nat} (h : 1 ≤ month) (hle : month ≤ 12) :
    daysBeforeMonth year (month + 1) = daysBeforeMonth year month + monthLength year month := by
  have hlt : month - 1 < (monthLengths (isLeap year)).length := by
    rw [length_monthLengths]
    omega
  have hnext : month + 1 - 1 = month - 1 + 1 := by omega
  have hmonth : month ≠ 0 := by omega
  rw [daysBeforeMonth, hnext, List.take_add_one, List.sum_append, monthLength, if_neg hmonth,
    List.getElem?_eq_getElem hlt]
  simp [daysBeforeMonth]

theorem daysBeforeMonth_mono {a b : Nat} (year : Nat) (h : a ≤ b) :
    daysBeforeMonth year a ≤ daysBeforeMonth year b := by
  have hsub : a - 1 ≤ b - 1 := Nat.sub_le_sub_right h 1
  have hsplit := List.take_append_drop (a - 1) ((monthLengths (isLeap year)).take (b - 1))
  rw [List.take_take, Nat.min_eq_left hsub] at hsplit
  rw [daysBeforeMonth, daysBeforeMonth, ← hsplit, List.sum_append]
  exact Nat.le_add_right _ _

/-! ### Days -/

/-- The date of a day, by its year and what is left of it. -/
theorem ofDayNumber_spec (n : Nat) :
    (ofDayNumber n).IsDate ∧ (ofDayNumber n).year = yearOf n ∧ dayNumber (ofDayNumber n) = n := by
  obtain ⟨hyear, hstart, hend⟩ := yearOf_spec n
  rw [daysBeforeYear_succ hyear] at hend
  obtain ⟨length, hlength, hday, hsum⟩ :=
    splitMonth_spec (monthLengths (isLeap (yearOf n))) (n - daysBeforeYear (yearOf n)) (by omega)
  rcases hsplit : splitMonth (monthLengths (isLeap (yearOf n))) (n - daysBeforeYear (yearOf n)) with
    ⟨month, day⟩
  rw [hsplit] at hlength hday hsum
  have hdate : ofDayNumber n = ⟨yearOf n, month + 1, day + 1⟩ := by
    unfold ofDayNumber
    simp only [hsplit]
  have hmonth : month < 12 := by
    have := (List.getElem?_eq_some_iff.mp hlength).1
    rwa [length_monthLengths] at this
  have hinside : monthLength (yearOf n) (month + 1) = length := by
    rw [monthLength, if_neg (Nat.succ_ne_zero month), Nat.add_sub_cancel, hlength]
    rfl
  rw [hdate]
  refine ⟨⟨hyear, ⟨Nat.succ_pos month, hmonth⟩, Nat.succ_pos day, ?_⟩, rfl, ?_⟩
  · show day + 1 ≤ monthLength (yearOf n) (month + 1)
    rw [hinside]
    exact hday
  · rw [dayNumber_eq, daysBeforeMonth]
    dsimp only at hsum ⊢
    rw [Nat.add_sub_cancel, Nat.add_sub_cancel]
    omega

/-- The number of a day names its date. -/
theorem ofDayNumber_isDate (n : Nat) : (ofDayNumber n).IsDate := (ofDayNumber_spec n).1

/-- The date of a day has the day's number. -/
theorem dayNumber_ofDayNumber (n : Nat) : dayNumber (ofDayNumber n) = n := (ofDayNumber_spec n).2.2

/-- A day lies in its month. -/
theorem Date.IsDate.inMonth {d : Date} (h : d.IsDate) :
    daysBeforeYear d.year + daysBeforeMonth d.year d.month ≤ dayNumber d ∧
      dayNumber d < daysBeforeYear d.year + daysBeforeMonth d.year (d.month + 1) := by
  rw [dayNumber_eq, daysBeforeMonth_succ h.month.1 h.month.2]
  have hday := h.day
  omega

/-- A day lies in its year. -/
theorem Date.IsDate.inYear {d : Date} (h : d.IsDate) :
    daysBeforeYear d.year ≤ dayNumber d ∧ dayNumber d < daysBeforeYear (d.year + 1) := by
  obtain ⟨hstart, hend⟩ := h.inMonth
  have hlast : daysBeforeMonth d.year (d.month + 1) ≤ daysBeforeMonth d.year 13 :=
    daysBeforeMonth_mono d.year (Nat.succ_le_succ h.month.2)
  have hall : daysBeforeMonth d.year 13 = (monthLengths (isLeap d.year)).sum := by
    rw [daysBeforeMonth]
    rfl
  rw [daysBeforeYear_succ h.year]
  omega

/-- An earlier date has a smaller number. -/
theorem Date.Before.dayNumber_lt {a b : Date} (h : a.Before b) (ha : a.IsDate) (hb : b.IsDate) :
    dayNumber a < dayNumber b := by
  rcases h with hyear | ⟨hyear, hmonth | ⟨hmonth, hday⟩⟩
  · calc dayNumber a < daysBeforeYear (a.year + 1) := ha.inYear.2
      _ ≤ daysBeforeYear b.year := daysBeforeYear_mono (Nat.succ_pos _) hyear
      _ ≤ dayNumber b := hb.inYear.1
  · have hnext : a.month + 1 ≤ b.month := hmonth
    have hle := daysBeforeMonth_mono a.year hnext
    have hend := ha.inMonth.2
    have hstart := hb.inMonth.1
    rw [← hyear] at hstart
    omega
  · have hfirst := ha.day.1
    rw [dayNumber_eq, dayNumber_eq, hyear, hmonth]
    omega

theorem Date.before_or (a b : Date) : a.Before b ∨ a = b ∨ b.Before a := by
  obtain ⟨year, month, day⟩ := a
  obtain ⟨year', month', day'⟩ := b
  simp only [Date.Before, Date.mk.injEq]
  omega

/-- A later day has a later date. -/
theorem ofDayNumber_before {m n : Nat} (h : m < n) : (ofDayNumber m).Before (ofDayNumber n) := by
  have hm := dayNumber_ofDayNumber m
  have hn := dayNumber_ofDayNumber n
  rcases Date.before_or (ofDayNumber m) (ofDayNumber n) with hbefore | hsame | hafter
  · exact hbefore
  · rw [hsame] at hm
    omega
  · have := hafter.dayNumber_lt (ofDayNumber_isDate n) (ofDayNumber_isDate m)
    omega

/-- A date is the one that its number names. -/
theorem Date.IsDate.ofDayNumber_dayNumber {d : Date} (h : d.IsDate) :
    ofDayNumber (dayNumber d) = d := by
  have hdate := ofDayNumber_isDate (dayNumber d)
  have hnumber := dayNumber_ofDayNumber (dayNumber d)
  rcases Date.before_or (ofDayNumber (dayNumber d)) d with hbefore | hsame | hafter
  · have := hbefore.dayNumber_lt hdate h
    omega
  · exact hsame
  · have := hafter.dayNumber_lt h hdate
    omega

end FeeWatch.Calendar
