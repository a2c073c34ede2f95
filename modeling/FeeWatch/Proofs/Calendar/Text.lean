import FeeWatch.Calendar.Reading
import FeeWatch.Proofs.Calendar.Civil

/-! Instants and their texts name each other.

Reading the text of an instant gives the instant back (`readInstant_text`), and of two
instants the earlier one has the lesser text (`text_lt_text_iff`), so a history that
compares times as texts compares instants. Both go through the fields of a text: a
field of fixed width reads back its number (`readDigits_padded`) and orders whatever
follows it (`padded_append_lt`). -/
namespace FeeWatch.Calendar

open Instant (padded dateText clockText)

/-! ### Fields -/

theorem isDigit_digit : ∀ d < 10, (Char.ofNat (0x30 + d)).isDigit = true := by decide

theorem digit_digit : ∀ d < 10, Text.digit (Char.ofNat (0x30 + d)) = d := by decide

theorem digit_lt_digit : ∀ a < 10, ∀ b < a, Char.ofNat (0x30 + b) < Char.ofNat (0x30 + a) := by
  decide

theorem length_padded (width n : Nat) : (padded width n).length = width := by
  induction width generalizing n with
  | zero => rfl
  | succ width ih => rw [padded, List.length_append, ih, List.length_singleton]

theorem isDigit_of_mem_padded {width n : Nat} {c : Char} (h : c ∈ padded width n) :
    c.isDigit = true := by
  induction width generalizing n with
  | zero => cases h
  | succ width ih =>
    rcases List.mem_append.mp h with hfront | hlast
    · exact ih hfront
    · rw [List.mem_singleton.mp hlast]
      exact isDigit_digit _ (Nat.mod_lt n (by decide))

/-- Digits are read in two runs as in one. -/
theorem readDigits_add (first second n : Nat) (cs : List Char) :
    readDigits (first + second) n cs =
      (readDigits first n cs).bind fun (n, rest) => readDigits second n rest := by
  induction first generalizing n cs with
  | zero => rw [Nat.zero_add, readDigits, Option.bind_some]
  | succ first ih =>
    rw [Nat.succ_add]
    cases cs with
    | nil => rfl
    | cons c cs =>
      by_cases hc : c.isDigit = true
      · rw [readDigits, readDigits, if_pos hc, if_pos hc, ih]
      · rw [readDigits, readDigits, if_neg hc, if_neg hc, Option.bind_none]

/-- A field reads back its number. -/
theorem readDigits_padded {width n : Nat} (h : n < 10 ^ width) (m : Nat) (rest : List Char) :
    readDigits width m (padded width n ++ rest) = some (m * 10 ^ width + n, rest) := by
  induction width generalizing n rest with
  | zero =>
    have hn : n = 0 := by simpa using h
    simp [readDigits, padded, hn]
  | succ width ih =>
    have hfront : n / 10 < 10 ^ width := by
      rw [Nat.pow_succ] at h
      omega
    have hlast : n % 10 < 10 := Nat.mod_lt n (by decide)
    rw [padded, List.append_assoc, List.singleton_append, readDigits_add, ih hfront,
      Option.bind_some]
    simp only [readDigits, isDigit_digit _ hlast, if_true, digit_digit _ hlast]
    rw [Nat.pow_succ]
    congr 2
    generalize 10 ^ width = k
    rw [Nat.add_mul, Nat.mul_assoc]
    omega

/-- A field orders the texts that start with it, whatever follows. -/
theorem padded_append_lt {width m n : Nat} (h : m < n) (hn : n < 10 ^ width)
    (s t : List Char) : padded width m ++ s < padded width n ++ t := by
  induction width generalizing m n s t with
  | zero =>
    have hzero : n = 0 := by simpa using hn
    omega
  | succ width ih =>
    rw [Nat.pow_succ] at hn
    rw [padded, padded, List.append_assoc, List.append_assoc, List.singleton_append,
      List.singleton_append]
    by_cases hfront : m / 10 < n / 10
    · exact ih hfront (by omega) _ _
    · have hsame : m / 10 = n / 10 := by omega
      have hlast : m % 10 < n % 10 := by omega
      rw [hsame]
      exact List.append_left_lt (List.cons_lt_cons_iff.mpr
        (.inl (digit_lt_digit _ (Nat.mod_lt n (by decide)) _ hlast)))

/-! ### Dates -/

theorem length_dateText (d : Date) : (dateText d).length = 10 := by
  simp only [dateText, List.length_append, List.length_cons, length_padded]

/-- The text of a date, mark by mark. -/
theorem dateText_append (d : Date) (rest : List Char) :
    dateText d ++ rest =
      padded 4 d.year ++ '-' :: (padded 2 d.month ++ '-' :: (padded 2 d.day ++ rest)) := by
  simp only [dateText, List.append_assoc, List.cons_append]

/-- The month of a date is no week, which has a mark of its own. -/
theorem dateText_month (d : Date) :
    ∃ c rest, padded 2 d.month = c :: rest ∧ c ≠ 'W' := by
  have hlength := length_padded 2 d.month
  cases hmonth : padded 2 d.month with
  | nil => simp [hmonth] at hlength
  | cons c rest =>
    refine ⟨c, rest, rfl, fun hmark => ?_⟩
    have hdigit : c.isDigit = true := isDigit_of_mem_padded (hmonth ▸ List.mem_cons_self)
    rw [hmark] at hdigit
    exact absurd hdigit (by decide)

theorem dateLength_dateText (d : Date) (rest : List Char) :
    dateLength (dateText d ++ rest) = 10 := by
  obtain ⟨c, month, hmonth, hmark⟩ := dateText_month d
  have hlong : (dateText d ++ rest).length ≠ 7 := by
    rw [List.length_append, length_dateText]
    omega
  have hhyphen : (dateText d ++ rest)[4]? = some '-' := by
    rw [dateText_append, List.getElem?_append_right (Nat.le_of_eq (length_padded ..)), length_padded]
    rfl
  have hplain : (dateText d ++ rest)[5]? = some c := by
    rw [dateText_append, List.getElem?_append_right (by rw [length_padded]; decide), length_padded,
      hmonth]
    rfl
  rw [dateLength, if_neg hlong, if_pos hhyphen, hplain, if_neg (fun h => hmark (Option.some.inj h))]

theorem readDate_dateText {d : Date} (hyear : d.year < 10 ^ 4) (hmonth : d.month < 10 ^ 2)
    (hday : d.day < 10 ^ 2) : readDate (dateText d) = some d := by
  obtain ⟨c, month, hcons, hmark⟩ := dateText_month d
  have htext := dateText_append d []
  rw [List.append_nil, List.append_nil] at htext
  have hrest (hyphen : List Char) : readDigits 2 0 (c :: (month ++ hyphen)) =
      some (d.month, hyphen) := by
    rw [← List.cons_append, ← hcons, readDigits_padded hmonth, Nat.zero_mul, Nat.zero_add]
  have hlast : readDigits 2 0 (padded 2 d.day) = some (d.day, []) := by
    have hread := readDigits_padded hday 0 []
    rwa [List.append_nil, Nat.zero_mul, Nat.zero_add] at hread
  rw [htext, readDate, readDigits_padded hyear, hcons, Nat.zero_mul, Nat.zero_add]
  simp only [Option.bind_eq_bind, Option.bind_some, List.cons_append]
  split
  · rename_i hweek
    exact absurd (List.cons.inj hweek).1 hmark
  · simp [hrest, hlast, readHyphen]

/-! ### Times -/

/-- Whether a time of day is one of a clock. -/
structure Clock.IsClock (c : Clock) : Prop where
  hour : c.hour < 24
  minute : c.minute < 60
  second : c.second < 60
  micros : c.micros < Calendar.second

/-- The microseconds of a day that have gone by at a time of day. -/
def Clock.ticks (c : Clock) : Nat :=
  (c.hour * 3600 + c.minute * 60 + c.second) * Calendar.second + c.micros

/-- The fields of a time of day. -/
def timeOf (n : Nat) : Clock :=
  ⟨n / second / 3600, n / second / 60 % 60, n / second % 60, n % second⟩

/-- The text of a time of day, mark by mark. -/
theorem clockText_eq (n : Nat) :
    clockText n = padded 2 (timeOf n).hour ++ ':' :: (padded 2 (timeOf n).minute ++ ':' ::
      (padded 2 (timeOf n).second ++ '.' :: padded 6 (timeOf n).micros)) := by
  simp only [clockText, timeOf, List.append_assoc, List.cons_append]

theorem timeOf_hour_lt {n : Nat} (h : n < day) : (timeOf n).hour < 24 := by
  rw [timeOf, Nat.div_div_eq_div_mul]
  exact Nat.div_lt_of_lt_mul h

theorem timeOf_minute_lt (n : Nat) : (timeOf n).minute < 60 := Nat.mod_lt _ (by decide)

theorem timeOf_second_lt (n : Nat) : (timeOf n).second < 60 := Nat.mod_lt _ (by decide)

theorem timeOf_micros_lt (n : Nat) : (timeOf n).micros < second := Nat.mod_lt _ (by decide)

theorem timeOf_isClock {n : Nat} (h : n < day) : (timeOf n).IsClock :=
  ⟨timeOf_hour_lt h, timeOf_minute_lt n, timeOf_second_lt n, timeOf_micros_lt n⟩

/-- The fields of a time of day come to it. -/
theorem timeOf_ticks (n : Nat) : (timeOf n).ticks = n := by
  have hseconds : n / second / 3600 * 3600 + n / second / 60 % 60 * 60 + n / second % 60 =
      n / second := by omega
  rw [Clock.ticks, timeOf, hseconds]
  exact Nat.div_add_mod' n second

theorem Clock.IsClock.ticks_lt {c : Clock} (h : c.IsClock) : c.ticks < day := by
  obtain ⟨hhour, hminute, hsecond, hmicros⟩ := h
  unfold Clock.ticks day Calendar.second at *
  omega

theorem Clock.IsClock.timeOf_ticks {c : Clock} (h : c.IsClock) : timeOf c.ticks = c := by
  obtain ⟨hour, minute, second, micros⟩ := c
  obtain ⟨hhour, hminute, hsecond, hmicros⟩ := h
  unfold timeOf Clock.ticks Calendar.second at *
  simp only [Clock.mk.injEq] at *
  omega

/-- A field before a colon is read, whatever is left to be read. -/
theorem readFields_colon {n left : Nat} {colons : Option Bool} (h : n < 10 ^ 2)
    (hcolons : colons.getD true = true) (after : Option Char) (fields : List Nat)
    {rest : List Char} (hrest : rest ≠ []) :
    readFields after (left + 1) colons fields (padded 2 n ++ ':' :: rest) =
      readFields after left (some true) (fields ++ [n]) rest := by
  rw [readFields, readDigits_padded h, Nat.zero_mul, Nat.zero_add]
  simp [hcolons, hrest]

/-- A field before a point is read, and then the fraction. -/
theorem readFields_point {n left : Nat} (h : n < 10 ^ 2) (after : Option Char) (fields : List Nat)
    {rest : List Char} (hrest : rest ≠ []) :
    readFields after (left + 1) (some true) fields (padded 2 n ++ '.' :: rest) =
      readFraction (fields ++ [n]) after rest := by
  rw [readFields, readDigits_padded h, Nat.zero_mul, Nat.zero_add]
  simp [hrest]

theorem readFraction_padded {n : Nat} (h : n < 10 ^ 6) (after : Option Char) (fields : List Nat) :
    readFraction fields after (padded 6 n) =
      some (Clock.ofFields fields n, leftover after) := by
  have hread := readDigits_padded h 0 []
  rw [List.append_nil, Nat.zero_mul, Nat.zero_add] at hread
  rw [readFraction, length_padded]
  simp [hread, Number.tenTo]

theorem readClock_clockText {n : Nat} (h : n < day) (after : Option Char) :
    readClock (clockText n) after = some (timeOf n, leftover after) := by
  have hhour := timeOf_hour_lt h
  have hminute := timeOf_minute_lt n
  have hsecond := timeOf_second_lt n
  have hmicros := timeOf_micros_lt n
  have hnonempty : padded 6 (timeOf n).micros ≠ [] := List.ne_nil_of_length_eq_add_one
    (length_padded 6 _)
  rw [clockText_eq, readClock, readFields_colon (by omega) rfl _ _ (by simp),
    readFields_colon (by omega) rfl _ _ (by simp),
    readFields_point (by omega) _ _ hnonempty, readFraction_padded hmicros]
  rfl

/-- The offset that stands for universal time. -/
def zero : List Char := ['+', '0', '0', ':', '0', '0']

/-- No mark of an offset stands in a time of day. -/
theorem clockText_unmarked (n : Nat) :
    ∀ c ∈ clockText n, (c != '+' && c != '-' && c != 'Z') = true := by
  have hdigit : ∀ c : Char, c.isDigit = true → (c != '+' && c != '-' && c != 'Z') = true := by
    intro c hc
    simp only [Bool.and_eq_true, bne_iff_ne]
    refine ⟨⟨?_, ?_⟩, ?_⟩ <;> (rintro rfl; exact absurd hc (by decide))
  intro c hc
  rw [clockText_eq] at hc
  simp only [List.mem_append, List.mem_cons] at hc
  rcases hc with hc | rfl | hc | rfl | hc | rfl | hc
  all_goals first | exact hdigit c (isDigit_of_mem_padded hc) | decide

theorem readTime_clockText {n : Nat} (h : n < day) :
    readTime (clockText n ++ zero) = some (timeOf n, 0) := by
  have htime : (clockText n ++ zero).takeWhile (fun c => c != '+' && c != '-' && c != 'Z') =
      clockText n := by
    rw [List.takeWhile_append_of_pos (clockText_unmarked n)]
    exact List.append_nil _
  have hoffset : readClock ['0', '0', ':', '0', '0'] none = some (⟨0, 0, 0, 0⟩, false) := by decide
  rw [readTime]
  dsimp only
  rw [htime, List.drop_left]
  simp [zero, readClock_clockText h, hoffset, offsetTicks]

/-! ### Instants -/

theorem ofDayNumber_year {n : Nat} (h : n * day < Instant.limit) : (ofDayNumber n).year ≤ 9999 := by
  have hdays : n < daysBeforeYear 10000 := by
    have hlimit : Instant.limit = daysBeforeYear 10000 * day := by decide
    rw [hlimit] at h
    exact Nat.lt_of_mul_lt_mul_right h
  have hyear := (ofDayNumber_isDate n).inYear.1
  rw [dayNumber_ofDayNumber] at hyear
  rcases Nat.lt_or_ge 9999 (ofDayNumber n).year with hlate | hyears
  · have hmono : daysBeforeYear 10000 ≤ daysBeforeYear (ofDayNumber n).year :=
      daysBeforeYear_mono (by decide) hlate
    omega
  · exact hyears

theorem monthLength_le (year month : Nat) : monthLength year month ≤ 31 := by
  have hlengths : ∀ leap, ∀ length ∈ monthLengths leap, length ≤ 31 := by decide
  unfold monthLength
  split
  · exact Nat.zero_le 31
  · cases hlength : (monthLengths (isLeap year))[month - 1]? with
    | none => exact Nat.zero_le 31
    | some length => exact hlengths _ length (List.mem_of_getElem? hlength)

namespace Instant

/-- The number of an instant's day. -/
def days (a : Instant) : Nat := a.ticks / day

def date (a : Instant) : Date := ofDayNumber a.days

/-- The microseconds of an instant's day that have gone by. -/
def clock (a : Instant) : Nat := a.ticks % day

theorem clock_lt (a : Instant) : a.clock < day := Nat.mod_lt _ (by decide)

theorem days_ticks (a : Instant) : a.days * day + a.clock = a.ticks := Nat.div_add_mod' a.ticks day

theorem date_isDate (a : Instant) : a.date.IsDate := ofDayNumber_isDate a.days

theorem date_year_le (a : Instant) : a.date.year ≤ 9999 := by
  have hrange := a.inRange
  have hticks := a.days_ticks
  exact ofDayNumber_year (by omega)

theorem date_month_lt (a : Instant) : a.date.month < 10 ^ 2 := by
  have := a.date_isDate.month
  omega

theorem date_day_lt (a : Instant) : a.date.day < 10 ^ 2 := by
  have hday := a.date_isDate.day.2
  have hmonth := monthLength_le a.date.year a.date.month
  omega

theorem toList_text (a : Instant) :
    a.text.toList = dateText a.date ++ 'T' :: (clockText a.clock ++ ['Z']) := by
  simp only [text, date, days, clock, String.toList_ofList, List.append_assoc, List.cons_append]

end Instant

/-- What a date and a time of day on a clock with an offset come to. -/
theorem assemble_eq_ok {d : Date} {c : Clock} {offset : Int} {a : Instant} (hd : d.IsDate)
    (hyear : d.year ≤ 9999) (hc : c.IsClock) (hoffset : offset.natAbs < day) :
    assemble d c offset = .ok a ↔ (dayNumber d * day + c.ticks : Nat) - offset = a.ticks := by
  obtain ⟨hfirst, hmonth, hday⟩ := hd
  obtain ⟨hhour, hminute, hsecond, hmicros⟩ := hc
  have hnear : ¬ (day : Int) ≤ offset.natAbs := by omega
  have hticks : dayNumber d * day + (c.hour * 3600 + c.minute * 60 + c.second) * second +
      c.micros = dayNumber d * day + c.ticks := Nat.add_assoc _ _ _
  rw [assemble, if_neg hnear, if_neg (by omega), if_neg (by omega), if_neg (by omega),
    if_neg (by omega), if_neg (by omega), if_neg (by omega)]
  dsimp only
  rw [hticks, ← Instant.ofTicks?_eq_some]
  cases Instant.ofTicks? _ <;> simp

/-- The parts of an instant come to it. -/
theorem assemble_date (a : Instant) : assemble a.date (timeOf a.clock) 0 = .ok a := by
  rw [assemble_eq_ok a.date_isDate a.date_year_le (timeOf_isClock a.clock_lt) (by decide),
    timeOf_ticks, Instant.date, dayNumber_ofDayNumber, Instant.days_ticks, Int.sub_zero]

/-- **The text of an instant is read back as the instant.** -/
theorem readInstant_text (a : Instant) : readInstant a.text = .ok a := by
  have hzone : plainZone a.text.toList = dateText a.date ++ 'T' :: (clockText a.clock ++ zero) := by
    have hlast : a.text.toList = (dateText a.date ++ 'T' :: clockText a.clock) ++ ['Z'] := by
      rw [a.toList_text, List.append_assoc, List.cons_append]
    rw [plainZone, hlast, List.getLast?_concat, if_pos rfl, List.dropLast_concat,
      List.append_assoc, List.cons_append, zero]
  have hdate : readDate (dateText a.date) = some a.date :=
    readDate_dateText (Nat.lt_succ_of_le a.date_year_le) a.date_month_lt a.date_day_lt
  have hparts : readParts (dateText a.date ++ 'T' :: (clockText a.clock ++ zero)) =
      some (a.date, timeOf a.clock, 0) := by
    rw [readParts]
    dsimp only
    rw [dateLength_dateText, List.take_left' (length_dateText _), List.drop_left' (length_dateText _),
      hdate]
    simp [readTime_clockText a.clock_lt]
  rw [readInstant]
  rw [hzone, hparts]
  exact assemble_date a

/-! ### Order -/

/-- What a number leaves decides between numbers of one quotient. -/
theorem lt_div_mod {m n k : Nat} (h : m < n) : m / k < n / k ∨ m / k = n / k ∧ m % k < n % k := by
  rcases Nat.lt_or_ge (m / k) (n / k) with hless | hge
  · exact .inl hless
  · have hsame : m / k = n / k := Nat.le_antisymm (Nat.div_le_div_right (Nat.le_of_lt h)) hge
    have hm := Nat.div_add_mod m k
    have hn := Nat.div_add_mod n k
    rw [hsame] at hm
    exact .inr ⟨hsame, by omega⟩

/-- A field orders texts by its number, and by what follows where the numbers are the same. -/
theorem padded_lt {width m n : Nat} (hn : n < 10 ^ width) {s t : List Char} (mark : Char)
    (h : m < n ∨ m = n ∧ s < t) :
    padded width m ++ mark :: s < padded width n ++ mark :: t := by
  rcases h with hless | ⟨rfl, hrest⟩
  · exact padded_append_lt hless hn _ _
  · exact List.append_left_lt (List.cons_lt_cons_iff.mpr (.inr ⟨rfl, hrest⟩))

/-- An earlier date has a lesser text, whatever follows. -/
theorem dateText_lt {a b : Date} (h : a.Before b) (hyear : b.year < 10 ^ 4)
    (hmonth : b.month < 10 ^ 2) (hday : b.day < 10 ^ 2) (s t : List Char) :
    dateText a ++ s < dateText b ++ t := by
  rw [dateText_append, dateText_append]
  refine padded_lt hyear '-' (h.imp_right fun ⟨hsame, h⟩ => ⟨hsame, ?_⟩)
  refine padded_lt hmonth '-' (h.imp_right fun ⟨hsame, h⟩ => ⟨hsame, ?_⟩)
  exact padded_append_lt h hday s t

/-- An earlier time of day has a lesser text, whatever follows. -/
theorem clockText_lt {m n : Nat} (h : m < n) (hn : n < day) (s t : List Char) :
    clockText m ++ s < clockText n ++ t := by
  have hhour := timeOf_hour_lt hn
  have hminute := timeOf_minute_lt n
  have hsecond := timeOf_second_lt n
  have hmicros := timeOf_micros_lt n
  have hfields : (timeOf m).hour < (timeOf n).hour ∨ (timeOf m).hour = (timeOf n).hour ∧
      ((timeOf m).minute < (timeOf n).minute ∨ (timeOf m).minute = (timeOf n).minute ∧
        ((timeOf m).second < (timeOf n).second ∨ (timeOf m).second = (timeOf n).second ∧
          (timeOf m).micros < (timeOf n).micros)) := by
    have hearlier := timeOf_ticks m
    have hlater := timeOf_ticks n
    have hminute' := timeOf_minute_lt m
    have hsecond' := timeOf_second_lt m
    have hmicros' := timeOf_micros_lt m
    generalize timeOf m = a at *
    generalize timeOf n = b at *
    unfold Clock.ticks second at *
    omega
  rw [clockText_eq, clockText_eq]
  simp only [List.append_assoc, List.cons_append]
  refine padded_lt (by omega) ':' (hfields.imp_right fun ⟨hsame, h⟩ => ⟨hsame, ?_⟩)
  refine padded_lt (by omega) ':' (h.imp_right fun ⟨hsame, h⟩ => ⟨hsame, ?_⟩)
  refine padded_lt (by omega) '.' (h.imp_right fun ⟨hsame, h⟩ => ⟨hsame, ?_⟩)
  exact padded_append_lt h hmicros s t

theorem text_lt_text {a b : Instant} (h : a < b) : a.text < b.text := by
  rw [String.lt_iff, a.toList_text, b.toList_text]
  rcases lt_div_mod (k := day) h with hday | ⟨hday, hclock⟩
  · exact dateText_lt (ofDayNumber_before hday) (Nat.lt_succ_of_le b.date_year_le)
      b.date_month_lt b.date_day_lt _ _
  · have hdate : a.date = b.date := congrArg ofDayNumber hday
    rw [hdate]
    exact List.append_left_lt (List.cons_lt_cons_iff.mpr
      (.inr ⟨rfl, clockText_lt hclock b.clock_lt _ _⟩))

/-- **Texts of instants have the order of the instants.** -/
theorem text_lt_text_iff {a b : Instant} : a.text < b.text ↔ a < b := by
  refine ⟨fun h => ?_, text_lt_text⟩
  rcases Nat.lt_trichotomy a.ticks b.ticks with hless | hsame | hgreater
  · exact hless
  · rw [Instant.ext hsame] at h
    exact absurd h (String.lt_irrefl _)
  · exact absurd h (String.lt_asymm (text_lt_text hgreater))

end FeeWatch.Calendar
