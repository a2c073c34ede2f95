import FeeWatch.Proofs.Calendar.Text
import Mathlib.Data.List.Forall2

/-! Stamps and the texts that are kept of them.

A stamp is a date and a time of day on some clock, which may be ahead of universal time or behind
it. What it comes to is an instant (`universal_eq_ok`), unless that lies outside the years 1 to
9999. The text of the instant has a fixed shape (`text_hasShape`) and is the date and the time of
day that a clock in universal time shows then (`text_eq_shown`). So texts have the order of the
stamps they were made from (`text_order`), and each is read back as its instant. -/
namespace FeeWatch.Calendar

open Instant (padded dateText)

/-- A date and a time of day on a clock. -/
structure Stamp where
  date : Date
  clock : Clock
  /-- By how many microseconds the clock is ahead of universal time; one without an offset shows
  universal time. -/
  offset : Option Int
  isDate : date.IsDate
  year_le : date.year ≤ 9999
  isClock : clock.IsClock
  near : ∀ o ∈ offset, o.natAbs < day

namespace Stamp
variable {m : Stamp} {a : Instant}

/-- By how many microseconds the clock is ahead. -/
def lead (m : Stamp) : Int := m.offset.getD 0

/-- The microseconds of universal time from the first moment of the year 1. -/
def ticks (m : Stamp) : Int := (dayNumber m.date * day + m.clock.ticks : Nat) - m.lead

/-- Whether a stamp lies in the years 1 to 9999 of universal time. -/
def InRange (m : Stamp) : Prop := 0 ≤ m.ticks ∧ m.ticks < Instant.limit

def universal (m : Stamp) : Except Fault Instant := assemble m.date m.clock m.lead

theorem lead_lt (m : Stamp) : m.lead.natAbs < day := by
  unfold lead
  cases hoffset : m.offset with
  | none => decide
  | some o => exact m.near o hoffset

theorem universal_eq_ok : m.universal = .ok a ↔ m.ticks = a.ticks := by
  rw [universal, assemble_eq_ok m.isDate m.year_le m.isClock m.lead_lt, ticks]

/-- A stamp in range has an instant. -/
theorem InRange.universal (h : m.InRange) : ∃ a, m.universal = .ok a := by
  obtain ⟨hstart, hend⟩ := h
  refine ⟨⟨m.ticks.toNat, by omega⟩, universal_eq_ok.mpr ?_⟩
  exact (Int.toNat_of_nonneg hstart).symm

/-- A stamp as its clock shows it. -/
def shown (m : Stamp) : String :=
  String.ofList (dateText m.date ++ 'T' :: (padded 2 m.clock.hour ++ ':' ::
    (padded 2 m.clock.minute ++ ':' :: (padded 2 m.clock.second ++ '.' ::
      (padded 6 m.clock.micros ++ ['Z'])))))

/-- The text of an instant is what a clock in universal time shows. -/
theorem text_eq_shown (hlead : m.lead = 0) (h : m.ticks = a.ticks) : a.text = m.shown := by
  have hticks : dayNumber m.date * day + m.clock.ticks = a.ticks := by
    unfold ticks at h
    omega
  have hless := m.isClock.ticks_lt
  have hdays : a.days = dayNumber m.date := by
    rw [Instant.days, ← hticks, Nat.mul_comm, Nat.mul_add_div (by decide), Nat.div_eq_of_lt hless,
      Nat.add_zero]
  have hclock : a.clock = m.clock.ticks := by
    rw [Instant.clock, ← hticks, Nat.mul_comm, Nat.mul_add_mod, Nat.mod_eq_of_lt hless]
  apply String.toList_injective
  rw [a.toList_text, Instant.date, hdays, m.isDate.ofDayNumber_dayNumber, hclock, clockText_eq,
    m.isClock.timeOf_ticks, shown, String.toList_ofList]
  simp only [List.append_assoc, List.cons_append]

end Stamp

/-! ### The shape of a text -/

/-- The shape of the text of an instant: a zero stands for any digit, other marks for themselves. -/
def shape : List Char := "0000-00-00T00:00:00.000000Z".toList

/-- Whether a character may stand where a shape has a mark. -/
def Fits (mark c : Char) : Prop := if mark = '0' then c.isDigit = true else c = mark

instance (mark c : Char) : Decidable (Fits mark c) :=
  inferInstanceAs (Decidable (if mark = '0' then c.isDigit = true else c = mark))

/-- Whether a text has the shape of the text of an instant. -/
def HasShape (s : String) : Prop := List.Forall₂ Fits shape s.toList

instance (s : String) : Decidable (HasShape s) :=
  inferInstanceAs (Decidable (List.Forall₂ Fits shape s.toList))

/-- A field of digits fits as many zeros. -/
theorem fits_padded (width n : Nat) {marks rest : List Char} (h : List.Forall₂ Fits marks rest) :
    List.Forall₂ Fits (List.replicate width '0' ++ marks) (padded width n ++ rest) := by
  have hdigits : ∀ cs : List Char, (∀ c ∈ cs, c.isDigit = true) →
      List.Forall₂ Fits (List.replicate cs.length '0' ++ marks) (cs ++ rest) := by
    intro cs
    induction cs with
    | nil => exact fun _ => h
    | cons c cs ih =>
      intro hcs
      exact .cons (hcs c List.mem_cons_self) (ih fun d hd => hcs d (List.mem_cons_of_mem c hd))
  have hfield := hdigits (padded width n) fun c hc => isDigit_of_mem_padded hc
  rwa [length_padded] at hfield

theorem fits_mark {mark : Char} (hmark : mark ≠ '0') {marks rest : List Char}
    (h : List.Forall₂ Fits marks rest) : List.Forall₂ Fits (mark :: marks) (mark :: rest) := by
  refine .cons ?_ h
  rw [Fits, if_neg hmark]

theorem text_hasShape (a : Instant) : HasShape a.text := by
  have hshape : shape = List.replicate 4 '0' ++ '-' :: (List.replicate 2 '0' ++ '-' ::
      (List.replicate 2 '0' ++ 'T' :: (List.replicate 2 '0' ++ ':' :: (List.replicate 2 '0' ++
        ':' :: (List.replicate 2 '0' ++ '.' :: (List.replicate 6 '0' ++ ['Z'])))))) := by decide
  rw [HasShape, hshape, a.toList_text, dateText_append, clockText_eq]
  simp only [List.append_assoc, List.cons_append]
  apply fits_padded 4 _ (fits_mark (by decide) _)
  apply fits_padded 2 _ (fits_mark (by decide) _)
  apply fits_padded 2 _ (fits_mark (by decide) _)
  apply fits_padded 2 _ (fits_mark (by decide) _)
  apply fits_padded 2 _ (fits_mark (by decide) _)
  apply fits_padded 2 _ (fits_mark (by decide) _)
  exact fits_padded 6 _ (fits_mark (by decide) .nil)

/-- A text may be read and not have the shape. -/
example : (readInstant "2024-02-29T23:59:59Z").isOk = true ∧ ¬ HasShape "2024-02-29T23:59:59Z" := by
  decide

/-! ### Order -/

theorem text_inj {a b : Instant} : a.text = b.text ↔ a = b := by
  refine ⟨fun h => ?_, congrArg Instant.text⟩
  have hread := readInstant_text a
  rw [h, readInstant_text b] at hread
  exact (Except.ok.inj hread).symm

/-- Texts have the order of the stamps they were made from. -/
theorem text_order {m n : Stamp} {a b : Instant} (ha : m.universal = .ok a)
    (hb : n.universal = .ok b) :
    (a.text < b.text ↔ m.ticks < n.ticks) ∧ (a.text = b.text ↔ m.ticks = n.ticks) := by
  rw [Stamp.universal_eq_ok.mp ha, Stamp.universal_eq_ok.mp hb, text_lt_text_iff, text_inj,
    Instant.lt_iff, Instant.ext_iff]
  exact ⟨Int.ofNat_lt.symm, Int.natCast_inj.symm⟩

/-- What is read and written again is settled: reading and writing it once more changes nothing. -/
theorem text_settled {s u : String} (h : (readInstant s).map Instant.text = .ok u) :
    (readInstant u).map Instant.text = .ok u := by
  cases hread : readInstant s with
  | error f => simp [hread, Except.map] at h
  | ok a =>
    rw [hread] at h
    cases h
    rw [readInstant_text]
    rfl

end FeeWatch.Calendar
