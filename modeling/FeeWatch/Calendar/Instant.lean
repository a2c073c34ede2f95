import FeeWatch.Calendar.Civil
import FeeWatch.Text.Digit

/-! Instants of universal time, to the microsecond.

An instant counts microseconds since the first moment of the year 1 and stays
before the year 10000. Its text has a fixed shape, `YYYY-MM-DDTHH:MM:SS.ffffffZ`,
so texts and instants have the same order. -/
namespace FeeWatch.Calendar

def second : Nat := 1000000

def day : Nat := 86400 * second

/-- The microseconds of the years 1 to 9999. -/
def Instant.limit : Nat := 315537897600 * second

/-- An instant of the years 1 to 9999. -/
structure Instant where
  /-- Microseconds since the first moment of the year 1. -/
  ticks : Nat
  inRange : ticks < Instant.limit
deriving DecidableEq, Repr

namespace Instant

def earliest : Instant := ⟨0, by decide⟩

instance : Inhabited Instant := ⟨earliest⟩

instance : LT Instant := ⟨fun a b => a.ticks < b.ticks⟩

instance : LE Instant := ⟨fun a b => a.ticks ≤ b.ticks⟩

instance (a b : Instant) : Decidable (a < b) := inferInstanceAs (Decidable (a.ticks < b.ticks))

instance (a b : Instant) : Decidable (a ≤ b) := inferInstanceAs (Decidable (a.ticks ≤ b.ticks))

/-- The instant at a count of microseconds, if it lies in the years 1 to 9999. -/
def ofTicks? (n : Int) : Option Instant :=
  if h : 0 ≤ n ∧ n < limit then some ⟨n.toNat, by omega⟩ else none

def since (later earlier : Instant) : Int := (later.ticks : Int) - earlier.ticks

@[ext] theorem ext {a b : Instant} (h : a.ticks = b.ticks) : a = b := by
  cases a; cases b; simp_all

theorem lt_iff {a b : Instant} : a < b ↔ a.ticks < b.ticks := Iff.rfl

theorem le_iff {a b : Instant} : a ≤ b ↔ a.ticks ≤ b.ticks := Iff.rfl

theorem ofTicks?_eq_some {n : Int} {a : Instant} : ofTicks? n = some a ↔ n = a.ticks := by
  have := a.inRange
  unfold ofTicks?
  constructor
  · intro h
    split at h
    · cases h; simp; omega
    · simp at h
  · rintro rfl
    rw [dif_pos ⟨by omega, by omega⟩]
    rfl

/-! ### Text -/

/-- A number in a fixed count of decimal digits. -/
def padded : Nat → Nat → List Char
  | 0, _ => []
  | width + 1, n => padded width (n / 10) ++ [Char.ofNat (0x30 + n % 10)]

/-- A date as `YYYY-MM-DD`. -/
def dateText (d : Date) : List Char :=
  padded 4 d.year ++ '-' :: padded 2 d.month ++ '-' :: padded 2 d.day

/-- Microseconds of a day as `HH:MM:SS.ffffff`. -/
def clockText (n : Nat) : List Char :=
  let s := n / second
  padded 2 (s / 3600) ++ ':' :: padded 2 (s / 60 % 60) ++ ':' :: padded 2 (s % 60) ++
    '.' :: padded 6 (n % second)

def text (a : Instant) : String :=
  String.ofList
    (dateText (ofDayNumber (a.ticks / day)) ++ 'T' :: clockText (a.ticks % day) ++ ['Z'])

end Instant
end FeeWatch.Calendar
