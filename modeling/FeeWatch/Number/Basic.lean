import FeeWatch.Number.Shortest

/-! Numbers as settings give them: whole numbers of any size, or doubles. -/
namespace FeeWatch

/-- A whole number or a double. -/
inductive Number where
  | int (n : Int)
  | float (x : Number.Binary)
deriving DecidableEq, Repr, Inhabited

namespace Number

instance (n : Nat) : OfNat Number n := ⟨.int n⟩

/-- Whether a whole number lies within 64 bits. -/
def fitsWord (n : Int) : Bool := -(twoTo 63 : Int) ≤ n && n < (twoTo 63 : Int)

/-- The text of a number: whole numbers in decimal, doubles by their shortest text. -/
def text : Number → String
  | .int n => toString n
  | .float x => x.text

/-- The exact order of a whole number and a double. -/
def compareIntFloat (n : Int) : Binary → Option Ordering
  | .nan => none
  | .infinite s => some (if s then .gt else .lt)
  | .finite s m e => some (Binary.compareDyadic n 0 (Binary.signed s m) e)

/-- The exact order of two numbers; nothing compares with `nan`. -/
def compare? : Number → Number → Option Ordering
  | .int a, .int b => some (compare a b)
  | .int a, .float y => compareIntFloat a y
  | .float x, .int b => (compareIntFloat b x).map Ordering.swap
  | .float x, .float y => Binary.compare? x y

/-- Whether one number is less than another; false beside `nan`. -/
def lt (a b : Number) : Bool := compare? a b == some .lt

/-- Whether one number is at most another; false beside `nan`. -/
def le (a b : Number) : Bool :=
  match compare? a b with
  | some .lt => true
  | some .eq => true
  | _ => false

@[simp] theorem lt_int (a b : Int) : lt (.int a) (.int b) = decide (a < b) := by
  simp only [lt, compare?, compare, compareOfLessAndEq]
  by_cases h : a < b
  · simp [h]
  · by_cases h' : a = b <;> simp [h, h']

@[simp] theorem le_int (a b : Int) : le (.int a) (.int b) = decide (a ≤ b) := by
  simp only [le, compare?, compare, compareOfLessAndEq]
  by_cases h : a < b
  · simp [h, Int.le_of_lt h]
  · by_cases h' : a = b
    · simp [h']
    · have : ¬ a ≤ b := fun hle => h' (Int.le_antisymm hle (Int.not_lt.mp h))
      simp [h, h', this]

end Number
end FeeWatch
