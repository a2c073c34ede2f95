import FeeWatch.Datum.Basic

/-! The running sum and count of a window's fees. -/
namespace FeeWatch.Window

/-- A sum of fees and how many there are. -/
structure Tally where
  total : Int
  count : Nat
deriving DecidableEq, Repr

namespace Tally

/-- Why a tally could not change. -/
inductive Fault where
  /-- A fee was to leave an empty tally. -/
  | empty
deriving DecidableEq, Repr, Inhabited

def Fault.message : Fault → String
  | .empty => "cannot remove a fee from an empty window"

def empty : Tally := ⟨0, 0⟩

instance : Inhabited Tally := ⟨empty⟩

/-- A fee enters. -/
def add (t : Tally) (fee : Int) : Tally := ⟨t.total + fee, t.count + 1⟩

/-- A fee leaves. -/
def remove? (t : Tally) (fee : Int) : Except Fault Tally :=
  if t.count = 0 then .error .empty else .ok ⟨t.total - fee, t.count - 1⟩

/-- The average, rounded down; zero when there are no fees. -/
def average (t : Tally) : Int := if t.count = 0 then 0 else t.total.fdiv t.count

/-- The sum, the count and the average as a datum. -/
def report (t : Tally) : Datum :=
  .record [("total", .int t.total), ("count", .int t.count), ("average", .int t.average)]

def sum : List Int → Int
  | [] => 0
  | fee :: rest => fee + sum rest

def ofList (fees : List Int) : Tally := ⟨sum fees, fees.length⟩

@[simp] theorem ofList_nil : ofList [] = empty := rfl

theorem sum_append (a b : List Int) : sum (a ++ b) = sum a + sum b := by
  induction a with
  | nil => simp [sum]
  | cons fee rest ih => simp [sum, ih, Int.add_assoc]

theorem ofList_append_singleton (fees : List Int) (fee : Int) :
    ofList (fees ++ [fee]) = (ofList fees).add fee := by
  simp [ofList, add, sum_append, sum]

theorem remove?_ofList_cons (fee : Int) (fees : List Int) :
    (ofList (fee :: fees)).remove? fee = .ok (ofList fees) := by
  have h : fee + sum fees - fee = sum fees := by omega
  simp only [ofList, remove?, sum, List.length_cons, Nat.add_one_ne_zero, if_false,
    Nat.add_sub_cancel, h]

end Tally
end FeeWatch.Window
