import FeeWatch.Datum.Basic

/-! The least and the greatest fee of a window.

Points enter in the order of their sequence numbers and leave from the oldest on.
Two queues hold the points that can still become an extreme: a point is dropped
once a newer one is at least as low, or as high, for it will leave first. The
fees of the queue of minima therefore increase and those of the queue of maxima
decrease, and the front of each is the extreme. -/
namespace FeeWatch.Window

/-- A point's sequence number and fee. -/
structure Entry where
  seq : Int
  fee : Int
deriving DecidableEq, Repr

def Entry.report (e : Entry) : Datum := .list [.int e.seq, .int e.fee]

/-- The two queues, oldest entry first. -/
structure Extremes where
  mins : List Entry
  maxs : List Entry
deriving DecidableEq, Repr

namespace Extremes

def empty : Extremes := ⟨[], []⟩

instance : Inhabited Extremes := ⟨empty⟩

/-- Drops entries from the back of a queue while a test holds. -/
def dropBack (test : Entry → Bool) (q : List Entry) : List Entry :=
  (q.reverse.dropWhile test).reverse

/-- A point enters; entries that it makes useless leave. -/
def push (x : Extremes) (e : Entry) : Extremes :=
  ⟨dropBack (fun old => e.fee ≤ old.fee) x.mins ++ [e],
    dropBack (fun old => old.fee ≤ e.fee) x.maxs ++ [e]⟩

/-- Drops the front of a queue if it has a sequence number. -/
def dropFront (seq : Int) : List Entry → List Entry
  | [] => []
  | e :: q => if e.seq = seq then q else e :: q

/-- The oldest point leaves. -/
def evict (x : Extremes) (seq : Int) : Extremes := ⟨dropFront seq x.mins, dropFront seq x.maxs⟩

/-- The queues of a list of entries, oldest first. -/
def ofList (entries : List Entry) : Extremes := entries.foldl push empty

/-- The least fee, zero when there are no entries. -/
def min (x : Extremes) : Int := (x.mins.head?.map Entry.fee).getD 0

/-- The greatest fee, zero when there are no entries. -/
def max (x : Extremes) : Int := (x.maxs.head?.map Entry.fee).getD 0

/-- The extremes and the queues as a datum. -/
def report (x : Extremes) : Datum :=
  .record [("min", .int x.min), ("max", .int x.max), ("mins", .list (x.mins.map Entry.report)),
    ("maxs", .list (x.maxs.map Entry.report))]

theorem ofList_append_singleton (entries : List Entry) (e : Entry) :
    ofList (entries ++ [e]) = (ofList entries).push e := by
  simp [ofList]

end Extremes
end FeeWatch.Window
