import FeeWatch.Calendar.Span
import FeeWatch.Fee.Point
import FeeWatch.Setting
import FeeWatch.Window.Extremes
import FeeWatch.Window.Tally

/-! A window of the latest fee points.

Points are held in the order of their arrival and leave by two bounds: a greatest
number of points, and a greatest age beside the newest time that ever arrived.
The count goes first, from the oldest arrival on; then the aged points at the
front go, and where points arrived out of order the aged ones behind newer ones
as well. The tally and the extremes follow every point that enters or leaves. -/
namespace FeeWatch

open FeeWatch.Calendar (Instant)
open FeeWatch.Fee (Point)

namespace Window

structure Bounds where
  /-- The most points that are held. -/
  maxPoints : Option Number
  /-- The greatest age in microseconds. -/
  maxAge : Option Int
deriving DecidableEq, Repr, Inhabited

namespace Bounds

/-- Why there are no such bounds. -/
inductive Fault where
  | setting (f : Setting.Fault)
  | span (f : Calendar.Span.Fault)
  | misfit (m : Datum.Misfit)
deriving DecidableEq, Repr, Inhabited

def Fault.ofRefusal : Setting.Refusal → Fault
  | .fault f => .setting f
  | .misfit m => .misfit m

/-- Bounds as settings give them, the age in seconds, null for none. At least one is needed, and
each that is given must be positive. -/
def make (maxPoints maxAge : Datum) : Except Fault Bounds := do
  if maxPoints.isNull && maxAge.isNull then .error (.setting .noBound)
  if !maxPoints.isNull then
    (Setting.refuseIf (maxPoints.isLess (.int 1)) (.least "window max_points" 1)
      maxPoints).mapError .ofRefusal
  if !maxAge.isNull then
    (Setting.refuseIf (maxAge.isAtMost (.int 0)) (.positive "window max_age_secs")
      maxAge).mapError .ofRefusal
  match maxAge.limit? with
  | none => .ok ⟨maxPoints.limit?, none⟩
  | some seconds =>
    match Calendar.Span.ofSeconds seconds with
    | .ok ticks => .ok ⟨maxPoints.limit?, some ticks⟩
    | .error f => .error (.span f)

end Bounds

/-- A point that is held, with its sequence number. -/
structure Held where
  seq : Nat
  point : Point
deriving DecidableEq, Repr, Inhabited

def Held.entry (h : Held) : Entry := ⟨h.seq, h.point.fee⟩

end Window

/-- A bounded window of points with its aggregates. -/
structure Window where
  bounds : Window.Bounds
  /-- The points that are held, oldest arrival first. -/
  held : List Window.Held
  /-- The sequence number of the next point. -/
  nextSeq : Nat
  /-- The newest time that ever arrived. -/
  latest : Option Instant
  /-- Whether some point may be older than the one before it. -/
  disordered : Bool
  tally : Window.Tally
  extremes : Window.Extremes
deriving Repr, Inhabited

namespace Window

/-- A window without points. -/
def empty (bounds : Bounds) : Window :=
  ⟨bounds, [], 0, none, false, .empty, .empty⟩

/-- The points that are held, oldest arrival first. -/
def points (w : Window) : List Point := w.held.map Held.point

/-- The number of points that are held. -/
def size (w : Window) : Nat := w.held.length

/-- The size and the aggregates of a window as a datum. -/
def report (w : Window) : Datum :=
  .record [("len", .int w.size), ("total", .int w.tally.total), ("average", .int w.tally.average),
    ("min", .int w.extremes.min), ("max", .int w.extremes.max),
    ("latest", .ofText? (w.latest.map Instant.text))]

/-- Why a call did not return. -/
inductive Fault where
  /-- The oldest age that is kept lies outside the years 1 to 9999. -/
  | outOfRange
  | tally (f : Tally.Fault)
deriving DecidableEq, Repr, Inhabited

def Fault.message : Fault → String
  | .outOfRange => Calendar.Fault.message .outOfRange
  | .tally f => f.message

/-! ### Entering -/

/-- The newer of two times. -/
def newer (latest : Option Instant) (time : Instant) : Option Instant :=
  match latest with
  | none => some time
  | some t => if t < time then some time else some t

/-- One point enters at the end. -/
def push (w : Window) (p : Point) : Window :=
  { w with
    held := w.held ++ [⟨w.nextSeq, p⟩]
    nextSeq := w.nextSeq + 1
    latest := newer w.latest p.time
    disordered := w.disordered || (w.held.getLast?.any fun h => p.time < h.point.time)
    tally := w.tally.add p.fee
    extremes := w.extremes.push ⟨w.nextSeq, p.fee⟩ }

/-! ### Leaving -/

/-- The oldest arrivals leave while a test on the window holds. The points that left come with
the window, oldest first. -/
def popWhile (w : Window) (test : List Held → Held → Bool) :
    List Held → Tally → Extremes → Except Fault (List Point × Window)
  | [], tally, extremes => .ok ([], { w with held := [], tally, extremes })
  | h :: rest, tally, extremes =>
    if test rest h then
      match tally.remove? h.point.fee with
      | .error f => .error (.tally f)
      | .ok tally =>
        match w.popWhile test rest tally (extremes.evict h.seq) with
        | .error f => .error f
        | .ok (left, w) => .ok (h.point :: left, w)
    else .ok ([], { w with held := h :: rest, tally, extremes })

/-- The oldest arrivals leave while there are too many points. -/
def evictOverCount (w : Window) : Except Fault (List Point × Window) :=
  match w.bounds.maxPoints with
  | none => .ok ([], w)
  | some limit =>
    w.popWhile (fun rest _ => Number.lt limit (.int (rest.length + 1 : Nat)))
      w.held w.tally w.extremes

/-- Whether some point is older than the one before it. -/
def isDisordered : List Held → Bool
  | a :: b :: rest => b.point.time < a.point.time || isDisordered (b :: rest)
  | _ => false

def removeAll (tally : Tally) : List Point → Except Fault Tally
  | [] => .ok tally
  | p :: rest =>
    match tally.remove? p.fee with
    | .error f => .error (.tally f)
    | .ok tally => removeAll tally rest

/-- Aged points behind newer ones leave; the extremes are built anew. -/
def sweep (w : Window) (aged : Held → Bool) : Except Fault (List Point × Window) :=
  let stale := (w.held.filter aged).map Held.point
  let kept := w.held.filter fun h => !aged h
  if stale.isEmpty then .ok ([], { w with disordered := isDisordered w.held })
  else
    match removeAll w.tally stale with
    | .error f => .error f
    | .ok tally =>
      .ok (stale, { w with
        held := kept, tally
        extremes := .ofList (kept.map Held.entry)
        disordered := isDisordered kept })

/-- Points older than the bound on age leave. -/
def evictStale (w : Window) : Except Fault (List Point × Window) :=
  match w.bounds.maxAge, w.latest with
  | some age, some latest =>
    match Instant.ofTicks? ((latest.ticks : Int) - age) with
    | none => .error .outOfRange
    | some cutoff =>
      let aged (h : Held) : Bool := h.point.time < cutoff
      match w.popWhile (fun _ h => aged h) w.held w.tally w.extremes with
      | .error f => .error f
      | .ok (left, w) =>
        if w.disordered then
          match w.sweep aged with
          | .error f => .error f
          | .ok (more, w) => .ok (left ++ more, w)
        else .ok (left, w)
  | _, _ => .ok ([], w)

/-- Points enter in order, then the bounds are enforced. The points that left come oldest
arrival first; a failure leaves the window as the bound on the count left it. -/
def ingest (w : Window) (batch : List Point) : Except Fault (List Point) × Window :=
  let entered := batch.foldl push w
  match entered.evictOverCount with
  | .error f => (.error f, entered)
  | .ok (left, counted) =>
    match counted.evictStale with
    | .error f => (.error f, counted)
    | .ok (more, aged) => (.ok (left ++ more), aged)

/-- All points leave; sequence numbers go on. -/
def clear (w : Window) : Window :=
  { w with held := [], latest := none, disordered := false, tally := .empty, extremes := .empty }

end Window
end FeeWatch
