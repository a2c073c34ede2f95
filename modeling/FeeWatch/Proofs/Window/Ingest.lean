import FeeWatch.Proofs.Window.Extremes
import FeeWatch.Window.Basic
import Mathlib.Data.List.TakeWhile
import Mathlib.Data.Nat.Find

/-! What an ingest does to a window.

A window is sound (`Sound`) when its tally and its extremes are those of the points
it holds, its sequence numbers increase, and its points are in order of time unless
it is marked as disordered. Entering keeps that (`push_sound`), and so does leaving:
`popWhile_eq` tells what pops from the front, `evictOverCount_eq` and
`evictStale_cases` what the two bounds come to. `ingest_cases` joins them: of the
points in order of arrival the bound on the count keeps the last, and of these the
bound on the age keeps the fresh, whatever the order of times. -/
namespace FeeWatch.Window

open FeeWatch.Calendar (Instant)
open FeeWatch.Fee (Point)

/-! ### Bounds -/

namespace Bounds
variable {β : Type}

/-- Whether the bound on the count allows a number of points. -/
def allows (b : Bounds) (n : Nat) : Bool := b.maxPoints.all fun limit => !Number.lt limit (.int n)

/-- How many of a number of points the bound on the count lets stay: the most that it allows. -/
def room (b : Bounds) (n : Nat) : Nat := Nat.findGreatest (b.allows · = true) n

/-- The last items of a list, as many as the bound on the count lets stay. -/
def newest (b : Bounds) (l : List β) : List β := l.drop (l.length - b.room l.length)

/-- The items before the newest. -/
def surplus (b : Bounds) (l : List β) : List β := l.take (l.length - b.room l.length)

/-- The time before which points are stale beside the newest time, if there is a bound on age. -/
def cutoff? (b : Bounds) (latest : Option Nat) : Option Int :=
  match b.maxAge, latest with
  | some age, some ticks => some (ticks - age)
  | _, _ => none

theorem surplus_append_newest (b : Bounds) (l : List β) : b.surplus l ++ b.newest l = l :=
  List.take_append_drop _ l

theorem newest_sublist (b : Bounds) (l : List β) : (b.newest l).Sublist l := List.drop_sublist _ l

theorem newest_map {γ : Type} (b : Bounds) (f : β → γ) (l : List β) :
    b.newest (l.map f) = (b.newest l).map f := by
  simp [newest]

theorem surplus_map {γ : Type} (b : Bounds) (f : β → γ) (l : List β) :
    b.surplus (l.map f) = (b.surplus l).map f := by
  simp [surplus]

theorem room_le (b : Bounds) (n : Nat) : b.room n ≤ n := Nat.findGreatest_le n

theorem room_none {b : Bounds} (h : b.maxPoints = none) (n : Nat) : b.room n = n :=
  Nat.findGreatest_eq (by simp [allows, h])

theorem newest_cons (b : Bounds) (a : β) (l : List β) :
    b.newest (a :: l) = if b.allows (l.length + 1) then a :: l else b.newest l := by
  have hroom : b.room (l.length + 1) =
      if b.allows (l.length + 1) then l.length + 1 else b.room l.length :=
    Nat.findGreatest_succ l.length
  have hle := b.room_le l.length
  rw [newest, List.length_cons, hroom]
  split
  · simp
  · rw [Nat.succ_sub hle]
    rfl

end Bounds

/-- Whether a point lies before the time from which on points are fresh. -/
def isStale (cutoff : Option Int) (p : Point) : Bool := cutoff.any fun c => (p.time.ticks : Int) < c

/-! ### Windows in step with their points -/

def Held.fee (h : Held) : Int := h.point.fee

/-- Whether a point is not newer than another. -/
def Held.before (a b : Held) : Prop := a.point.time.ticks ≤ b.point.time.ticks

/-- A window with other points and another mark, its aggregates in step with the points. -/
def retain (w : Window) (hs : List Held) (disordered : Bool) : Window :=
  { w with
    held := hs
    tally := .ofList (hs.map Held.fee)
    extremes := .ofList (hs.map Held.entry)
    disordered }

/-- What holds of every window. -/
structure Sound (w : Window) : Prop where
  tally : w.tally = .ofList (w.held.map Held.fee)
  extremes : w.extremes = .ofList (w.held.map Held.entry)
  increasing : w.held.Pairwise fun a b => a.seq < b.seq
  numbered : ∀ h ∈ w.held, h.seq < w.nextSeq
  ordered : w.disordered = false → w.held.Pairwise Held.before

theorem Sound.retain_held {w : Window} (hw : w.Sound) (disordered : Bool) :
    w.retain w.held disordered = { w with disordered } := by
  rw [retain, ← hw.tally, ← hw.extremes]

/-- Points may leave from anywhere. -/
theorem Sound.retain {w : Window} (hw : w.Sound) {hs : List Held} {disordered : Bool}
    (hsub : hs.Sublist w.held) (hordered : disordered = false → hs.Pairwise Held.before) :
    (w.retain hs disordered).Sound where
  tally := rfl
  extremes := rfl
  increasing := hw.increasing.sublist hsub
  numbered h hh := hw.numbered h (hsub.subset hh)
  ordered := hordered

theorem empty_sound (bounds : Bounds) : (empty bounds).Sound :=
  ⟨rfl, rfl, .nil, by simp [empty], fun _ => .nil⟩

theorem clear_sound (w : Window) : w.clear.Sound :=
  ⟨rfl, rfl, .nil, by simp [clear], fun _ => .nil⟩

/-! ### Entering -/

theorem getLast?_before {hs : List Held} (hord : hs.Pairwise Held.before) {p : Point}
    (hlast : (hs.getLast?.any fun h => p.time < h.point.time) = false) :
    ∀ h ∈ hs, h.point.time.ticks ≤ p.time.ticks := by
  induction hs using List.reverseRecOn with
  | nil => simp
  | append_singleton hs l _ =>
    have hl : l.point.time.ticks ≤ p.time.ticks := by
      simpa [Instant.lt_iff] using hlast
    intro h hh
    rcases List.mem_append.mp hh with hh | hh
    · have : h.before l := (List.pairwise_append.mp hord).2.2 h hh l (List.mem_singleton_self l)
      exact Nat.le_trans this hl
    · rw [List.mem_singleton.mp hh]
      exact hl

theorem push_sound {w : Window} (hw : w.Sound) (p : Point) : (w.push p).Sound where
  tally := by
    simp only [push, List.map_append, List.map_cons, List.map_nil, Tally.ofList_append_singleton,
      ← hw.tally]
    rfl
  extremes := by
    simp only [push, List.map_append, List.map_cons, List.map_nil,
      Extremes.ofList_append_singleton, ← hw.extremes]
    rfl
  increasing := by
    refine List.pairwise_append.mpr ⟨hw.increasing, List.pairwise_singleton _ _, ?_⟩
    intro a ha b hb
    rw [List.mem_singleton.mp hb]
    exact hw.numbered a ha
  numbered h hh := by
    rcases List.mem_append.mp hh with hh | hh
    · exact Nat.lt_succ_of_lt (hw.numbered h hh)
    · rw [List.mem_singleton.mp hh]
      exact Nat.lt_succ_self _
  ordered hflag := by
    obtain ⟨hold, hlast⟩ := Bool.or_eq_false_iff.mp hflag
    refine List.pairwise_append.mpr ⟨hw.ordered hold, List.pairwise_singleton _ _, ?_⟩
    intro a ha b hb
    rw [List.mem_singleton.mp hb]
    exact getLast?_before (hw.ordered hold) hlast a ha

theorem foldl_push_sound {w : Window} (hw : w.Sound) (batch : List Point) :
    (batch.foldl push w).Sound := by
  induction batch generalizing w with
  | nil => exact hw
  | cons p rest ih => exact ih (push_sound hw p)

theorem points_foldl_push (w : Window) (batch : List Point) :
    (batch.foldl push w).points = w.points ++ batch := by
  induction batch generalizing w with
  | nil => exact (List.append_nil _).symm
  | cons p rest ih => rw [List.foldl_cons, ih]; simp [points, push]

theorem bounds_foldl_push (w : Window) (batch : List Point) :
    (batch.foldl push w).bounds = w.bounds := by
  induction batch generalizing w with
  | nil => rfl
  | cons p rest ih => exact ih (w.push p)

/-! ### Leaving at the front -/

/-- What stays when the oldest arrivals leave while a test on the window holds. -/
def staying (test : List Held → Held → Bool) : List Held → List Held
  | [] => []
  | h :: rest => if test rest h then staying test rest else h :: rest

/-- The tally never runs empty and the queues lose exactly the entries that leave. -/
theorem popWhile_eq (w : Window) (test : List Held → Held → Bool) (hs : List Held)
    (hinc : hs.Pairwise fun a b => a.seq < b.seq) :
    ∃ left, left ++ staying test hs = hs ∧
      w.popWhile test hs (.ofList (hs.map Held.fee)) (.ofList (hs.map Held.entry)) =
        .ok (left.map Held.point, w.retain (staying test hs) w.disordered) := by
  induction hs with
  | nil => exact ⟨[], rfl, rfl⟩
  | cons h rest ih =>
    obtain ⟨hlt, hinc⟩ := List.pairwise_cons.mp hinc
    rw [staying, popWhile]
    split
    · obtain ⟨left, hsplit, hpop⟩ := ih hinc
      have htally : (Tally.ofList ((h :: rest).map Held.fee)).remove? h.point.fee =
          .ok (.ofList (rest.map Held.fee)) := Tally.remove?_ofList_cons h.fee (rest.map Held.fee)
      have hextremes : (Extremes.ofList ((h :: rest).map Held.entry)).evict h.seq =
          .ofList (rest.map Held.entry) := by
        refine Extremes.evict_ofList_cons h.entry (rest.map Held.entry) fun b hb => ?_
        obtain ⟨a, ha, rfl⟩ := List.mem_map.mp hb
        have := hlt a ha
        simp only [Held.entry, ne_eq]
        omega
      refine ⟨h :: left, by rw [List.cons_append, hsplit], ?_⟩
      rw [htally, hextremes]
      simp only [hpop, List.map_cons]
    · exact ⟨[], rfl, rfl⟩

theorem staying_aged (aged : Held → Bool) (hs : List Held) :
    staying (fun _ h => aged h) hs = hs.dropWhile aged := by
  induction hs with
  | nil => rfl
  | cons h rest ih =>
    rw [staying, List.dropWhile_cons, ih]

theorem staying_newest {b : Bounds} {limit : Number} (hb : b.maxPoints = some limit)
    (hs : List Held) :
    staying (fun rest _ => Number.lt limit (.int (rest.length + 1 : Nat))) hs = b.newest hs := by
  induction hs with
  | nil => rfl
  | cons h rest ih =>
    have hallows : b.allows (rest.length + 1) =
        !Number.lt limit (.int (rest.length + 1 : Nat)) := by
      simp [Bounds.allows, hb]
    rw [staying, Bounds.newest_cons, ih, hallows]
    cases Number.lt limit (.int (rest.length + 1 : Nat)) <;> rfl

/-- The bound on the count keeps the newest points. -/
theorem evictOverCount_eq {w : Window} (hw : w.Sound) :
    w.evictOverCount = .ok ((w.bounds.surplus w.held).map Held.point,
      w.retain (w.bounds.newest w.held) w.disordered) := by
  have hparts := w.bounds.surplus_append_newest w.held
  rw [evictOverCount]
  cases hb : w.bounds.maxPoints with
  | none =>
    have hroom := Bounds.room_none hb w.held.length
    have hnewest : w.bounds.newest w.held = w.held := by simp [Bounds.newest, hroom]
    have hsurplus : w.bounds.surplus w.held = [] := by simp [Bounds.surplus, hroom]
    rw [hnewest, hsurplus, hw.retain_held]
    rfl
  | some limit =>
    obtain ⟨left, hsplit, hpop⟩ := w.popWhile_eq
      (fun rest _ => Number.lt limit (.int (rest.length + 1 : Nat))) w.held hw.increasing
    rw [staying_newest hb] at hsplit hpop
    rw [← hw.tally, ← hw.extremes] at hpop
    have hleft : left = w.bounds.surplus w.held :=
      List.append_cancel_right (hsplit.trans hparts.symm)
    rw [← hleft]
    exact hpop

/-! ### Leaving by age -/

/-- Whether the time from which on points are fresh lies in the calendar, if there is one. -/
def isDated (cutoff : Option Int) : Bool := cutoff.all fun c => (Instant.ofTicks? c).isSome

theorem pairwise_of_isDisordered_eq_false {hs : List Held} (h : isDisordered hs = false) :
    hs.Pairwise Held.before := by
  induction hs with
  | nil => exact .nil
  | cons a rest ih =>
    cases rest with
    | nil => exact List.pairwise_singleton _ _
    | cons b rest =>
      obtain ⟨hab, hrest⟩ := Bool.or_eq_false_iff.mp h
      have hab : a.before b := by simpa [Held.before, Instant.lt_iff] using hab
      refine List.pairwise_cons.mpr ⟨fun c hc => ?_, ih hrest⟩
      rcases List.mem_cons.mp hc with rfl | hc
      · exact hab
      · exact Nat.le_trans hab ((List.pairwise_cons.mp (ih hrest)).1 c hc)

theorem isDisordered_of_pairwise {hs : List Held} (h : hs.Pairwise Held.before) :
    isDisordered hs = false := by
  induction hs with
  | nil => rfl
  | cons a rest ih =>
    cases rest with
    | nil => rfl
    | cons b rest =>
      obtain ⟨hfirst, hrest⟩ := List.pairwise_cons.mp h
      have hab : ¬ b.point.time < a.point.time := Nat.not_lt.mpr (hfirst b List.mem_cons_self)
      rw [isDisordered, ih hrest, Bool.or_false, decide_eq_false hab]

/-- Among points in order of time the stale ones come first. -/
theorem dropWhile_isStale {hs : List Held} (hord : hs.Pairwise Held.before) (cutoff : Option Int) :
    hs.dropWhile (isStale cutoff ·.point) = hs.filter (!isStale cutoff ·.point) := by
  induction hs with
  | nil => rfl
  | cons h rest ih =>
    obtain ⟨hfirst, hord⟩ := List.pairwise_cons.mp hord
    cases hs : isStale cutoff h.point
    · have hrest : ∀ a ∈ rest, (!isStale cutoff a.point) = true := fun a ha => by
        have hle : h.point.time.ticks ≤ a.point.time.ticks := hfirst a ha
        cases cutoff with
        | none => rfl
        | some c =>
          simp only [isStale, Option.any_some, decide_eq_false_iff_not] at hs
          simp only [isStale, Option.any_some, Bool.not_eq_true', decide_eq_false_iff_not]
          omega
      rw [List.dropWhile_cons, List.filter_cons, hs, List.filter_eq_self.mpr hrest]
      rfl
    · rw [List.dropWhile_cons, List.filter_cons, hs]
      exact ih hord

/-- Removing the fees of some points leaves the tally of the others; it never runs empty. -/
theorem removeAll_filter (aged : Held → Bool) (hs : List Held) (total : Int) (count : Nat) :
    removeAll ⟨total + Tally.sum (hs.map Held.fee), count + hs.length⟩
        ((hs.filter aged).map Held.point) =
      .ok ⟨total + Tally.sum ((hs.filter (!aged ·)).map Held.fee),
        count + (hs.filter (!aged ·)).length⟩ := by
  induction hs generalizing total count with
  | nil => rfl
  | cons h rest ih =>
    have hsum : total + Tally.sum ((h :: rest).map Held.fee) =
        total + h.fee + Tally.sum (rest.map Held.fee) := by
      rw [List.map_cons, Tally.sum, Int.add_assoc]
    have hlen : count + (h :: rest).length = count + 1 + rest.length := by
      rw [List.length_cons]
      omega
    cases ha : aged h
    · rw [hsum, hlen, List.filter_cons_of_neg (by simp [ha]), ih, List.filter_cons_of_pos (by simp [ha])]
      simp only [List.map_cons, Tally.sum, List.length_cons]
      congr 2 <;> omega
    · have hne : count + 1 + rest.length ≠ 0 := by omega
      have hfee : total + h.fee + Tally.sum (rest.map Held.fee) - h.point.fee =
          total + Tally.sum (rest.map Held.fee) := by
        simp only [Held.fee]
        omega
      have hcount : count + 1 + rest.length - 1 = count + rest.length := by omega
      rw [hsum, hlen, List.filter_cons_of_pos ha, List.filter_cons_of_neg (by simp [ha]),
        List.map_cons, removeAll, Tally.remove?, if_neg hne, hfee, hcount]
      exact ih total count

/-- A sweep takes the aged points away, wherever they stand, and marks the window anew. -/
theorem sweep_eq {w : Window} (hw : w.Sound) (aged : Held → Bool) :
    w.sweep aged = .ok ((w.held.filter aged).map Held.point,
      w.retain (w.held.filter (!aged ·)) (isDisordered (w.held.filter (!aged ·)))) := by
  cases hstale : (w.held.filter aged).map Held.point with
  | nil =>
    have hnone : ∀ h ∈ w.held, (!aged h) = true := by simpa using hstale
    rw [List.filter_eq_self.mpr hnone, sweep, hstale, hw.retain_held]
    rfl
  | cons p rest =>
    have htally : removeAll w.tally (p :: rest) =
        .ok (.ofList ((w.held.filter (!aged ·)).map Held.fee)) := by
      have := removeAll_filter aged w.held 0 0
      simp only [Int.zero_add, Nat.zero_add, hstale] at this
      rw [hw.tally]
      simpa only [Tally.ofList, List.length_map] using this
    simp only [sweep, hstale, List.isEmpty_cons, Bool.false_eq_true, if_false, htally]
    rfl

/-- What popped from the front was aged, so only what stayed is left to be sorted out. -/
theorem filter_of_popped {aged : Held → Bool} {left hs : List Held}
    (hsplit : left ++ hs.dropWhile aged = hs) :
    hs.filter aged = left ++ (hs.dropWhile aged).filter aged ∧
      hs.filter (!aged ·) = (hs.dropWhile aged).filter (!aged ·) := by
  have hleft : left = hs.takeWhile aged :=
    List.append_cancel_right (hsplit.trans List.takeWhile_append_dropWhile.symm)
  have haged : ∀ h ∈ left, aged h = true := fun h hh => by
    rw [hleft] at hh
    exact List.mem_takeWhile_imp hh
  have hnone : left.filter (!aged ·) = [] :=
    List.filter_eq_nil_iff.mpr fun h hh => by simp [haged h hh]
  constructor
  · calc hs.filter aged = (left ++ hs.dropWhile aged).filter aged := by rw [hsplit]
      _ = left ++ (hs.dropWhile aged).filter aged := by
        rw [List.filter_append, List.filter_eq_self.mpr haged]
  · calc hs.filter (!aged ·) = (left ++ hs.dropWhile aged).filter (!aged ·) := by rw [hsplit]
      _ = (hs.dropWhile aged).filter (!aged ·) := by
        rw [List.filter_append, hnone, List.nil_append]

theorem evictStale_of_unbounded {w : Window}
    (hcutoff : w.bounds.cutoff? (w.latest.map Instant.ticks) = none) :
    w.evictStale = .ok ([], w) := by
  rw [evictStale]
  cases hage : w.bounds.maxAge with
  | none => rfl
  | some age =>
    cases hlatest : w.latest with
    | none => rfl
    | some latest => simp [Bounds.cutoff?, hage, hlatest] at hcutoff

/-- There is a time from which on points are fresh when there is a bound on the age and a point
has arrived. -/
theorem cutoff?_eq_some {w : Window} {cutoff : Int}
    (hcutoff : w.bounds.cutoff? (w.latest.map Instant.ticks) = some cutoff) :
    ∃ age latest, w.bounds.maxAge = some age ∧ w.latest = some latest ∧
      (latest.ticks : Int) - age = cutoff := by
  cases hage : w.bounds.maxAge with
  | none => simp [Bounds.cutoff?, hage] at hcutoff
  | some age =>
    cases hlatest : w.latest with
    | none => simp [Bounds.cutoff?, hage, hlatest] at hcutoff
    | some latest =>
      simp only [Bounds.cutoff?, hage, hlatest, Option.map_some, Option.some.injEq] at hcutoff
      exact ⟨age, latest, rfl, rfl, hcutoff⟩

/-- Stale points leave, whether or not they stand at the front, and the mark then tells whether
those that stay are out of order. -/
theorem evictStale_of_dated {w : Window} (hw : w.Sound) {cutoff : Int} {time : Instant}
    (hcutoff : w.bounds.cutoff? (w.latest.map Instant.ticks) = some cutoff)
    (htime : Instant.ofTicks? cutoff = some time) :
    w.evictStale = .ok ((w.held.filter (isStale cutoff ·.point)).map Held.point,
      w.retain (w.held.filter (!isStale cutoff ·.point))
        (isDisordered (w.held.filter (!isStale cutoff ·.point)))) := by
  have haged : (fun h : Held => decide (h.point.time < time)) = (isStale cutoff ·.point) := by
    funext h
    simp [isStale, Instant.ofTicks?_eq_some.mp htime, Instant.lt_iff]
  obtain ⟨left, hsplit, hpop⟩ := w.popWhile_eq
    (fun _ h => isStale cutoff h.point) w.held hw.increasing
  rw [← hw.tally, ← hw.extremes] at hpop
  rw [staying_aged] at hsplit hpop
  obtain ⟨hstale, hfresh⟩ := filter_of_popped hsplit
  obtain ⟨age, latest, hage, hlatest, hticks⟩ := cutoff?_eq_some hcutoff
  simp only [evictStale, hage, hlatest, hticks, htime]
  rw [haged, hpop, hstale, hfresh]
  cases hmark : w.disordered
  · -- Without the mark the points are in order, so the stale ones were all at the front.
    have hsorted := dropWhile_isStale (hw.ordered hmark) cutoff
    have hnone : (w.held.dropWhile (isStale cutoff ·.point)).filter (isStale cutoff ·.point) = [] := by
      rw [hsorted, List.filter_filter]
      simp
    have hmarked : isDisordered (w.held.dropWhile (isStale cutoff ·.point)) = false :=
      isDisordered_of_pairwise ((hw.ordered hmark).sublist (List.dropWhile_sublist _))
    rw [hnone, ← hfresh, ← hsorted, hmarked, List.append_nil]
    simp [Window.retain]
  · have hpopped : (w.retain (w.held.dropWhile (isStale cutoff ·.point)) true).Sound :=
      hw.retain (List.dropWhile_sublist _) fun h => absurd h (by decide)
    have hsweep := sweep_eq hpopped (isStale cutoff ·.point)
    simp only [Window.retain] at hsweep ⊢
    simp only [if_true, hsweep, List.map_append]

/-- The bound on the age keeps the fresh points, unless it reaches beyond the calendar. -/
theorem evictStale_cases {w : Window} (hw : w.Sound) {cutoff : Option Int}
    (hcutoff : w.bounds.cutoff? (w.latest.map Instant.ticks) = cutoff) :
    (isDated cutoff = false ∧ w.evictStale = .error .outOfRange) ∨
      (isDated cutoff = true ∧ ∃ disordered,
        (disordered = false →
          (w.held.filter (!isStale cutoff ·.point)).Pairwise Held.before) ∧
        w.evictStale = .ok ((w.held.filter (isStale cutoff ·.point)).map Held.point,
          w.retain (w.held.filter (!isStale cutoff ·.point)) disordered)) := by
  cases cutoff with
  | none =>
    have hfresh : w.held.filter (!isStale none ·.point) = w.held :=
      List.filter_eq_self.mpr fun _ _ => rfl
    have hstale : w.held.filter (isStale none ·.point) = [] :=
      List.filter_eq_nil_iff.mpr fun _ _ => by simp [isStale]
    refine .inr ⟨rfl, w.disordered, ?_, ?_⟩
    · rw [hfresh]
      exact hw.ordered
    · rw [evictStale_of_unbounded hcutoff, hfresh, hstale, hw.retain_held]
      rfl
  | some cutoff =>
    cases htime : Instant.ofTicks? cutoff with
    | none =>
      obtain ⟨age, latest, hage, hlatest, hticks⟩ := cutoff?_eq_some hcutoff
      refine .inl ⟨by simp [isDated, htime], ?_⟩
      simp only [evictStale, hage, hlatest, hticks, htime]
    | some time =>
      exact .inr ⟨by simp [isDated, htime], _, pairwise_of_isDisordered_eq_false,
        evictStale_of_dated hw hcutoff htime⟩

/-! ### An ingest -/

/-- What a batch leaves in a window before the bound on the age is enforced. -/
def counted (w : Window) (batch : List Point) : Window :=
  let entered := batch.foldl push w
  entered.retain (w.bounds.newest entered.held) entered.disordered

theorem counted_sound {w : Window} (hw : w.Sound) (batch : List Point) :
    (w.counted batch).Sound := by
  have hentered := foldl_push_sound hw batch
  exact hentered.retain (Bounds.newest_sublist _ _) fun h =>
    (hentered.ordered h).sublist (Bounds.newest_sublist _ _)

theorem points_counted (w : Window) (batch : List Point) :
    (w.counted batch).points = w.bounds.newest (w.points ++ batch) := by
  rw [← points_foldl_push, points, points, Bounds.newest_map]
  rfl

/-- The time from which on points are fresh after a batch. -/
def cutoffAfter (w : Window) (batch : List Point) : Option Int :=
  w.bounds.cutoff? ((batch.foldl push w).latest.map Instant.ticks)

theorem cutoffAfter_eq (w : Window) (batch : List Point) :
    (w.counted batch).bounds.cutoff? ((w.counted batch).latest.map Instant.ticks) =
      w.cutoffAfter batch := by
  rw [cutoffAfter, ← bounds_foldl_push w batch]
  rfl

/-- An ingest enforces the bound on the age where the bound on the count was enforced. -/
theorem ingest_eq {w : Window} (hw : w.Sound) (batch : List Point) :
    w.ingest batch = match (w.counted batch).evictStale with
      | .error f => (.error f, w.counted batch)
      | .ok (more, aged) => (.ok (w.bounds.surplus (w.points ++ batch) ++ more), aged) := by
  have hcount := evictOverCount_eq (foldl_push_sound hw batch)
  have hsurplus : (w.bounds.surplus (batch.foldl push w).held).map Held.point =
      w.bounds.surplus (w.points ++ batch) := by
    rw [← Bounds.surplus_map, ← points_foldl_push, points]
  rw [bounds_foldl_push, hsurplus] at hcount
  simp only [ingest, hcount]
  rfl

/-- **What an ingest does.** Either the bound on the age reaches beyond the calendar and the call
fails after the bound on the count was enforced, or both bounds are enforced. -/
theorem ingest_cases {w : Window} (hw : w.Sound) (batch : List Point) :
    (isDated (w.cutoffAfter batch) = false ∧
      w.ingest batch = (.error .outOfRange, w.counted batch)) ∨
    (isDated (w.cutoffAfter batch) = true ∧ ∃ disordered,
      (disordered = false → ((w.counted batch).held.filter
        (!isStale (w.cutoffAfter batch) ·.point)).Pairwise Held.before) ∧
      w.ingest batch =
        (.ok (w.bounds.surplus (w.points ++ batch) ++
          (w.counted batch).points.filter (isStale (w.cutoffAfter batch))),
        (w.counted batch).retain
          ((w.counted batch).held.filter (!isStale (w.cutoffAfter batch) ·.point)) disordered)) := by
  have hstale : (w.counted batch).points.filter (isStale (w.cutoffAfter batch)) =
      ((w.counted batch).held.filter (isStale (w.cutoffAfter batch) ·.point)).map Held.point :=
    List.filter_map
  rw [ingest_eq hw batch, hstale]
  rcases evictStale_cases (counted_sound hw batch) (cutoffAfter_eq w batch) with
    ⟨hdated, hevict⟩ | ⟨hdated, disordered, hordered, hevict⟩
  · exact .inl ⟨hdated, by rw [hevict]⟩
  · exact .inr ⟨hdated, disordered, hordered, by rw [hevict]⟩

/-- An ingest keeps a window sound, also one that fails. -/
theorem ingest_sound {w : Window} (hw : w.Sound) (batch : List Point) : (w.ingest batch).2.Sound := by
  rcases ingest_cases hw batch with ⟨_, h⟩ | ⟨_, disordered, hordered, h⟩
  · rw [h]
    exact counted_sound hw batch
  · rw [h]
    exact (counted_sound hw batch).retain List.filter_sublist hordered

/-- The newest time covers the batch, whether the ingest returned or not. -/
theorem latest_ingest {w : Window} (hw : w.Sound) (batch : List Point) :
    (w.ingest batch).2.latest = (batch.foldl push w).latest := by
  rcases ingest_cases hw batch with ⟨_, h⟩ | ⟨_, _, _, h⟩ <;> rw [h] <;> rfl

theorem bounds_ingest {w : Window} (hw : w.Sound) (batch : List Point) :
    (w.ingest batch).2.bounds = w.bounds := by
  rw [← bounds_foldl_push w batch]
  rcases ingest_cases hw batch with ⟨_, h⟩ | ⟨_, _, _, h⟩ <;> rw [h] <;> rfl

end FeeWatch.Window
