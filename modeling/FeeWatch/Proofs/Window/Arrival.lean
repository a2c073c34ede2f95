import FeeWatch.Proofs.Window.Batches

/-! The order of arrival.

A window without a bound on the count ends where one ingest of all points at once would have ended,
however they were divided into batches (`ingest_of_ingestAll`). What such an ingest keeps are the
points within the bound on the age of the newest time delivered (`points_delivered`), and that time
does not depend on the order. So `arrival_order_forgotten`: two deliveries of the same points, in
any order and any batches, leave the same points, newest time and aggregates. -/
namespace FeeWatch.Window

open FeeWatch.Calendar (Instant)
open FeeWatch.Fee (Point)

/-! ### Batches one after the other -/

/-- Without a bound on the count, ingests in a row that return come to one ingest of all points. -/
theorem ingest_of_ingestAll {w kept : Window} (hw : w.Sound) (hcount : w.bounds.maxPoints = none)
    {batch : List Point} {rest : List (List Point)} {left : List Point}
    (h : w.ingestAll (batch :: rest) = .ok (left, kept)) :
    ∃ left, w.ingest (batch :: rest).flatten = (.ok left, kept) := by
  induction rest generalizing w batch left with
  | nil =>
    obtain ⟨first, more, hfirst, hnone, _⟩ := ingestAll_cons h
    cases hnone
    refine ⟨first, ?_⟩
    rw [List.flatten_cons, List.flatten_nil, List.append_nil]
    exact Prod.ext hfirst rfl
  | cons next rest ih =>
    obtain ⟨first, more, hfirst, hmore, _⟩ := ingestAll_cons h
    have hbounds := bounds_ingest hw batch
    obtain ⟨second, hsecond⟩ := ih (ingest_sound hw batch) (hbounds ▸ hcount) hmore
    have hone : w.bounds.allows 1 = true := by simp [Bounds.allows, hcount]
    obtain ⟨left, hleft, _⟩ := ingest_append hw hone (Bounds.swaps_of_unlimited hcount _) hfirst
      (congrArg Prod.fst hsecond)
    rw [hsecond] at hleft
    exact ⟨left, hleft⟩

/-- Nothing happens to a new window when nothing arrives. -/
theorem ingest_nil_empty (bounds : Bounds) : (empty bounds).ingest [] = (.ok [], empty bounds) := by
  obtain ⟨maxPoints, maxAge⟩ := bounds
  cases maxPoints <;> cases maxAge <;> rfl

theorem ingest_of_ingestAll_empty {bounds : Bounds} (hcount : bounds.maxPoints = none)
    {batches : List (List Point)} {left : List Point} {kept : Window}
    (h : (empty bounds).ingestAll batches = .ok (left, kept)) :
    ∃ left, (empty bounds).ingest batches.flatten = (.ok left, kept) := by
  cases batches with
  | nil =>
    cases h
    exact ⟨[], ingest_nil_empty bounds⟩
  | cons batch rest => exact ingest_of_ingestAll (empty_sound bounds) hcount h

/-! ### The newest time delivered -/

theorem newestTime_perm {ps qs : List Point} (h : ps.Perm qs) : newestTime ps = newestTime qs := by
  apply Option.ext
  intro t
  simp only [newestTime, List.max?_eq_some_iff, (h.map fun p => p.time.ticks).mem_iff]

/-- Whether a point is within an age of the newest time, if there is one. -/
def isWithin (age : Int) (newest : Option Nat) (p : Point) : Bool :=
  newest.all fun t => (t : Int) - p.time.ticks ≤ age

theorem isWithin_eq {b : Bounds} {age : Int} (hage : b.maxAge = some age) (newest : Option Nat)
    (p : Point) : isWithin age newest p = !isStale (b.cutoff? newest) p := by
  cases newest with
  | none => simp [isWithin, Bounds.cutoff?, hage, isStale]
  | some t =>
    have hcutoff : b.cutoff? (some t) = some (t - age) := by
      simp only [Bounds.cutoff?, hage]
    rw [hcutoff]
    show decide ((t : Int) - p.time.ticks ≤ age) = !decide ((p.time.ticks : Int) < t - age)
    rw [← decide_not, decide_eq_decide]
    omega

/-! ### Deliveries -/

section Delivery
variable {bounds : Bounds} {age : Int} {batches : List (List Point)} {left : List Point}
  {kept : Window}

theorem sound_delivered (hcount : bounds.maxPoints = none)
    (h : (empty bounds).ingestAll batches = .ok (left, kept)) : kept.Sound := by
  obtain ⟨_, hone⟩ := ingest_of_ingestAll_empty hcount h
  have hsound := ingest_sound (empty_sound bounds) batches.flatten
  rwa [hone] at hsound

/-- A window knows the newest time of what was delivered. -/
theorem latest_delivered (hcount : bounds.maxPoints = none)
    (h : (empty bounds).ingestAll batches = .ok (left, kept)) :
    kept.latest.map Instant.ticks = newestTime batches.flatten := by
  obtain ⟨_, hone⟩ := ingest_of_ingestAll_empty hcount h
  have hlatest := latest_ingest (empty_sound bounds) batches.flatten
  rw [hone] at hlatest
  rw [hlatest]
  have hempty : (empty bounds).latest.map Instant.ticks = newestTime [] := rfl
  exact latest_foldl_push hempty batches.flatten

/-- A window holds what was delivered and is within its age of the newest time that was. -/
theorem points_delivered (hcount : bounds.maxPoints = none) (hage : bounds.maxAge = some age)
    (h : (empty bounds).ingestAll batches = .ok (left, kept)) :
    kept.points = batches.flatten.filter (isWithin age (newestTime batches.flatten)) := by
  obtain ⟨_, hone⟩ := ingest_of_ingestAll_empty hcount h
  have hpoints := (ingest_eq_ok (empty_sound bounds) (congrArg Prod.fst hone)).1
  have hcutoff : (empty bounds).cutoffAfter batches.flatten =
      bounds.cutoff? (newestTime batches.flatten) := cutoffAfter_run bounds [] batches.flatten
  have hwithin : isWithin age (newestTime batches.flatten) =
      (!isStale (bounds.cutoff? (newestTime batches.flatten)) ·) := by
    funext p
    exact isWithin_eq hage _ p
  rw [hone, hcutoff, ← hwithin] at hpoints
  exact hpoints.trans (congrArg (List.filter _) (Bounds.newest_of_unlimited hcount _))

end Delivery

/-- **A window with a bound on the age alone forgets in which order points arrived.** It holds the
points that were delivered and are within its age of the newest time delivered, which it knows. Two
deliveries of the same points to new windows, in any order and divided into any batches, leave the
same points and newest time, the same sum, count and average, and the same extremes, if all calls
return. -/
theorem arrival_order_forgotten {bounds : Bounds} {age : Int} (hcount : bounds.maxPoints = none)
    (hage : bounds.maxAge = some age) {batches batches' : List (List Point)}
    (hsame : batches.flatten.Perm batches'.flatten) {left left' : List Point} {kept kept' : Window}
    (h : (empty bounds).ingestAll batches = .ok (left, kept))
    (h' : (empty bounds).ingestAll batches' = .ok (left', kept')) :
    kept.points = batches.flatten.filter (isWithin age (newestTime batches.flatten)) ∧
      kept.latest.map Instant.ticks = newestTime batches.flatten ∧
      kept.points.Perm kept'.points ∧ kept.latest = kept'.latest ∧
      kept.tally = kept'.tally ∧ kept.tally.average = kept'.tally.average ∧
      kept.extremes.min = kept'.extremes.min ∧ kept.extremes.max = kept'.extremes.max := by
  have hpoints := points_delivered hcount hage h
  have hlatest := latest_delivered hcount h
  have hperm : kept.points.Perm kept'.points := by
    rw [hpoints, points_delivered hcount hage h', newestTime_perm hsame]
    exact hsame.filter _
  have hknown : kept.latest = kept'.latest := by
    have hticks : kept.latest.map Instant.ticks = kept'.latest.map Instant.ticks := by
      rw [hlatest, latest_delivered hcount h', newestTime_perm hsame]
    exact Option.map_injective (fun _ _ => Instant.ext) hticks
  obtain ⟨htally, hmin, hmax⟩ :=
    (sound_delivered hcount h).aggregates_perm (sound_delivered hcount h') hperm
  exact ⟨hpoints, hlatest, hperm, hknown, htally, congrArg _ htally, hmin, hmax⟩

/-- A point that the first arrival outdates at once is held for a while when it comes first. -/
theorem arrival_order_forgotten_late :
    let bounds : Bounds := ⟨none, some 60000000⟩
    let batches := [[pointAt 5 160, pointAt 7 90], [pointAt 9 150]]
    let batches' := [[pointAt 7 90], [pointAt 9 150], [], [pointAt 5 160]]
    batches.flatten.Perm batches'.flatten ∧
      ∃ kept kept', (empty bounds).ingestAll batches = .ok ([pointAt 7 90], kept) ∧
        (empty bounds).ingestAll batches' = .ok ([pointAt 7 90], kept') ∧
        kept.points = [pointAt 5 160, pointAt 9 150] ∧ kept.points.Perm kept'.points ∧
        kept.latest = kept'.latest ∧ kept.tally = kept'.tally ∧
        kept.extremes.min = kept'.extremes.min ∧ kept.extremes.max = kept'.extremes.max := by
  intro bounds batches batches'
  have hsame : batches.flatten.Perm batches'.flatten := by decide
  obtain ⟨kept, h⟩ : ∃ kept, (empty bounds).ingestAll batches = .ok ([pointAt 7 90], kept) :=
    ⟨_, rfl⟩
  obtain ⟨kept', h'⟩ : ∃ kept, (empty bounds).ingestAll batches' = .ok ([pointAt 7 90], kept) :=
    ⟨_, rfl⟩
  obtain ⟨hpoints, _, hperm, hlatest, htally, _, hmin, hmax⟩ :=
    arrival_order_forgotten rfl rfl hsame h h'
  refine ⟨hsame, kept, kept', h, h', ?_, hperm, hlatest, htally, hmin, hmax⟩
  rw [hpoints]
  decide

end FeeWatch.Window
