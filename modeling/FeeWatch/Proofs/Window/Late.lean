import FeeWatch.Proofs.Calendar.Span
import FeeWatch.Proofs.Window.Retention

/-! Points that arrive too late.

A batch of points that are all older than the bound on the age allows goes out again with the
call that it came in by. It does not change the newest time, and no point that is held becomes
stale by it (`points_fresh`). But the bound on the count is enforced first and counts the late
points as arrivals: it pushes out the oldest points that are held, as many as there are points too
many, before the late ones leave (`stale_batch_leaves`). So the window is as it was if the late
points had room, and otherwise it has lost points that were fresh (`stale_pushes_fresh_out`). -/
namespace FeeWatch

open FeeWatch.Calendar (Instant)
open FeeWatch.Fee (Point)

namespace Window

namespace Bounds
variable {b : Bounds}

/-- A bound on the age that was accepted is not negative. -/
theorem maxAge_nonneg {maxPoints maxAge : Datum} (hmake : make maxPoints maxAge = .ok b) {age : Int}
    (hage : b.maxAge = some age) : 0 ≤ age := by
  unfold make at hmake
  obtain ⟨_, hmake⟩ := guard_eq_ok hmake
  obtain ⟨_, hmake⟩ := guard_eq_ok hmake
  obtain ⟨hpositive, hmake⟩ := guard_eq_ok hmake
  split at hmake
  · cases hmake
    cases hage
  · rename_i seconds hlimit
    split at hmake
    · rename_i ticks hticks
      cases hmake
      cases hage
      rw [Datum.limit?] at hlimit
      split at hlimit
      · cases hlimit
      · rename_i hnull
        have hatMost := Setting.refuseIf_eq_ok
          (mapError_eq_ok.mp (hpositive (by simpa using hnull)))
        obtain ⟨x, hx, hle⟩ := Datum.isAtMost_eq_ok hatMost
        rw [Datum.amount, hx] at hlimit
        cases hlimit
        exact Calendar.Span.ofSeconds_nonneg hle hticks
    · cases hmake

/-- How many of a number of points are too many for the bound on the count. -/
def excess (b : Bounds) (n : Nat) : Nat := n - b.room n

/-- Nothing is too many exactly if it is allowed. -/
theorem excess_eq_zero {maxPoints maxAge : Datum} (hmake : make maxPoints maxAge = .ok b) (n : Nat) :
    b.excess n = 0 ↔ b.allows n = true := by
  have hle := b.room_le n
  constructor
  · intro hnone
    have hall : b.room n = n := by
      rw [excess] at hnone
      omega
    have hroom := allows_room hmake n
    rwa [hall] at hroom
  · intro hallows
    rw [excess, room, Nat.findGreatest_eq hallows, Nat.sub_self]

end Bounds

/-! ### What is held is fresh -/

theorem latest_foldl_push_of_not_newer {w : Window} {latest : Instant} (hlatest : w.latest = some latest)
    {batch : List Point} (hold : ∀ p ∈ batch, ¬ latest < p.time) :
    (batch.foldl push w).latest = some latest := by
  induction batch generalizing w with
  | nil => exact hlatest
  | cons p rest ih =>
    refine ih ?_ fun q hq => hold q (List.mem_cons_of_mem p hq)
    show newer w.latest p.time = some latest
    rw [hlatest, newer, if_neg (hold p List.mem_cons_self)]

/-- After any calls no point is stale beside the newest time, unless the bound on the age reaches
beyond the calendar. -/
theorem points_fresh (bounds : Bounds) (calls : List Call) {cutoff : Option Int}
    (hcutoff : bounds.cutoff? (((empty bounds).run calls).latest.map Instant.ticks) = cutoff)
    (hdated : isDated cutoff = true) :
    ∀ p ∈ ((empty bounds).run calls).points, isStale cutoff p = false := by
  cases calls using List.reverseRecOn with
  | nil => exact nofun
  | append_singleton calls call =>
    have hw := run_sound (empty_sound bounds) calls
    have hbounds : ((empty bounds).run calls).bounds = bounds := run_bounds (empty_sound bounds) calls
    rw [run_concat] at hcutoff ⊢
    cases call with
    | clear => exact nofun
    | ingest batch =>
      replace hcutoff : ((empty bounds).run calls).cutoffAfter batch = cutoff := by
        rwa [cutoffAfter, hbounds, ← latest_ingest hw]
      intro p hp
      rw [after] at hp
      rcases ingest_cases hw batch with ⟨hundated, _⟩ | ⟨_, _, _, hok⟩
      · rw [hcutoff, hdated] at hundated
        cases hundated
      · have hpoints := (ingest_eq_ok hw (congrArg Prod.fst hok)).1
        rw [hpoints, hcutoff] at hp
        simpa using (List.mem_filter.mp hp).2

/-! ### Late batches -/

/-- Two windows of the same points, newest time and aggregates. -/
structure Alike (a b : Window) : Prop where
  points : a.points = b.points
  latest : a.latest = b.latest
  total : a.tally.total = b.tally.total
  count : a.tally.count = b.tally.count
  min : a.extremes.min = b.extremes.min
  max : a.extremes.max = b.extremes.max

/-- Sound windows of the same points have the same aggregates. -/
theorem Sound.alike {a b : Window} (ha : a.Sound) (hb : b.Sound) (hpoints : a.points = b.points)
    (hlatest : a.latest = b.latest) : a.Alike b := by
  obtain ⟨htally, hmin, hmax⟩ := ha.aggregates_perm hb (.of_eq hpoints)
  exact {
    points := hpoints
    latest := hlatest
    total := by rw [htally]
    count := by rw [htally]
    min := hmin
    max := hmax }

/-- The bound on the count takes the oldest of all points, that on the age what is left of the
stale ones behind them. -/
theorem filter_of_stale {stale : Point → Bool} {held batch : List Point}
    (hheld : ∀ p ∈ held, stale p = false) (hbatch : ∀ p ∈ batch, stale p = true) (k : Nat) :
    ((held ++ batch).drop k).filter (!stale ·) = held.drop k ∧
      (held ++ batch).take k ++ ((held ++ batch).drop k).filter stale = held.take k ++ batch := by
  have hfresh : ∀ p ∈ held.drop k, stale p = false := fun p hp =>
    hheld p (List.mem_of_mem_drop hp)
  have hstale : ∀ p ∈ batch.drop (k - held.length), stale p = true := fun p hp =>
    hbatch p (List.mem_of_mem_drop hp)
  rw [List.drop_append, List.filter_append, List.filter_append]
  constructor
  · rw [List.filter_eq_self.mpr fun p hp => by simp [hfresh p hp],
      List.filter_eq_nil_iff.mpr fun p hp => by simp [hstale p hp], List.append_nil]
  · rw [List.filter_eq_nil_iff.mpr fun p hp => by simp [hfresh p hp],
      List.filter_eq_self.mpr hstale, List.nil_append, List.take_append, List.append_assoc,
      List.take_append_drop]

section Batch
variable {w : Window} {batch : List Point} {age : Int} {latest cutoff : Instant}

/-- Stale points do not change the newest time. -/
theorem latest_foldl_push_of_stale (hnonneg : 0 ≤ age) (hlatest : w.latest = some latest)
    (hcutoff : (latest.ticks : Int) - age = cutoff.ticks) (hstale : ∀ p ∈ batch, p.time < cutoff) :
    (batch.foldl push w).latest = w.latest := by
  rw [hlatest]
  refine latest_foldl_push_of_not_newer hlatest fun p hp hnewer => ?_
  have hold := Instant.lt_iff.mp (hstale p hp)
  have hnewer := Instant.lt_iff.mp hnewer
  omega

/-- What an ingest gives back and keeps if all that is held is fresh and all that arrives stale. -/
theorem ingest_of_stale (hw : w.Sound) (hdated : isDated (w.cutoffAfter batch) = true)
    (hheld : ∀ p ∈ w.points, isStale (w.cutoffAfter batch) p = false)
    (hbatch : ∀ p ∈ batch, isStale (w.cutoffAfter batch) p = true) :
    (w.ingest batch).1 =
        .ok (w.points.take (w.bounds.excess (w.size + batch.length)) ++ batch) ∧
      (w.ingest batch).2.points = w.points.drop (w.bounds.excess (w.size + batch.length)) := by
  have hlength : (w.points ++ batch).length = w.size + batch.length := by
    rw [List.length_append, points, List.length_map, size]
  rcases ingest_cases hw batch with ⟨hundated, _⟩ | ⟨_, _, _, hok⟩
  · rw [hdated] at hundated
    cases hundated
  · obtain ⟨left, hleft⟩ : ∃ left, (w.ingest batch).1 = .ok left := ⟨_, congrArg Prod.fst hok⟩
    obtain ⟨hpoints, hout⟩ := ingest_eq_ok hw hleft
    obtain ⟨hdrop, htake⟩ := filter_of_stale hheld hbatch (w.bounds.excess (w.size + batch.length))
    rw [Bounds.newest, hlength] at hpoints hout
    rw [Bounds.surplus, hlength] at hout
    rw [Bounds.excess] at hdrop htake ⊢
    exact ⟨by rw [hleft, hout, htake], hpoints.trans hdrop⟩

end Batch

/-- **What a batch of stale points does**, after any calls: the call returns, gives the batch back
behind the oldest points that were held, as many of them as there are points too many, and leaves
the others and the newest time. So it gives back the batch alone and leaves the window as it was
exactly if the bound on the count allows the batch beside the points that are held, or none are. -/
theorem stale_batch_leaves {maxPoints maxAge : Datum} {bounds : Bounds}
    (hmake : Bounds.make maxPoints maxAge = .ok bounds) (calls : List Call) {batch : List Point}
    {age : Int} {latest cutoff : Instant} (hage : bounds.maxAge = some age)
    (hlatest : ((empty bounds).run calls).latest = some latest)
    (hcutoff : Instant.ofTicks? (latest.ticks - age) = some cutoff)
    (hstale : ∀ p ∈ batch, p.time < cutoff) :
    let w := (empty bounds).run calls
    let pushed := bounds.excess (w.size + batch.length)
    ((w.ingest batch).1 = .ok (w.points.take pushed ++ batch) ∧
      (w.ingest batch).2.points = w.points.drop pushed ∧
      (w.ingest batch).2.latest = w.latest ∧ (w.ingest batch).2.Agrees) ∧
    ((w.ingest batch).1 = .ok batch ∧ (w.ingest batch).2.Alike w ↔
      bounds.allows (w.size + batch.length) = true ∨ w.points = []) := by
  intro w pushed
  have hw : w.Sound := run_sound (empty_sound bounds) calls
  have hbounds : w.bounds = bounds := run_bounds (empty_sound bounds) calls
  have hticks : (latest.ticks : Int) - age = cutoff.ticks := Instant.ofTicks?_eq_some.mp hcutoff
  have hsame : (batch.foldl push w).latest = w.latest :=
    latest_foldl_push_of_stale (Bounds.maxAge_nonneg hmake hage) hlatest hticks hstale
  have hnow : bounds.cutoff? (w.latest.map Instant.ticks) = some (cutoff.ticks : Int) := by
    simp [Bounds.cutoff?, hage, w, hlatest, hticks]
  have hdated : isDated (some (cutoff.ticks : Int)) = true := by
    simp [isDated, ← hticks, hcutoff]
  have hafter : w.cutoffAfter batch = some (cutoff.ticks : Int) := by
    rw [cutoffAfter, hsame, hbounds, hnow]
  obtain ⟨hreturn, hpoints⟩ := ingest_of_stale hw (by rw [hafter, hdated])
    (hafter ▸ points_fresh bounds calls hnow hdated) fun p hp => by
      rw [hafter, isStale, Option.any_some, decide_eq_true_eq]
      exact Int.ofNat_lt.mpr (Instant.lt_iff.mp (hstale p hp))
  rw [hbounds] at hreturn hpoints
  have hlatest' : (w.ingest batch).2.latest = w.latest := (latest_ingest hw batch).trans hsame
  have hsound := ingest_sound hw batch
  have hnone : w.points.take pushed = [] ↔
      bounds.allows (w.size + batch.length) = true ∨ w.points = [] := by
    rw [List.take_eq_nil_iff, Bounds.excess_eq_zero hmake]
  refine ⟨⟨hreturn, hpoints, hlatest', hsound.agrees⟩, ?_, fun hfits => ?_⟩
  · rintro ⟨hback, _⟩
    rw [hreturn] at hback
    exact hnone.mp (List.append_left_eq_self.mp (Except.ok.inj hback))
  · have htake := hnone.mpr hfits
    have hdrop : w.points.drop pushed = w.points := by
      have hsplit := List.take_append_drop pushed w.points
      rwa [htake, List.nil_append] at hsplit
    refine ⟨?_, hsound.alike hw (hpoints.trans hdrop) hlatest'⟩
    rw [hreturn, htake, List.nil_append]

/-- Two late points push the two oldest of three points out of a window of three. -/
theorem stale_batch_leaves_two :
    let w := (empty ⟨some 3, some 60000000⟩).run
      [.ingest [pointAt 5 100, pointAt 7 130, pointAt 9 75]]
    let late := [pointAt 4 60, pointAt 6 50]
    Bounds.make (.int 3) (.int 60) = .ok ⟨some 3, some 60000000⟩ ∧
      (∀ p ∈ late, p.time < (pointAt 0 70).time) ∧
      (w.ingest late).1 = .ok [pointAt 5 100, pointAt 7 130, pointAt 4 60, pointAt 6 50] ∧
      (w.ingest late).2.points = [pointAt 9 75] := by
  intro w late
  have hmake : Bounds.make (.int 3) (.int 60) = .ok ⟨some 3, some 60000000⟩ := by rfl
  have hlatest : w.latest = some (pointAt 0 130).time := by rfl
  have hlate : ∀ p ∈ late, p.time < (pointAt 0 70).time := by decide
  obtain ⟨hreturn, hpoints, _⟩ := (stale_batch_leaves hmake _ rfl hlatest rfl hlate).1
  have htwo : (⟨some 3, some 60000000⟩ : Bounds).excess (w.size + late.length) = 2 := by rfl
  rw [htwo] at hreturn hpoints
  exact ⟨hmake, hlate, hreturn, hpoints⟩

/-- A late point empties a window of one, though the point that is held is fresh. -/
theorem stale_pushes_fresh_out :
    let w := (empty ⟨some 1, some 60000000⟩).run [.ingest [pointAt 5 100]]
    Bounds.make (.int 1) (.int 60) = .ok ⟨some 1, some 60000000⟩ ∧
      w.latest = some (pointAt 0 100).time ∧ w.points = [pointAt 5 100] ∧
      Instant.ofTicks? ((pointAt 0 100).time.ticks - 60000000) = some (pointAt 0 40).time ∧
      (pointAt 9 10).time < (pointAt 0 40).time ∧
      (w.ingest [pointAt 9 10]).1 = .ok [pointAt 5 100, pointAt 9 10] ∧
      (w.ingest [pointAt 9 10]).2.points = [] := by
  refine ⟨by rfl, rfl, rfl, rfl, by decide, by rfl, by rfl⟩

end Window
end FeeWatch
