import FeeWatch.Proofs.Setting
import FeeWatch.Proofs.Window.Aggregates

/-! What a window retains.

`ingest_retains`: an ingest that returns keeps, of all points in order of arrival,
the last that the bound on the count allows, and of these the points within the
bound on the age of the newest time since the window was last cleared. It gives back
all others in order of arrival. So no point is lost, doubled or moved, over any
ingests in a row, and the window is never beyond its bounds.

The code computes neither filter: it pops stale points from the front, and looks for
them behind it only if the window is marked as disordered (`ingest_cases`). -/
namespace FeeWatch.Window

open FeeWatch.Calendar (Instant)
open FeeWatch.Fee (Point)

/-! ### The bound on the count -/

namespace Bounds
variable {b : Bounds}

theorem allows_of_le {m n : Nat} (hmn : m ≤ n) (hn : b.allows n = true) : b.allows m = true := by
  cases hb : b.maxPoints with
  | none => simp [allows, hb]
  | some limit =>
    have hle : (m : Int) ≤ n := Int.ofNat_le.mpr hmn
    simp only [allows, hb, Option.all_some, Bool.not_eq_true'] at hn ⊢
    cases hlt : Number.lt limit (.int m)
    · rfl
    · rw [Number.lt_int_of_le hle hlt] at hn
      exact hn

/-- Bounds that were accepted allow as many points as they let stay. -/
theorem allows_room {maxPoints maxAge : Datum} (hmake : make maxPoints maxAge = .ok b) (n : Nat) :
    b.allows (b.room n) = true := by
  have hzero : b.allows 0 = true := by
    cases hb : b.maxPoints with
    | none => simp [allows, hb]
    | some limit =>
      have hone := (make_eq_ok hmake).2 limit hb
      simp only [allows, hb, Option.all_some, Bool.not_eq_true']
      cases hlt : Number.lt limit (.int (0 : Nat))
      · rfl
      · exact (Number.lt_int_of_le (b := 1) (by decide) hlt).symm.trans hone
  exact Nat.findGreatest_spec (P := (b.allows · = true)) (Nat.zero_le n) hzero

/-- A whole number bounds the count as one expects. -/
theorem allows_int {limit : Int} (hb : b.maxPoints = some (.int limit)) (n : Nat) :
    b.allows n = true ↔ (n : Int) ≤ limit := by
  simp [allows, hb]

theorem newest_int {limit : Nat} (hb : b.maxPoints = some (.int limit)) {β : Type} (l : List β) :
    b.newest l = l.drop (l.length - limit) := by
  have hroom : b.room l.length = min l.length limit := by
    rw [room, Nat.findGreatest_eq_iff]
    refine ⟨Nat.min_le_left _ _, fun _ => ?_, fun n hlt hle => ?_⟩
    · rw [allows_int hb]
      omega
    · rw [allows_int hb]
      omega
  rw [newest, hroom]
  congr 1
  omega

end Bounds

/-! ### The newest time -/

/-- The newest time of points, in microseconds. -/
def newestTime (ps : List Point) : Option Nat := (ps.map fun p => p.time.ticks).max?

/-- The points that arrived since the window was last cleared. -/
def arrivals (calls : List Call) : List Point :=
  calls.foldl (fun ps call => match call with
    | .ingest batch => ps ++ batch
    | .clear => []) []

theorem arrivals_concat_ingest (calls : List Call) (batch : List Point) :
    arrivals (calls ++ [.ingest batch]) = arrivals calls ++ batch := by
  simp [arrivals]

theorem arrivals_concat_clear (calls : List Call) : arrivals (calls ++ [.clear]) = [] := by
  simp [arrivals]

theorem newer_newestTime {latest : Option Instant} {ps : List Point}
    (h : latest.map Instant.ticks = newestTime ps) (p : Point) :
    (newer latest p.time).map Instant.ticks = newestTime (ps ++ [p]) := by
  cases ps with
  | nil =>
    obtain rfl : latest = none := by simpa [newestTime] using h
    rfl
  | cons q rest =>
    rw [newestTime, List.map_cons, List.max?_cons'] at h
    rw [newestTime, List.cons_append, List.map_cons, List.map_append, List.max?_cons',
      List.foldl_append]
    obtain ⟨t, rfl, ht⟩ := Option.map_eq_some_iff.mp h
    rw [← ht, newer]
    split
    · rename_i hlt
      exact congrArg some (Nat.max_eq_right (Nat.le_of_lt hlt)).symm
    · rename_i hlt
      exact congrArg some (Nat.max_eq_left (Nat.not_lt.mp hlt)).symm

theorem latest_foldl_push {w : Window} {ps : List Point}
    (h : w.latest.map Instant.ticks = newestTime ps) (batch : List Point) :
    (batch.foldl push w).latest.map Instant.ticks = newestTime (ps ++ batch) := by
  induction batch generalizing w ps with
  | nil => rw [List.append_nil]; exact h
  | cons p rest ih =>
    rw [List.foldl_cons, List.append_cons]
    exact ih (newer_newestTime h p)

/-- A window knows the newest time that arrived since it was last cleared, also of points that it
does not hold any more. -/
theorem latest_run (bounds : Bounds) (calls : List Call) :
    ((empty bounds).run calls).latest.map Instant.ticks = newestTime (arrivals calls) := by
  induction calls using List.reverseRecOn with
  | nil => rfl
  | append_singleton calls call ih =>
    rw [run_concat]
    cases call with
    | ingest batch =>
      rw [arrivals_concat_ingest, after, latest_ingest (run_sound (empty_sound bounds) calls)]
      exact latest_foldl_push ih batch
    | clear =>
      rw [arrivals_concat_clear]
      rfl

theorem cutoffAfter_run (bounds : Bounds) (calls : List Call) (batch : List Point) :
    ((empty bounds).run calls).cutoffAfter batch =
      bounds.cutoff? (newestTime (arrivals calls ++ batch)) := by
  rw [cutoffAfter, run_bounds (empty_sound bounds), latest_foldl_push (latest_run bounds calls)]
  rfl

/-! ### What stays and what leaves -/

theorem points_retain_filter (w : Window) (test : Point → Bool) (disordered : Bool) :
    (w.retain (w.held.filter (test ·.point)) disordered).points = w.points.filter test :=
  List.filter_map.symm

/-- An ingest that returns has enforced both bounds, and gives back what they took. -/
theorem ingest_eq_ok {w : Window} (hw : w.Sound) {batch left : List Point}
    (h : (w.ingest batch).1 = .ok left) :
    (w.ingest batch).2.points =
        (w.bounds.newest (w.points ++ batch)).filter (!isStale (w.cutoffAfter batch) ·) ∧
      left = w.bounds.surplus (w.points ++ batch) ++
        (w.bounds.newest (w.points ++ batch)).filter (isStale (w.cutoffAfter batch)) := by
  rw [← points_counted]
  rcases ingest_cases hw batch with ⟨_, hfail⟩ | ⟨_, _, _, hok⟩
  · rw [hfail] at h
    cases h
  · rw [hok] at h ⊢
    exact ⟨points_retain_filter _ (!isStale (w.cutoffAfter batch) ·) _, (Except.ok.inj h).symm⟩

/-- What left and what stayed are what there was. -/
theorem ingest_perm {w : Window} (hw : w.Sound) {batch left : List Point}
    (h : (w.ingest batch).1 = .ok left) :
    (left ++ (w.ingest batch).2.points).Perm (w.points ++ batch) := by
  obtain ⟨hpoints, hleft⟩ := ingest_eq_ok hw h
  rw [hpoints, hleft, List.append_assoc]
  refine .trans (.append_left _ (List.filter_append_perm _ _)) ?_
  rw [Bounds.surplus_append_newest]

/-- Ingests batches as long as that returns. Gives the points that left and the window. -/
def ingestAll (w : Window) : List (List Point) → Except Fault (List Point × Window)
  | [] => .ok ([], w)
  | batch :: rest =>
    match w.ingest batch with
    | (.error f, _) => .error f
    | (.ok left, w) => (w.ingestAll rest).map fun (more, w) => (left ++ more, w)

/-- Ingests that return give back what the first one took and then what the others took. -/
theorem ingestAll_cons {w kept : Window} {batch : List Point} {rest : List (List Point)}
    {left : List Point} (h : w.ingestAll (batch :: rest) = .ok (left, kept)) :
    ∃ first more, (w.ingest batch).1 = .ok first ∧
      (w.ingest batch).2.ingestAll rest = .ok (more, kept) ∧ left = first ++ more := by
  rw [ingestAll] at h
  rcases hfirst : w.ingest batch with ⟨result, next⟩
  rw [hfirst] at h
  cases result with
  | error f => cases h
  | ok first =>
    cases hrest : next.ingestAll rest with
    | error f => simp [hrest, Except.map] at h
    | ok result =>
      simp only [hrest, Except.map, Except.ok.injEq, Prod.mk.injEq] at h
      obtain ⟨rfl, rfl⟩ := h
      exact ⟨first, result.1, rfl, rfl, rfl⟩

theorem ingestAll_perm {w w' : Window} (hw : w.Sound) {batches : List (List Point)}
    {left : List Point} (h : w.ingestAll batches = .ok (left, w')) :
    (left ++ w'.points).Perm (w.points ++ batches.flatten) := by
  induction batches generalizing w left with
  | nil =>
    cases h
    rw [List.nil_append, List.flatten_nil, List.append_nil]
  | cons batch rest ih =>
    obtain ⟨first, more, hfirst, hrest, rfl⟩ := ingestAll_cons h
    calc first ++ more ++ w'.points
        = first ++ (more ++ w'.points) := List.append_assoc ..
      _ |>.Perm (first ++ ((w.ingest batch).2.points ++ rest.flatten)) :=
        .append_left _ (ih (ingest_sound hw batch) hrest)
      _ = first ++ (w.ingest batch).2.points ++ rest.flatten := (List.append_assoc ..).symm
      _ |>.Perm (w.points ++ batch ++ rest.flatten) := .append_right _ (ingest_perm hw hfirst)
      _ = w.points ++ (batch :: rest).flatten := by simp

/-- **What a window retains**, after any calls and whatever the order of times. Of the points held
and the batch in order of arrival, a returning ingest keeps those among the last `bounds.newest`
that are not older than the bound on the age allows beside the newest time since the last clear,
and gives back the others. The window is then within both bounds, and over ingests in a row the
points that left and those that stayed are the points that arrived. -/
theorem ingest_retains {maxPoints maxAge : Datum} {bounds : Bounds}
    (hmake : Bounds.make maxPoints maxAge = .ok bounds) (calls : List Call) :
    let w := (empty bounds).run calls
    (∀ batch left, (w.ingest batch).1 = .ok left →
      let arrived := w.points ++ batch
      let cutoff := bounds.cutoff? (newestTime (arrivals calls ++ batch))
      let kept := (w.ingest batch).2
      kept.points = (bounds.newest arrived).filter (!isStale cutoff ·) ∧
        left = bounds.surplus arrived ++ (bounds.newest arrived).filter (isStale cutoff) ∧
        bounds.allows kept.size = true ∧
        ∀ p ∈ kept.points, isStale cutoff p = false) ∧
    ∀ batches left kept, w.ingestAll batches = .ok (left, kept) →
      (left ++ kept.points).Perm (w.points ++ batches.flatten) := by
  intro w
  have hw : w.Sound := run_sound (empty_sound bounds) calls
  have hbounds : w.bounds = bounds := run_bounds (empty_sound bounds) calls
  refine ⟨fun batch left h => ?_, fun batches left kept h => ingestAll_perm hw h⟩
  intro arrived cutoff kept
  obtain ⟨hpoints, hleft⟩ := ingest_eq_ok hw h
  rw [cutoffAfter_run bounds calls batch, hbounds] at hpoints hleft
  refine ⟨hpoints, hleft, ?_, fun p hp => ?_⟩
  · have hsize : kept.size ≤ bounds.room arrived.length := by
      have hlen : kept.size = kept.points.length := (List.length_map _).symm
      have hroom := bounds.room_le arrived.length
      rw [hlen, hpoints]
      refine Nat.le_trans (List.length_filter_le _ _) ?_
      rw [Bounds.newest, List.length_drop]
      change arrived.length - (arrived.length - bounds.room arrived.length) ≤ _
      omega
    exact Bounds.allows_of_le hsize (Bounds.allows_room hmake _)
  · rw [hpoints] at hp
    simpa using (List.mem_filter.mp hp).2

/-- A point at a second of the first day. -/
def pointAt (fee second : Nat) (h : second * 1000000 < Instant.limit := by decide) : Point :=
  ⟨fee, ⟨second * 1000000, h⟩, "", 0⟩

/-- A window of three points and a minute that holds a late point behind newer ones. The next
arrival pushes the oldest point out by the count and makes the late one stale where it stands. -/
theorem ingest_retains_late :
    let calls := [Call.ingest [pointAt 5 100, pointAt 7 130, pointAt 9 75]]
    let w := (empty ⟨some 3, some 60000000⟩).run calls
    Bounds.make (.int 3) (.int 60) = .ok ⟨some 3, some 60000000⟩ ∧
      (w.ingest [pointAt 4 150]).1 = .ok [pointAt 5 100, pointAt 9 75] ∧
      (w.ingest [pointAt 4 150]).2.points = [pointAt 7 130, pointAt 4 150] ∧
      w.points = [pointAt 5 100, pointAt 7 130, pointAt 9 75] := by
  intro calls w
  have hmake : Bounds.make (.int 3) (.int 60) = .ok ⟨some 3, some 60000000⟩ := by rfl
  have hreturn : (w.ingest [pointAt 4 150]).1 = .ok [pointAt 5 100, pointAt 9 75] := by rfl
  have hpoints := ((ingest_retains hmake calls).1 _ _ hreturn).1
  have hthree : (⟨some 3, some 60000000⟩ : Bounds).maxPoints = some (.int (3 : Nat)) := rfl
  refine ⟨hmake, hreturn, ?_, rfl⟩
  rw [hpoints, Bounds.newest_int hthree]
  decide

end FeeWatch.Window
