import FeeWatch.Proofs.Window.Late

/-! Batches that are split.

Points may arrive in one batch or in several. Two ingests in a row enforce the bounds once more
between the batches, at an earlier newest time, and mark the window anew there. `ingest_append`:
wherever the two bounds can be enforced in either order (`Bounds.Swaps`), that makes no difference
to the window, down to its sequence numbers, its queues and its mark. They can if there is only one
of them, and on points in order of time, for there both keep a last part of the points
(`swaps_of_ordered`). So `batches_join`; out of order and with both bounds it fails. -/
namespace FeeWatch.Window

open FeeWatch.Calendar (Instant)
open FeeWatch.Fee (Point)

/-! ### The bounds one after the other -/

namespace Bounds
variable {b : Bounds} {β : Type}

theorem newest_of_allows {l : List β} (h : b.allows l.length = true) : b.newest l = l := by
  have hroom : b.room l.length = l.length := Nat.findGreatest_eq h
  rw [newest, hroom, Nat.sub_self, List.drop_zero]

theorem newest_of_unlimited (h : b.maxPoints = none) (l : List β) : b.newest l = l :=
  newest_of_allows (by simp [allows, h])

theorem allows_one {maxPoints maxAge : Datum} (hmake : make maxPoints maxAge = .ok b) :
    b.allows 1 = true := by
  cases hlimit : b.maxPoints with
  | none => simp [allows, hlimit]
  | some limit =>
    have hone : Number.lt limit (.int 1) = false := (make_eq_ok hmake).2 limit hlimit
    simp [allows, hlimit, hone]

/-- The bound on the count may be enforced on the way. -/
theorem newest_append (l m : List β) : b.newest (b.newest l ++ m) = b.newest (l ++ m) := by
  induction l with
  | nil => simp [newest]
  | cons a l ih =>
    rw [newest_cons]
    by_cases hall : b.allows (l.length + 1) = true
    · rw [if_pos hall]
    · have htoo : ¬ b.allows ((l ++ m).length + 1) = true := by
        intro hmore
        apply hall
        refine allows_of_le ?_ hmore
        simp only [List.length_append]
        omega
      rw [if_neg hall, ih, List.cons_append, newest_cons, if_neg htoo]

/-- If what a test keeps stands behind what it does not keep, both the test and the bound on the
count keep a last part, and may do so in either order. -/
theorem newest_filter {keep : β → Bool} {l : List β}
    (h : l.Pairwise fun a c => keep a = true → keep c = true) :
    b.newest (l.filter keep) = (b.newest l).filter keep := by
  induction l with
  | nil => simp [newest]
  | cons a l ih =>
    obtain ⟨hfirst, hrest⟩ := List.pairwise_cons.mp h
    by_cases ha : keep a = true
    · have hall : ∀ c ∈ a :: l, keep c = true := by
        intro c hc
        rcases List.mem_cons.mp hc with rfl | hc
        · exact ha
        · exact hfirst c hc ha
      rw [List.filter_eq_self.mpr hall,
        List.filter_eq_self.mpr fun c hc => hall c ((newest_sublist b _).subset hc)]
    · rw [List.filter_cons_of_neg ha, newest_cons]
      by_cases hallows : b.allows (l.length + 1) = true
      · have hfew : b.allows (l.filter keep).length = true :=
          allows_of_le (Nat.le_succ_of_le (List.length_filter_le _ _)) hallows
        rw [if_pos hallows, List.filter_cons_of_neg ha, newest_of_allows hfew]
      · rw [if_neg hallows, ih hrest]

/-- The last item is among the newest. -/
theorem getLast?_newest (hone : b.allows 1 = true) (l : List β) :
    (b.newest l).getLast? = l.getLast? := by
  induction l with
  | nil => simp [newest]
  | cons a l ih =>
    rw [newest_cons]
    by_cases hall : b.allows (l.length + 1) = true
    · rw [if_pos hall]
    · cases l with
      | nil => exact absurd hone hall
      | cons c l => rw [if_neg hall, ih, List.getLast?_cons_cons]

/-- A later newest time gives a later time from which on points are fresh. -/
theorem cutoff?_mono {l m : Option Nat} (h : ∀ t ∈ l, ∃ t' ∈ m, t ≤ t') :
    ∀ c ∈ b.cutoff? l, ∃ c' ∈ b.cutoff? m, c ≤ c' := by
  intro c hc
  cases hage : b.maxAge with
  | none => simp [cutoff?, hage] at hc
  | some age =>
    cases l with
    | none => simp [cutoff?, hage] at hc
    | some t =>
      obtain ⟨t', rfl, hle⟩ := h t rfl
      simp only [cutoff?, hage, Option.mem_def, Option.some.injEq] at hc
      refine ⟨t' - age, by simp [cutoff?, hage], ?_⟩
      omega

/-- Whether the two bounds can be enforced in either order on some of the points that are held. -/
def Swaps (b : Bounds) (hs : List Held) : Prop :=
  ∀ l, l.Sublist hs → ∀ latest,
    b.newest (l.filter (!isStale (b.cutoff? latest) ·.point)) =
      (b.newest l).filter (!isStale (b.cutoff? latest) ·.point)

theorem swaps_of_unlimited (h : b.maxPoints = none) (hs : List Held) : b.Swaps hs := by
  intro l _ latest
  rw [newest_of_unlimited h, newest_of_unlimited h]

theorem swaps_of_ageless (h : b.maxAge = none) (hs : List Held) : b.Swaps hs := by
  intro l _ latest
  have hfresh : ∀ l : List Held, l.filter (!isStale (b.cutoff? latest) ·.point) = l := by
    intro l
    simp [cutoff?, h, isStale]
  rw [hfresh, hfresh]

theorem swaps_of_ordered {hs : List Held} (h : hs.Pairwise Held.before) : b.Swaps hs := by
  intro l hl latest
  refine newest_filter ((h.sublist hl).imp ?_)
  intro x y hbefore hx
  have hbefore : x.point.time.ticks ≤ y.point.time.ticks := hbefore
  cases hcutoff : b.cutoff? latest with
  | none => simp [isStale]
  | some c =>
    simp only [hcutoff, isStale, Option.any_some, Bool.not_eq_true', decide_eq_false_iff_not] at hx ⊢
    omega

end Bounds

/-! ### Fresh points on the way -/

/-- What is stale beside a time is stale beside a later one. -/
theorem filter_fresh_filter_fresh {c d : Option Int} (h : ∀ t ∈ c, ∃ t' ∈ d, t ≤ t')
    (hs : List Held) :
    (hs.filter (!isStale c ·.point)).filter (!isStale d ·.point) =
      hs.filter (!isStale d ·.point) := by
  rw [List.filter_filter]
  apply List.filter_congr
  intro x _
  cases c with
  | none => simp [isStale]
  | some t =>
    obtain ⟨t', rfl, hle⟩ := h t rfl
    by_cases hstale : (x.point.time.ticks : Int) < t
    · have hlater : (x.point.time.ticks : Int) < t' := by omega
      simp [isStale, hlater]
    · simp [isStale, hstale]

/-- Points under the sequence numbers from a first one on. -/
def numbered : Nat → List Point → List Held
  | _, [] => []
  | n, p :: rest => ⟨n, p⟩ :: numbered (n + 1) rest

theorem numbered_append (n : Nat) (xs ys : List Point) :
    numbered n (xs ++ ys) = numbered n xs ++ numbered (n + xs.length) ys := by
  induction xs generalizing n with
  | nil => rfl
  | cons p rest ih =>
    have hnext : n + 1 + rest.length = n + (p :: rest).length := by
      rw [List.length_cons]
      omega
    rw [List.cons_append, numbered, ih, hnext]
    rfl

theorem map_point_numbered (n : Nat) (ps : List Point) : (numbered n ps).map Held.point = ps := by
  induction ps generalizing n with
  | nil => rfl
  | cons p rest ih => rw [numbered, List.map_cons, ih]

section Entering
variable {a b : Window}

theorem held_foldl_push (w : Window) (batch : List Point) :
    (batch.foldl push w).held = w.held ++ numbered w.nextSeq batch := by
  induction batch generalizing w with
  | nil => exact (List.append_nil _).symm
  | cons p rest ih =>
    rw [List.foldl_cons, ih (w.push p)]
    simp [push, numbered]

theorem nextSeq_foldl_push (w : Window) (batch : List Point) :
    (batch.foldl push w).nextSeq = w.nextSeq + batch.length := by
  induction batch generalizing w with
  | nil => rfl
  | cons p rest ih =>
    rw [List.foldl_cons, ih (w.push p), List.length_cons]
    simp only [push]
    omega

/-- The newest time after a batch depends on the one before it only. -/
theorem latest_foldl_push_congr (h : a.latest = b.latest) (batch : List Point) :
    (batch.foldl push a).latest = (batch.foldl push b).latest := by
  induction batch generalizing a b with
  | nil => exact h
  | cons p rest ih =>
    apply ih
    simp only [push, h]

/-- The newest time does not go back. -/
theorem latest_le_foldl_push (w : Window) (batch : List Point) :
    ∀ t ∈ w.latest.map Instant.ticks,
      ∃ t' ∈ (batch.foldl push w).latest.map Instant.ticks, t ≤ t' := by
  induction batch generalizing w with
  | nil => exact fun t ht => ⟨t, ht, Nat.le_refl t⟩
  | cons p rest ih =>
    intro t ht
    obtain ⟨latest, hlatest, rfl⟩ := Option.map_eq_some_iff.mp ht
    obtain ⟨next, hnext, hle⟩ : ∃ next, (w.push p).latest = some next ∧ latest.ticks ≤ next.ticks := by
      simp only [push, hlatest, newer]
      by_cases hnewer : latest < p.time
      · exact ⟨p.time, if_pos hnewer, Nat.le_of_lt hnewer⟩
      · exact ⟨latest, if_neg hnewer, Nat.le_refl _⟩
    obtain ⟨last, hlast, hle'⟩ := ih (w.push p) next.ticks (by rw [hnext]; rfl)
    exact ⟨last, hlast, Nat.le_trans hle hle'⟩

/-- The mark after a batch depends on the last arrival before it only, and on the mark. -/
theorem disordered_foldl_push_congr (hmark : a.disordered = b.disordered)
    (hlast : a.held.getLast? = b.held.getLast?) (hseq : a.nextSeq = b.nextSeq)
    (batch : List Point) :
    (batch.foldl push a).disordered = (batch.foldl push b).disordered := by
  induction batch generalizing a b with
  | nil => exact hmark
  | cons p rest ih =>
    apply ih
    · simp only [push, hmark, hlast]
    · simp only [push, List.getLast?_concat, hseq]
    · simp only [push, hseq]

end Entering

/-! ### One ingest of two batches -/

/-- Sound windows of the same points under the same numbers are the same. -/
theorem Sound.ext {a b : Window} (ha : a.Sound) (hb : b.Sound) (hbounds : a.bounds = b.bounds)
    (hheld : a.held = b.held) (hnext : a.nextSeq = b.nextSeq) (hlatest : a.latest = b.latest)
    (hmark : a.disordered = b.disordered) : a = b := by
  have htally : a.tally = b.tally := by rw [ha.tally, hb.tally, hheld]
  have hextremes : a.extremes = b.extremes := by rw [ha.extremes, hb.extremes, hheld]
  cases a
  cases b
  simp_all

section Ingest
variable {w : Window} {batch left : List Point}

/-- An ingest returns if and only if the bound on the age stays within the calendar. -/
theorem ingest_returns_iff (hw : w.Sound) :
    (∃ left, (w.ingest batch).1 = .ok left) ↔ isDated (w.cutoffAfter batch) = true := by
  rcases ingest_cases hw batch with ⟨hdated, h⟩ | ⟨hdated, _, _, h⟩ <;> simp [h, hdated]

theorem held_ingest (hw : w.Sound) (h : (w.ingest batch).1 = .ok left) :
    (w.ingest batch).2.held =
      (w.bounds.newest (w.held ++ numbered w.nextSeq batch)).filter
        (!isStale (w.cutoffAfter batch) ·.point) := by
  rw [← held_foldl_push]
  rcases ingest_cases hw batch with ⟨_, hfail⟩ | ⟨_, _, _, hok⟩
  · rw [hfail] at h
    cases h
  · rw [hok]
    rfl

theorem nextSeq_ingest (hw : w.Sound) (batch : List Point) :
    (w.ingest batch).2.nextSeq = w.nextSeq + batch.length := by
  rw [← nextSeq_foldl_push]
  rcases ingest_cases hw batch with ⟨_, h⟩ | ⟨_, _, _, h⟩ <;> rw [h] <;> rfl

/-- A bound on the age marks the window by the points that stay. -/
theorem disordered_ingest_of_dated (hw : w.Sound) {cutoff : Int}
    (hcutoff : w.cutoffAfter batch = some cutoff) (h : (w.ingest batch).1 = .ok left) :
    (w.ingest batch).2.disordered = isDisordered (w.ingest batch).2.held := by
  have hdated := (ingest_returns_iff hw).mp ⟨left, h⟩
  rw [hcutoff] at hdated
  obtain ⟨time, htime⟩ := Option.isSome_iff_exists.mp hdated
  have hevict := evictStale_of_dated (counted_sound hw batch)
    ((cutoffAfter_eq w batch).trans hcutoff) htime
  rw [ingest_eq hw batch, hevict]
  rfl

/-- Without a bound on the age the window keeps the mark it had when the batch had entered. -/
theorem disordered_ingest_of_ageless (hw : w.Sound) (hcutoff : w.cutoffAfter batch = none) :
    (w.ingest batch).2.disordered = (batch.foldl push w).disordered := by
  have hevict := evictStale_of_unbounded ((cutoffAfter_eq w batch).trans hcutoff)
  rw [ingest_eq hw batch, hevict]
  rfl

end Ingest

section Split
variable {w : Window} {xs ys first second : List Point}

theorem cutoffAfter_append (hw : w.Sound) (xs ys : List Point) :
    (w.ingest xs).2.cutoffAfter ys = w.cutoffAfter (xs ++ ys) := by
  rw [cutoffAfter, cutoffAfter, bounds_ingest hw, List.foldl_append,
    latest_foldl_push_congr (latest_ingest hw xs)]

theorem cutoffAfter_mono (w : Window) (xs ys : List Point) :
    ∀ c ∈ w.cutoffAfter xs, ∃ c' ∈ w.cutoffAfter (xs ++ ys), c ≤ c' := by
  rw [cutoffAfter, cutoffAfter, List.foldl_append]
  exact Bounds.cutoff?_mono (latest_le_foldl_push (xs.foldl push w) ys)

/-- The points that stay are those that stay of both batches at once: the bounds that were enforced
on the way took nothing that would have stayed, and nothing that would have left in its place. -/
theorem held_ingest_ingest (hw : w.Sound)
    (hswap : w.bounds.Swaps (w.held ++ numbered w.nextSeq (xs ++ ys)))
    (hxs : (w.ingest xs).1 = .ok first) (hys : ((w.ingest xs).2.ingest ys).1 = .ok second) :
    ((w.ingest xs).2.ingest ys).2.held =
      (w.bounds.newest (w.held ++ numbered w.nextSeq (xs ++ ys))).filter
        (!isStale (w.cutoffAfter (xs ++ ys)) ·.point) := by
  have hmono := cutoffAfter_mono w xs ys
  obtain ⟨latest, hlatest⟩ : ∃ latest, w.cutoffAfter xs = w.bounds.cutoff? latest := ⟨_, rfl⟩
  obtain ⟨latest', hlatest'⟩ : ∃ latest, w.cutoffAfter (xs ++ ys) = w.bounds.cutoff? latest :=
    ⟨_, rfl⟩
  rw [held_ingest (ingest_sound hw xs) hys, held_ingest hw hxs, bounds_ingest hw,
    nextSeq_ingest hw, cutoffAfter_append hw, numbered_append, ← List.append_assoc]
  rw [numbered_append, ← List.append_assoc] at hswap
  generalize w.held ++ numbered w.nextSeq xs = old at *
  generalize numbered (w.nextSeq + xs.length) ys = new at *
  rw [hlatest, hlatest'] at hmono ⊢
  have hold : old.Sublist (old ++ new) := List.sublist_append_left old new
  have hpart : (old.filter (!isStale (w.bounds.cutoff? latest) ·.point) ++ new).Sublist
      (old ++ new) := List.filter_sublist.append_right new
  rw [← hswap old hold, Bounds.newest_append, ← hswap _ hpart, ← hswap _ (.refl _),
    List.filter_append, filter_fresh_filter_fresh hmono, ← List.filter_append]

theorem disordered_ingest_ingest (hw : w.Sound) (hone : w.bounds.allows 1 = true)
    (hxs : (w.ingest xs).1 = .ok first) (hys : ((w.ingest xs).2.ingest ys).1 = .ok second)
    {left : List Point} (hleft : (w.ingest (xs ++ ys)).1 = .ok left)
    (hheld : ((w.ingest xs).2.ingest ys).2.held = (w.ingest (xs ++ ys)).2.held) :
    ((w.ingest xs).2.ingest ys).2.disordered = (w.ingest (xs ++ ys)).2.disordered := by
  have hv := ingest_sound hw xs
  have hsame := cutoffAfter_append hw xs ys
  cases hcutoff : w.cutoffAfter (xs ++ ys) with
  | some cutoff =>
    rw [disordered_ingest_of_dated hv (hsame.trans hcutoff) hys,
      disordered_ingest_of_dated hw hcutoff hleft, hheld]
  | none =>
    have hnone : w.cutoffAfter xs = none := by
      refine Option.eq_none_iff_forall_not_mem.mpr fun c hc => ?_
      obtain ⟨c', hc', _⟩ := cutoffAfter_mono w xs ys c hc
      rw [hcutoff] at hc'
      cases hc'
    have hlast : (w.ingest xs).2.held.getLast? = (xs.foldl push w).held.getLast? := by
      have hall : ∀ hs : List Held, hs.filter (!isStale none ·.point) = hs := by simp [isStale]
      rw [held_ingest hw hxs, hnone, hall, held_foldl_push, Bounds.getLast?_newest hone]
    rw [disordered_ingest_of_ageless hv (hsame.trans hcutoff),
      disordered_ingest_of_ageless hw hcutoff, List.foldl_append]
    refine disordered_foldl_push_congr (disordered_ingest_of_ageless hw hnone) hlast ?_ ys
    rw [nextSeq_ingest hw, nextSeq_foldl_push]

/-- **Two ingests come to one** where the bounds can be enforced in either order. -/
theorem ingest_append (hw : w.Sound) (hone : w.bounds.allows 1 = true)
    (hswap : w.bounds.Swaps (w.held ++ numbered w.nextSeq (xs ++ ys)))
    (hxs : (w.ingest xs).1 = .ok first) (hys : ((w.ingest xs).2.ingest ys).1 = .ok second) :
    ∃ left, w.ingest (xs ++ ys) = (.ok left, ((w.ingest xs).2.ingest ys).2) ∧
      (first ++ second).Perm left := by
  have hv := ingest_sound hw xs
  obtain ⟨left, hleft⟩ : ∃ left, (w.ingest (xs ++ ys)).1 = .ok left := by
    rw [ingest_returns_iff hw, ← cutoffAfter_append hw]
    exact (ingest_returns_iff hv).mp ⟨second, hys⟩
  have hheld : ((w.ingest xs).2.ingest ys).2.held = (w.ingest (xs ++ ys)).2.held := by
    rw [held_ingest_ingest hw hswap hxs hys, held_ingest hw hleft]
  have hsame : ((w.ingest xs).2.ingest ys).2 = (w.ingest (xs ++ ys)).2 := by
    refine (ingest_sound hv ys).ext (ingest_sound hw _) ?_ hheld ?_ ?_ ?_
    · rw [bounds_ingest hv, bounds_ingest hw, bounds_ingest hw]
    · rw [nextSeq_ingest hv, nextSeq_ingest hw, nextSeq_ingest hw, List.length_append,
        Nat.add_assoc]
    · rw [latest_ingest hv, latest_ingest hw, List.foldl_append,
        latest_foldl_push_congr (latest_ingest hw xs)]
    · exact disordered_ingest_ingest hw hone hxs hys hleft hheld
  refine ⟨left, Prod.ext hleft hsame.symm, ?_⟩
  -- What left and what stayed are what there was, in both runs, and the same stayed.
  have hsplit : (first ++ second ++ ((w.ingest xs).2.ingest ys).2.points).Perm
      (left ++ (w.ingest (xs ++ ys)).2.points) := by
    calc first ++ second ++ ((w.ingest xs).2.ingest ys).2.points
        = first ++ (second ++ ((w.ingest xs).2.ingest ys).2.points) := List.append_assoc ..
      _ |>.Perm (first ++ ((w.ingest xs).2.points ++ ys)) := .append_left _ (ingest_perm hv hys)
      _ = first ++ (w.ingest xs).2.points ++ ys := (List.append_assoc ..).symm
      _ |>.Perm (w.points ++ xs ++ ys) := .append_right _ (ingest_perm hw hxs)
      _ = w.points ++ (xs ++ ys) := List.append_assoc ..
      _ |>.Perm (left ++ (w.ingest (xs ++ ys)).2.points) := (ingest_perm hw hleft).symm
  rw [hsame] at hsplit
  exact (List.perm_append_right_iff _).mp hsplit

end Split

/-- **Batching makes no difference**, after any calls, to a window with only one of the two bounds,
and to one with both if the points that are held and that arrive are in order of time. If two
ingests in a row return, so does the single ingest of both batches; it leaves the very same window,
with its points under the same sequence numbers, its newest time, tally, queues and mark, and gives
back the same points, in whatever order. -/
theorem batches_join {maxPoints maxAge : Datum} {bounds : Bounds}
    (hmake : Bounds.make maxPoints maxAge = .ok bounds) (calls : List Call) :
    let w := (empty bounds).run calls
    ∀ {xs ys first second : List Point},
      (bounds.maxPoints = none ∨ bounds.maxAge = none ∨
        (w.points ++ xs ++ ys).Pairwise fun p q => p.time ≤ q.time) →
      (w.ingest xs).1 = .ok first → ((w.ingest xs).2.ingest ys).1 = .ok second →
      ∃ left, w.ingest (xs ++ ys) = (.ok left, ((w.ingest xs).2.ingest ys).2) ∧
        (first ++ second).Perm left := by
  intro w xs ys first second hcase hxs hys
  have hw : w.Sound := run_sound (empty_sound bounds) calls
  have hbounds : w.bounds = bounds := run_bounds (empty_sound bounds) calls
  refine ingest_append hw (hbounds ▸ Bounds.allows_one hmake) ?_ hxs hys
  rw [hbounds]
  rcases hcase with hcount | hage | hordered
  · exact Bounds.swaps_of_unlimited hcount _
  · exact Bounds.swaps_of_ageless hage _
  · apply Bounds.swaps_of_ordered
    have hpoints : (w.held ++ numbered w.nextSeq (xs ++ ys)).map Held.point =
        w.points ++ xs ++ ys := by
      rw [List.map_append, map_point_numbered, ← List.append_assoc]
      rfl
    rw [← hpoints, List.pairwise_map] at hordered
    exact hordered

/-- A point that leaves by its age between two batches leaves by the count when they are one. -/
theorem batches_join_threePoints :
    let w := (empty ⟨some 3, some 60000000⟩).run [.ingest [pointAt 5 100, pointAt 7 130]]
    let xs := [pointAt 9 170]
    let ys := [pointAt 2 172, pointAt 4 174]
    Bounds.make (.int 3) (.int 60) = .ok ⟨some 3, some 60000000⟩ ∧
      (w.points ++ xs ++ ys).Pairwise (fun p q => p.time ≤ q.time) ∧
      (w.ingest xs).1 = .ok [pointAt 5 100] ∧
      ((w.ingest xs).2.ingest ys).1 = .ok [pointAt 7 130] ∧
      ∃ left, w.ingest (xs ++ ys) = (.ok left, ((w.ingest xs).2.ingest ys).2) ∧
        [pointAt 5 100, pointAt 7 130].Perm left := by
  intro w xs ys
  have hmake : Bounds.make (.int 3) (.int 60) = .ok ⟨some 3, some 60000000⟩ := by rfl
  have hordered : (w.points ++ xs ++ ys).Pairwise fun p q => p.time ≤ q.time := by decide
  have hxs : (w.ingest xs).1 = .ok [pointAt 5 100] := by rfl
  have hys : ((w.ingest xs).2.ingest ys).1 = .ok [pointAt 7 130] := by rfl
  exact ⟨hmake, hordered, hxs, hys, batches_join hmake _ (.inr (.inr hordered)) hxs hys⟩

/-- Out of order and with both bounds batching makes a difference: a late point that comes alone is
gone before the next arrival needs its place, and in one batch it pushes a fresh point out. -/
example :
    let w := empty ⟨some 2, some 60000000⟩
    let xs := [pointAt 1 100, pointAt 2 30]
    let ys := [pointAt 3 110]
    ((w.ingest xs).2.ingest ys).2.points = [pointAt 1 100, pointAt 3 110] ∧
      (w.ingest (xs ++ ys)).2.points = [pointAt 3 110] := by
  refine ⟨by rfl, by rfl⟩

end FeeWatch.Window
