import FeeWatch.Proofs.Monitor.Returning

/-! What readers see of a run.

Readers see the values that cycles put in place one after another (`viewed`), each of
them whole. Up to one step a cycle only enters phases; that step puts all in place that
the cycle came to (`Install`), and after it no more than a trouble of the keeper is
counted (`cycle_views`). So whatever is seen shows the last snapshot of the cycles that
its status counts as completed, and the count never falls (`viewed_dated`). Looks may
fall anywhere between the steps: what they come upon is such a value (`mem_sights`), and
later looks come upon the same or later ones (`sights_pairwise`). `readers_see_whole_cycles`
puts this together. -/
namespace FeeWatch.Monitor

open FeeWatch.Calendar (Instant)
open FeeWatch.Fee (Market Phase Point Snapshot Status)

variable {α : Type}

/-! ### One cycle -/

/-- What the one step puts in place in which a cycle shows what it came to. -/
inductive Install (m : Monitor α) (t : Turn) (market : Market) : Published → Prop
  /-- A failed fetch is counted, and the snapshot stays. -/
  | failed (f : Source.Fault) (fetched : t.outcome = .error f) :
    Install m t market ⟨m.current,
      { m.status with
        phase := .degraded
        health :=
          if isEnough m.settings (m.status.consecutiveFailures + 1) then .degraded else .healthy
        consecutiveFailures := m.status.consecutiveFailures + 1
        totalFailures := m.status.totalFailures + 1
        lastError := some (reason f) }⟩
  /-- What was made is published, together with all that the status says of it. -/
  | published (made : (m.made t).isSome = true) :
    Install m t market ⟨(m.emission t).or m.current,
      { m.status with
        phase := .idle
        health := .healthy
        market
        consecutiveFailures := 0
        cyclesCompleted := m.status.cyclesCompleted + 1
        lastSuccess := some t.now }⟩

/-- The views of a cycle: those before it puts anything in place, the one that does, and those
after it. -/
structure Staged (K : Keeper α) (m : Monitor α) (t : Turn) (before : List Published)
    (install : Option Published) (after : List Published) : Prop where
  views : (m.cycle K t.outcome t.now).views = before ++ install.toList ++ after
  /-- Before, all but the phase is as it was. -/
  still : ∀ v ∈ before, v = ⟨m.current, { m.status with phase := v.status.phase }⟩
  installs : ∀ p ∈ install, Install m t (m.after K t).detector.state p
  /-- After it, all but the count of the keeper's troubles stays, in the cycle and behind it. -/
  settled : ∀ v ∈ (m.after K t).published :: after, ∀ p ∈ install,
    v = ⟨p.snapshot, { p.status with persistenceFailures := v.status.persistenceFailures }⟩
  /-- Only a cycle that a fault ends puts nothing in place, and then shows nothing more. -/
  returned : install = none →
    after = [] ∧ ∃ f, (m.cycle K t.outcome t.now).result = .error f
  last : (m.cycle K t.outcome t.now).views.getLast? = some (m.after K t).published

theorem passing_still (m : Monitor α) (phases : List Phase) :
    ∀ v ∈ m.passing phases, v = ⟨m.current, { m.status with phase := v.status.phase }⟩ := by
  intro v hv
  obtain ⟨phase, -, rfl⟩ := List.mem_map.mp hv
  rfl

/-- Until a cycle that cannot digest its batch is ended, readers see it enter phases. -/
theorem cycle_stuck_views (K : Keeper α) {m : Monitor α} {points : List Point}
    {f : Fault × Phase} (h : (m.digest points).outcome = .error f) (now : Instant) :
    ∃ phases, (m.cycle K (.ok points) now).views = m.passing (phases ++ [f.2]) := by
  rcases absorb_cases K m points now with
    ⟨f', phases, phase, log, hdigest, _, habsorb⟩ | ⟨left, log, hdigest, _⟩
  · rw [h] at hdigest
    cases hdigest
    rw [cycle_ok, habsorb]
    exact ⟨.fetching :: phases, rfl⟩
  · rw [h] at hdigest
    cases hdigest

/-- **A cycle shows what it came to in one step.** -/
theorem cycle_views (K : Keeper α) (m : Monitor α) (t : Turn) :
    ∃ before install after, Staged K m t before install after := by
  cases m.way K t with
  | failed f fetched made after =>
    have hviews : (m.cycle K t.outcome t.now).views =
        m.passing [.fetching] ++ [(m.countFailure f).published] := by
      rw [fetched]
      rfl
    refine ⟨m.passing [.fetching], some (m.countFailure f).published, [], ?_⟩
    exact {
      views := hviews.trans (List.append_nil _).symm
      still := passing_still m _
      installs := fun p hp => Option.some.inj hp ▸ .failed f fetched
      settled := fun v hv p hp => by
        rw [← Option.some.inj hp, List.mem_singleton.mp hv, after]
        rfl
      returned := nofun
      last := by rw [hviews, after]; rfl }
  | stuck points f fetched digested made after =>
    have hresult := (cycle_stuck K digested t.now).2
    obtain ⟨phases, hviews⟩ := cycle_stuck_views K digested t.now
    rw [← fetched] at hviews hresult
    refine ⟨m.passing (phases ++ [f.2]), none, [], ?_⟩
    exact {
      views := by rw [hviews]; simp
      still := passing_still m _
      installs := fun p hp => absurd hp (Option.not_mem_none p)
      settled := fun _ _ p hp => absurd hp (Option.not_mem_none p)
      returned := fun _ => ⟨rfl, f.1, hresult⟩
      last := by
        rw [hviews, after, passing, List.map_append, List.map_singleton, List.getLast?_concat]
        rfl }
  | shown points left fetched digested made emission after =>
    have hviews := cycle_digested_views K digested t.now
    rw [← fetched] at hviews
    have hshown : (m.showing points t.now).published = ⟨(m.emission t).or m.current,
        (m.showing points t.now).status⟩ := by
      rw [emission]
      rfl
    have hafter : (m.after K t).published = ⟨(m.showing points t.now).published.snapshot,
        { (m.showing points t.now).published.status with
          persistenceFailures := (m.after K t).status.persistenceFailures }⟩ := by
      rw [after]
      rfl
    refine ⟨m.passing [.fetching, .ingesting, .recomputing, .snapshotting],
      some (m.showing points t.now).published,
      if isTroubled K m.archive points (m.news points t.now) then [(m.after K t).published]
        else [], ?_⟩
    exact {
      views := by rw [hviews, List.append_assoc]; rfl
      still := passing_still m _
      installs := fun p hp => by
        rw [← Option.some.inj hp, hshown, after]
        exact .published (made ▸ rfl)
      settled := fun v hv p hp => by
        have hv : v = (m.after K t).published := by
          split at hv <;> simpa using hv
        rw [← Option.some.inj hp, hv]
        exact hafter
      returned := nofun
      last := by
        rw [hviews, List.getLast?_append]
        cases htrouble : isTroubled K m.archive points (m.news points t.now) with
        | true => rfl
        | false =>
          rw [after, htrouble]
          rfl }

/-! ### Runs -/

/-- The values that readers can see in a run, in order. -/
def viewed (K : Keeper α) (m : Monitor α) : List Turn → List Published
  | [] => []
  | t :: rest => (m.cycle K t.outcome t.now).views ++ viewed K (m.after K t) rest

/-- What the cycles of a run issued that are counted as completed: a snapshot, or nothing. -/
def issues (K : Keeper α) (m : Monitor α) : List Turn → List (Option Snapshot)
  | [] => []
  | t :: rest => ((m.made t).map fun _ => m.emission t).toList ++ issues K (m.after K t) rest

/-- The last snapshot that was issued. -/
def latest (past : List (Option Snapshot)) : Option Snapshot := (past.filterMap id).getLast?

theorem issues_filterMap (K : Keeper α) (m : Monitor α) (turns : List Turn) :
    (issues K m turns).filterMap id = emissions K m turns := by
  induction turns generalizing m with
  | nil => rfl
  | cons t rest ih =>
    rw [issues, emissions, List.filterMap_append, ih]
    cases hmade : m.made t with
    | none => rw [emission_of_made_eq_none hmade]; rfl
    | some s => cases m.emission t <;> rfl

theorem latest_concat (past : List (Option Snapshot)) (s : Option Snapshot) :
    latest (past ++ [s]) = s.or (latest past) := by
  rw [latest, List.filterMap_append]
  cases s <;> simp [latest]

/-- The cycles that the status of a monitor counts as completed issued something, and the last
snapshot of theirs is current. -/
structure UpTo (past : List (Option Snapshot)) (m : Monitor α) : Prop where
  counted : m.status.cyclesCompleted = past.length
  current : m.current = latest past

theorem UpTo.after {past : List (Option Snapshot)} {m : Monitor α} (hm : UpTo past m)
    (K : Keeper α) (t : Turn) :
    UpTo (past ++ ((m.made t).map fun _ => m.emission t).toList) (m.after K t) := by
  have hcurrent := current_after K m t
  cases m.way K t with
  | failed f fetched made after
  | stuck points f fetched digested made after =>
    rw [emission_of_made_eq_none made] at hcurrent
    rw [made, Option.map_none, Option.toList_none, List.append_nil]
    exact ⟨by rw [after]; exact hm.counted, hcurrent.trans hm.current⟩
  | shown points left fetched digested made emission after =>
    rw [made, Option.map_some, Option.toList_some]
    refine ⟨?_, ?_⟩
    · rw [List.length_append, List.length_singleton, ← hm.counted, after]
      rfl
    · rw [latest_concat, hcurrent, hm.current]

/-- What is current does not depend on what is issued later. -/
theorem UpTo.dated {past : List (Option Snapshot)} {m : Monitor α} (hm : UpTo past m)
    (more : List (Option Snapshot)) :
    m.current = latest ((past ++ more).take m.status.cyclesCompleted) := by
  rw [hm.counted, List.take_left, hm.current]

/-- A view of a cycle shows the snapshot and counts the cycles of the monitor before it or of that
after it, the former first. -/
theorem cycle_views_split (K : Keeper α) (m : Monitor α) (t : Turn) :
    ∃ old new, (m.cycle K t.outcome t.now).views = old ++ new ∧
      (∀ v ∈ old, v.snapshot = m.current ∧
        v.status.cyclesCompleted = m.status.cyclesCompleted) ∧
      ∀ v ∈ new, v.snapshot = (m.after K t).current ∧
        v.status.cyclesCompleted = (m.after K t).status.cyclesCompleted := by
  obtain ⟨before, install, after, h⟩ := cycle_views K m t
  refine ⟨before, install.toList ++ after, h.views.trans (List.append_assoc ..), fun v hv => ?_,
    fun v hv => ?_⟩
  · rw [h.still v hv]
    exact ⟨rfl, rfl⟩
  · cases install with
    | none => rw [(h.returned rfl).1] at hv; cases hv
    | some p =>
      have hlast := h.settled _ List.mem_cons_self p rfl
      have hp : p.snapshot = (m.after K t).current ∧
          p.status.cyclesCompleted = (m.after K t).status.cyclesCompleted := by
        rw [current, status, hlast]
        exact ⟨rfl, rfl⟩
      rcases List.mem_cons.mp hv with rfl | hafter
      · exact hp
      · rw [h.settled v (List.mem_cons_of_mem _ hafter) p rfl]
        exact hp

/-- **What is seen in a run shows the last snapshot of the cycles that it counts as completed**, and
it counts no fewer than what was seen before. -/
theorem viewed_dated (K : Keeper α) {past : List (Option Snapshot)} {m : Monitor α}
    (hm : UpTo past m) (turns : List Turn) :
    let all := m.published :: viewed K m turns
    (∀ v ∈ all, v.snapshot =
        latest ((past ++ issues K m turns).take v.status.cyclesCompleted)) ∧
      all.Pairwise fun v w => v.status.cyclesCompleted ≤ w.status.cyclesCompleted := by
  induction turns generalizing past m with
  | nil =>
    refine ⟨fun v hv => ?_, List.pairwise_singleton _ _⟩
    obtain rfl := List.mem_singleton.mp hv
    exact hm.dated _
  | cons t rest ih =>
    have hafter := hm.after K t
    obtain ⟨old, new, hviews, hold, hnew⟩ := cycle_views_split K m t
    obtain ⟨hdated, hsorted⟩ := ih hafter
    obtain ⟨hlater, hrest⟩ := List.pairwise_cons.mp hsorted
    rw [List.append_assoc] at hdated
    have hle : m.status.cyclesCompleted ≤ (m.after K t).status.cyclesCompleted := by
      rw [hm.counted, hafter.counted, List.length_append]
      exact Nat.le_add_right _ _
    have hold : ∀ v ∈ m.published :: old, v.snapshot = m.current ∧
        v.status.cyclesCompleted = m.status.cyclesCompleted :=
      List.forall_mem_cons.mpr ⟨⟨rfl, rfl⟩, hold⟩
    have hnext : ∀ v ∈ new ++ viewed K (m.after K t) rest,
        (m.after K t).status.cyclesCompleted ≤ v.status.cyclesCompleted := by
      intro v hv
      rcases List.mem_append.mp hv with hv | hv
      · exact (hnew v hv).2.ge
      · exact hlater v hv
    rw [viewed, hviews, List.append_assoc, ← List.cons_append]
    refine ⟨fun v hv => ?_, List.pairwise_append.mpr ⟨?_, List.pairwise_append.mpr ⟨?_, hrest, ?_⟩,
      ?_⟩⟩
    · rcases List.mem_append.mp hv with hv | hv
      · obtain ⟨hsnapshot, hcompleted⟩ := hold v hv
        rw [hsnapshot, hcompleted]
        exact hm.dated _
      · rcases List.mem_append.mp hv with hv | hv
        · obtain ⟨hsnapshot, hcompleted⟩ := hnew v hv
          rw [hsnapshot, hcompleted]
          exact hdated _ List.mem_cons_self
        · exact hdated v (List.mem_cons_of_mem _ hv)
    · exact List.pairwise_of_forall_mem_list fun v hv w hw =>
        ((hold v hv).2.trans (hold w hw).2.symm).le
    · exact List.pairwise_of_forall_mem_list fun v hv w hw =>
        ((hnew v hv).2.trans (hnew w hw).2.symm).le
    · exact fun v hv w hw => (hnew v hv).2.le.trans (hlater w hw)
    · exact fun v hv w hw => ((hold v hv).2.le.trans hle).trans (hnext w hw)

/-! ### Looks -/

/-- What happens next: the cycles take a step that readers can see, or a reader looks. -/
inductive Beat where
  | step
  | look
deriving DecidableEq, Repr

/-- What looks come upon while a value is in place and others are to come. -/
def sights (now : Published) (ahead : List Published) : List Beat → List Published
  | [] => []
  | .look :: rest => now :: sights now ahead rest
  | .step :: rest => sights (ahead.headD now) ahead.tail rest

theorem mem_sights {now : Published} {ahead : List Published} {beats : List Beat} {v : Published}
    (h : v ∈ sights now ahead beats) : v ∈ now :: ahead := by
  induction beats generalizing now ahead with
  | nil => cases h
  | cons beat rest ih =>
    cases beat with
    | look =>
      rcases List.mem_cons.mp h with rfl | h
      · exact List.mem_cons_self
      · exact ih h
    | step =>
      cases ahead with
      | nil => exact ih h
      | cons next ahead => exact List.mem_cons_of_mem _ (ih h)

/-- Looks come upon values in the order in which these are put in place. -/
theorem sights_pairwise {r : Published → Published → Prop} (hrefl : ∀ v, r v v)
    {now : Published} {ahead : List Published} (h : (now :: ahead).Pairwise r)
    (beats : List Beat) : (sights now ahead beats).Pairwise r := by
  induction beats generalizing now ahead with
  | nil => exact .nil
  | cons beat rest ih =>
    cases beat with
    | look =>
      refine List.pairwise_cons.mpr ⟨fun v hv => ?_, ih h⟩
      rcases List.mem_cons.mp (mem_sights hv) with rfl | hv
      · exact hrefl v
      · exact (List.pairwise_cons.mp h).1 v hv
    | step =>
      cases ahead with
      | nil => exact ih h
      | cons next ahead => exact ih (List.pairwise_cons.mp h).2

/-- How many of the first cycles published a snapshot. -/
def publishedIn (past : List (Option Snapshot)) (cycles : Nat) : Nat :=
  ((past.take cycles).filterMap id).length

theorem latest_take (past : List (Option Snapshot)) (cycles : Nat) :
    latest (past.take cycles) =
      ((past.filterMap id).take (publishedIn past cycles)).getLast? := by
  have hprefix := (List.take_prefix cycles past).filterMap id
  rw [publishedIn, ← List.prefix_iff_eq_take.mp hprefix, latest]

theorem publishedIn_mono (past : List (Option Snapshot)) {a b : Nat} (h : a ≤ b) :
    publishedIn past a ≤ publishedIn past b :=
  ((List.take_prefix_take_left h).filterMap id).length_le

/-- **Readers see whole cycles.** A cycle of a run puts what it came to in place in one step; before
it all but the phase is as the cycle before left it, and after it only a trouble of the keeper is
counted. So whatever falls between these steps, a look comes upon the last snapshot of the cycles
that its status counts as completed, and a later look counts no fewer: the snapshot that a reader
sees after a status is no older than this, and readers see snapshots in the order in which they
were published. -/
theorem readers_see_whole_cycles (K : Keeper α) {source : String} {settings : Settings}
    {archive : Option α} {desk : Option Alert.Desk} {m : Monitor α}
    (hmake : make source settings archive desk = .ok m) (turns : List Turn) :
    (∀ t : Turn, ∃ before install after, Staged K (m.run K turns) t before install after) ∧
      ∀ beats : List Beat,
        let seen := sights m.published (viewed K m turns) beats
        (∀ v ∈ seen,
          v.snapshot = latest ((issues K m turns).take v.status.cyclesCompleted)) ∧
        seen.Pairwise (fun v w => v.status.cyclesCompleted ≤ w.status.cyclesCompleted) ∧
        ∃ ns : List Nat, ns.Pairwise (· ≤ ·) ∧
          seen.map (·.snapshot) = ns.map fun n => ((emissions K m turns).take n).getLast? := by
  refine ⟨fun t => cycle_views K (m.run K turns) t, fun beats => ?_⟩
  have hm : UpTo [] m := by
    obtain ⟨_, _, _, _, _, rfl⟩ := make_eq_ok hmake
    exact ⟨rfl, rfl⟩
  obtain ⟨hdated, hsorted⟩ := viewed_dated K hm turns
  intro seen
  have hseen : ∀ v ∈ seen,
      v.snapshot = latest ((issues K m turns).take v.status.cyclesCompleted) :=
    fun v hv => hdated v (mem_sights hv)
  have hcounts : seen.Pairwise
      fun v w => v.status.cyclesCompleted ≤ w.status.cyclesCompleted :=
    sights_pairwise (fun _ => Nat.le_refl _) hsorted beats
  refine ⟨hseen, hcounts, seen.map fun v => publishedIn (issues K m turns)
    v.status.cyclesCompleted, ?_, ?_⟩
  · exact List.pairwise_map.mpr (hcounts.imp fun h => publishedIn_mono _ h)
  · rw [List.map_map]
    refine List.map_congr_left fun v hv => ?_
    rw [hseen v hv, latest_take, issues_filterMap]
    rfl

/-- Looks at two cycles: before the first and in its middle, after its snapshot was published, and
when the second fetches. -/
theorem readers_see_whole_cycles_two :
    let turns : List Turn := [.ofFees [100] newYear, .ofFees [300] newYear]
    let beats : List Beat :=
      [.look, .step, .step, .look, .step, .step, .step, .look, .step, .look]
    let first : Snapshot := ⟨"100", "100", "100", "100", newYear, 1, .normal⟩
    let second : Snapshot := ⟨"100", "100", "300", "200", newYear, 2, .normal⟩
    ∃ m : Monitor History.Store, make "feed" {} none none = .ok m ∧
      (sights m.published (viewed .store m turns) beats).map
          (fun v => (v.status.phase, v.status.cyclesCompleted)) =
        [(.idle, 0), (.ingesting, 0), (.idle, 1), (.fetching, 1)] ∧
      ∀ v ∈ sights m.published (viewed .store m turns) beats,
        v.snapshot = latest ([some first, some second].take v.status.cyclesCompleted) := by
  intro turns beats first second
  have hrun : (make "feed" {} none none).toOption.any (fun m : Monitor History.Store => decide
      (issues .store m turns = [some first, some second] ∧
        (sights m.published (viewed .store m turns) beats).map
            (fun v => (v.status.phase, v.status.cyclesCompleted)) =
          [(.idle, 0), (.ingesting, 0), (.idle, 1), (.fetching, 1)])) = true := by
    decide +kernel
  obtain ⟨m, hmake, hrun⟩ := exists_ok_of_any hrun
  obtain ⟨hissues, hphases⟩ := of_decide_eq_true hrun
  obtain ⟨hseen, -⟩ := (readers_see_whole_cycles .store hmake turns).2 beats
  rw [hissues] at hseen
  exact ⟨m, hmake, hphases, hseen⟩

end FeeWatch.Monitor
