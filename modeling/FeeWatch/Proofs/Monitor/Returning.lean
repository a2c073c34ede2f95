import FeeWatch.Proofs.Congestion.Comparable
import FeeWatch.Proofs.Monitor.Announcement

/-! Which cycles return.

A failed fetch is always dealt with. A batch is, if the window, the detector and the
snapshot can take it (`Absorbs`): the time from which on points are fresh must lie in
the calendar, the aggregates must compare with the thresholds, and no fee may be too
long to be written. `returns_iff_absorbs` says what has happened after a cycle that
returns, and what after one that does not: then the batch is in the window, and nothing
was published or kept of it (`stranded_before_calendar`). -/
namespace FeeWatch.Monitor

open FeeWatch.Calendar (Instant)
open FeeWatch.Fee (Phase Point Snapshot Status)

variable {α : Type}

/-! ### Desks that return -/

/-- Whether all posts of a desk return, if there is a desk. -/
def IsAnswered (desk : Option Alert.Desk) : Prop := ∀ d ∈ desk, d.hook.Returns

theorem IsAnswered.told {desk : Option Alert.Desk} (h : IsAnswered desk) (kept : Option Snapshot)
    (status : Status) (now : Instant) :
    telling desk kept status now = .ok () ∧ IsAnswered (told desk kept status now) := by
  cases desk with
  | none => exact ⟨rfl, nofun⟩
  | some d =>
    obtain ⟨d', log, hannounce, hreturns, _⟩ := announce_returns (h d rfl) kept status now
    rw [telling, Monitor.told, Option.map_some, hannounce]
    exact ⟨rfl, fun e he => Option.some.inj he ▸ hreturns⟩

theorem after_answered (K : Keeper α) {m : Monitor α} (hm : IsAnswered m.desk) (t : Turn) :
    IsAnswered (m.after K t).desk := by
  cases m.way K t with
  | failed f fetched made after =>
    rw [after]
    exact (hm.told _ _ _).2
  | stuck points f fetched digested made after =>
    rw [after]
    exact hm
  | shown points left fetched digested made emission after =>
    rw [after]
    exact (hm.told _ _ _).2

theorem run_answered (K : Keeper α) {m : Monitor α} (hm : IsAnswered m.desk) (turns : List Turn) :
    IsAnswered (m.run K turns).desk := by
  induction turns generalizing m with
  | nil => exact hm
  | cons t rest ih => exact ih (after_answered K hm t)

/-! ### Batches that can be taken -/

/-- Whether a monitor can take a batch. -/
structure Absorbs (m : Monitor α) (points : List Point) : Prop where
  dated : Window.isDated (m.window.cutoffAfter points) = true
  detected : ∃ judged, m.detector.evaluate (reading (m.window.ingest points).2) = .ok judged
  writable : isUnwritable m.settings (m.window.ingest points).2 = false

theorem digest_window (m : Monitor α) (points : List Point) :
    (m.digest points).window = (m.window.ingest points).2 := by
  rcases digest_cases m points with ⟨_, hingest, _⟩ | ⟨_, _, hingest, _⟩ | ⟨_, _, _, hingest, _⟩ |
    ⟨_, _, hingest, _⟩ <;> exact (congrArg Prod.snd hingest).symm

theorem digest_isOk_iff {m : Monitor α} (hm : m.window.Sound) (points : List Point) :
    (∃ left, (m.digest points).outcome = .ok left) ↔ m.Absorbs points := by
  have hwindow := digest_window m points
  rcases digest_cases m points with ⟨f, hingest, _, hdigest⟩ | ⟨left, f, _, hdetect, _, hdigest⟩ |
    ⟨left, log, phase, _, _, hlong, hdigest⟩ | ⟨left, log, hingest, hdetect, hshort, hdigest⟩ <;>
    rw [hdigest]
  · -- Of the faults of a window a sound one only meets that of the calendar.
    refine ⟨nofun, fun h => ?_⟩
    rcases Window.ingest_cases hm points with ⟨hdated, _⟩ | ⟨_, _, _, hreturned⟩
    · exact absurd (hdated.symm.trans h.dated) Bool.false_ne_true
    · cases hingest.symm.trans hreturned
  · refine ⟨nofun, fun h => ?_⟩
    obtain ⟨judged, hjudged⟩ := h.detected
    rw [← hwindow, hdetect] at hjudged
    cases hjudged
  · refine ⟨nofun, fun h => ?_⟩
    rw [hwindow, h.writable] at hlong
    cases hlong
  · refine ⟨fun _ => ⟨?_, ?_, ?_⟩, fun _ => ⟨left, rfl⟩⟩
    · rcases Window.ingest_cases hm points with ⟨_, hfailed⟩ | ⟨hdated, _⟩
      · cases hingest.symm.trans hfailed
      · exact hdated
    · exact hwindow ▸ ⟨_, hdetect⟩
    · exact hwindow ▸ hshort

/-- A batch that is not taken leaves the cycle in its middle. -/
theorem digest_phase {m : Monitor α} {points : List Point} {f : Fault} {phase : Phase}
    (h : (m.digest points).outcome = .error (f, phase)) : phase ≠ .idle ∧ phase ≠ .degraded := by
  unfold digest at h
  (repeat' split at h) <;> cases h <;> decide

/-- A cycle returns if its fetch failed or its batch can be taken. -/
theorem returned_iff (K : Keeper α) {m : Monitor α} (hm : m.window.Sound)
    (hdesk : IsAnswered m.desk) (t : Turn) :
    (∃ r, (m.cycle K t.outcome t.now).result = .ok r) ↔
      ∀ points, t.outcome = .ok points → m.Absorbs points := by
  cases t.outcome with
  | error f =>
    rw [(cycle_failed K m f t.now).2, (hdesk.told none _ t.now).1]
    exact ⟨fun _ => nofun, fun _ => ⟨_, rfl⟩⟩
  | ok points =>
    have habsorbs : (∀ points', (Except.ok points : Outcome) = .ok points' → m.Absorbs points') ↔
        m.Absorbs points :=
      ⟨fun h => h points rfl, fun h points' heq => Except.ok.inj heq ▸ h⟩
    rw [habsorbs, ← digest_isOk_iff hm]
    cases hdigest : (m.digest points).outcome with
    | error f =>
      rw [(cycle_stuck K hdigest t.now).2]
      constructor <;> rintro ⟨_, h⟩ <;> cases h
    | ok left =>
      rw [(cycle_digested K hdigest t.now).2, (hdesk.told _ _ t.now).1]
      exact ⟨fun _ => ⟨left, rfl⟩, fun _ => ⟨_, rfl⟩⟩

/-! ### Detectors of a run -/

theorem Course.detector_eq {m m' : Monitor α} {outcome : Outcome} {now : Instant}
    {result : Except Fault Result} (h : Course m outcome now result m') :
    m'.detector = m.detector ∨
      ∃ w log, m.detector.evaluate (reading w) = .ok (m'.detector, log) := by
  cases h with
  | unwritten points left window detector log fetched ingested detected overlong monitor =>
    obtain ⟨phase, rfl⟩ := monitor
    exact .inr ⟨window, log, detected⟩
  | published points left window detector log archive desk troubles fetched ingested detected
      monitor =>
    subst monitor
    exact .inr ⟨window, log, detected⟩
  | _ => subst m'; exact .inl rfl

theorem run_comparable (K : Keeper α) {m : Monitor α} (hm : m.detector.IsComparable)
    (turns : List Turn) : (m.run K turns).detector.IsComparable := by
  induction turns generalizing m with
  | nil => exact hm
  | cons t rest ih =>
    refine ih ?_
    rcases (cycle_course K m t.outcome t.now).detector_eq with hsame | ⟨w, log, hevaluate⟩
    · exact hsame ▸ hm
    · obtain ⟨d, log', hevaluate', hd⟩ :=
        hm.evaluate w.tally.average w.extremes.min w.extremes.max
      rw [reading, hevaluate'] at hevaluate
      cases hevaluate
      exact hd

/-! ### What has happened after a cycle -/

/-- What has happened when a cycle returned: it is over and counted, and of a batch that was
fetched the window's points are published and the batch was handed to the keeper. -/
structure Settled (K : Keeper α) (settings : Settings) (m : Monitor α) (t : Turn)
    (m' : Monitor α) : Prop where
  phase : m'.status.phase = .idle ∨ m'.status.phase = .degraded
  counted : m'.status.cyclesCompleted + m'.status.totalFailures =
    m.status.cyclesCompleted + m.status.totalFailures + 1
  published (points : List Point) (h : t.outcome = .ok points) :
    ∃ s, m'.current = some s ∧ States s settings.baseFee m'.window m'.detector.state
  kept (points : List Point) (h : t.outcome = .ok points) :
    m'.archive = stored K m.archive points (m.emission t)

/-- What has happened when a cycle did not return: its batch is in the window, and of it nothing
is published, counted or kept. -/
structure Stranded (m : Monitor α) (t : Turn) (m' : Monitor α) : Prop where
  window : ∃ points, t.outcome = .ok points ∧ m'.window = (m.window.ingest points).2
  published : ∃ phase, phase ≠ .idle ∧ phase ≠ .degraded ∧
    m'.published = ⟨m.current, { m.status with phase }⟩
  archive : m'.archive = m.archive

theorem settled_after (K : Keeper α) {settings : Settings} {m : Monitor α} (hm : m.Steady settings)
    {t : Turn} {r : Result} (h : (m.cycle K t.outcome t.now).result = .ok r) :
    Settled K settings m t (m.after K t) := by
  rcases cycle_returned K h with ⟨f, houtcome, _⟩ | ⟨points, left, houtcome, hdigest, rfl⟩
  · have hmonitor := (cycle_failed K m f t.now).1
    rw [after, houtcome, hmonitor]
    exact {
      phase := .inr rfl
      counted := rfl
      published := fun _ hpoints => by cases houtcome.symm.trans hpoints
      kept := fun _ hpoints => by cases houtcome.symm.trans hpoints }
  · obtain ⟨hcurrent, hstates⟩ := after_complete K hm h
    have hmonitor := (cycle_digested K hdigest t.now).1
    rw [after, houtcome, hmonitor] at hcurrent hstates ⊢
    exact {
      phase := .inl rfl
      counted := Nat.succ_add _ _
      published := fun _ _ => ⟨_, hcurrent, hstates⟩
      kept := fun points' hpoints => by
        obtain rfl : points = points' := Except.ok.inj (houtcome.symm.trans hpoints)
        rw [emission_digested houtcome hdigest]
        rfl }

theorem stranded_after (K : Keeper α) {m : Monitor α} (hdesk : IsAnswered m.desk) {t : Turn}
    (h : ¬ ∃ r, (m.cycle K t.outcome t.now).result = .ok r) : Stranded m t (m.after K t) := by
  cases m.way K t with
  | failed f fetched =>
    rw [fetched, (cycle_failed K m f t.now).2, (hdesk.told none _ t.now).1] at h
    exact absurd ⟨_, rfl⟩ h
  | shown points left fetched digested =>
    rw [fetched, (cycle_digested K digested t.now).2, (hdesk.told _ _ t.now).1] at h
    exact absurd ⟨_, rfl⟩ h
  | stuck points f fetched digested made after =>
    obtain ⟨hidle, hdegraded⟩ := digest_phase digested
    rw [after]
    exact ⟨⟨points, fetched, digest_window m points⟩, ⟨f.2, hidle, hdegraded, rfl⟩, rfl⟩

/-- **Which cycles return, and what has happened then.** A cycle returns exactly if its fetch failed
or its batch can be taken; with settings that are numbers, this only takes a time in the calendar
and fees that can be written. A cycle that returns has settled all that it was to do, and one that
does not leaves its batch in the window and nothing else. -/
theorem returns_iff_absorbs (K : Keeper α) {source : String} {settings : Settings}
    {archive : Option α} {desk : Option Alert.Desk} {m : Monitor α}
    (hmake : make source settings archive desk = .ok m) (hdesk : IsAnswered desk)
    (turns : List Turn) (t : Turn) :
    let n := m.run K turns
    let n' := m.run K (turns ++ [t])
    let returned := ∃ r, (n.cycle K t.outcome t.now).result = .ok r
    (returned ↔ ∀ points, t.outcome = .ok points → n.Absorbs points) ∧
      (returned → Settled K settings n t n') ∧ (¬ returned → Stranded n t n') ∧
      (settings.thresholds.IsNumeric → ∀ points, n.Absorbs points ↔
        Window.isDated (n.window.cutoffAfter points) = true ∧
          isUnwritable settings (n.window.ingest points).2 = false) := by
  intro n n' returned
  have hsteady : n.Steady settings := run_steady K (make_steady hmake) turns
  have hn' : n' = n.after K t := run_concat K m turns t
  have hanswered : IsAnswered n.desk := by
    refine run_answered K ?_ turns
    obtain ⟨_, _, _, _, _, rfl⟩ := make_eq_ok hmake
    exact hdesk
  refine ⟨returned_iff K hsteady.window hanswered t, ?_, ?_, fun hnumeric points => ?_⟩
  · rintro ⟨r, hr⟩
    exact hn' ▸ settled_after K hsteady hr
  · exact fun h => hn' ▸ stranded_after K hanswered h
  · have hcomparable : n.detector.IsComparable := by
      refine run_comparable K ?_ turns
      obtain ⟨_, _, _, _, hdetector, rfl⟩ := make_eq_ok hmake
      exact Congestion.Detector.make_isComparable hdetector hnumeric
    rw [← hsteady.settings]
    refine ⟨fun h => ⟨h.dated, h.writable⟩, fun ⟨hdated, hwritable⟩ => ⟨hdated, ?_, hwritable⟩⟩
    obtain ⟨d, log, hevaluate, _⟩ := hcomparable.evaluate
      (n.window.ingest points).2.tally.average (n.window.ingest points).2.extremes.min
      (n.window.ingest points).2.extremes.max
    exact ⟨_, hevaluate⟩

/-- The first moment of the year 2024. -/
def newYear : Instant := ⟨738885 * Calendar.day, by decide⟩

/-- With the default settings a cycle with points of the year 2024 returns. -/
theorem returns_iff_absorbs_newYear :
    ∃ m : Monitor History.Store, make "feed" {} none none = .ok m ∧
      (∃ r, (m.cycle .store (Turn.ofFees [100, 300] newYear).outcome newYear).result = .ok r) ∧
      Settled .store {} m (.ofFees [100, 300] newYear)
        (m.run .store [.ofFees [100, 300] newYear]) := by
  let points : List Point := [⟨100, newYear, "", 0⟩, ⟨300, newYear, "", 0⟩]
  have hrun : (match (make "feed" {} none none : Except _ (Monitor History.Store)) with
      | .ok m => Window.isDated (m.window.cutoffAfter points) &&
          !isUnwritable {} (m.window.ingest points).2
      | .error _ => false) = true := by
    decide +kernel
  have hnumeric : ({} : Settings).thresholds.IsNumeric := by
    unfold Congestion.Thresholds.IsNumeric
    decide
  cases hmake : (make "feed" {} none none : Except _ (Monitor History.Store)) with
  | error f => rw [hmake] at hrun; cases hrun
  | ok m =>
    rw [hmake] at hrun
    obtain ⟨hdated, hwritable⟩ := Bool.and_eq_true_iff.mp hrun
    obtain ⟨hreturned, hsettled, _, hnumbers⟩ := returns_iff_absorbs .store hmake nofun []
      (.ofFees [100, 300] newYear)
    have hreturns := hreturned.mpr fun points' h => by
      obtain rfl : points = points' := Except.ok.inj h
      exact (hnumbers hnumeric points).mpr ⟨hdated, (Bool.not_eq_true' _).mp hwritable⟩
    exact ⟨m, rfl, hreturns, hsettled hreturns⟩

/-- **Points may be stranded.** A greatest age of 3,000 years is accepted, but reaches back beyond
the year 1: the point of a cycle enters the window, and nobody hears of it. -/
theorem stranded_before_calendar :
    let settings : Settings := { maxAge := .int 100000000000 }
    let t : Turn := .ofFees [100] newYear
    ∃ m : Monitor History.Store,
      make "feed" settings (some (.database .memory true .empty)) none = .ok m ∧
      (m.cycle .store t.outcome t.now).result = .error (.window .outOfRange) ∧
      (m.run .store [t]).window.points = [⟨100, newYear, "", 0⟩] ∧
      (m.run .store [t]).published = ⟨none, { source := "feed", phase := .ingesting }⟩ ∧
      (m.run .store [t]).archive = some (.database .memory true .empty) := by
  intro settings t
  have hrun : (match make "feed" settings (some (.database .memory true .empty)) none with
      | .ok m => decide ((m.cycle .store t.outcome t.now).result = .error (.window .outOfRange) ∧
          (m.run .store [t]).window.points = [⟨100, newYear, "", 0⟩] ∧
          (m.run .store [t]).published = ⟨none, { source := "feed", phase := .ingesting }⟩ ∧
          (m.run .store [t]).archive = some (.database .memory true .empty))
      | .error _ => false) = true := by
    decide +kernel
  cases hmake : make "feed" settings (some (History.Store.database .memory true .empty)) none with
  | error f => rw [hmake] at hrun; cases hrun
  | ok m =>
    rw [hmake] at hrun
    exact ⟨m, rfl, of_decide_eq_true hrun⟩

end FeeWatch.Monitor
