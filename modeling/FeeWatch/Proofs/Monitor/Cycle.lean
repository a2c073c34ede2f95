import FeeWatch.Monitor.Station
import FeeWatch.Proofs.Setting

/-! What one cycle does to a monitor.

The archive, the desk and the count of the keeper's troubles follow the outside
world (`aside`). Everything else follows from the outcome of the fetch. What a batch
does to the window and the detector is decided before anything of it is published
(`digest`), by these two and the settings alone. `cycle_failed`, `cycle_stuck` and
`cycle_digested` say all that a cycle does in each of its three ways; `Course` says
it by cases, the faults that end a cycle included, and `cycle_course` that there are
no others. -/
namespace FeeWatch.Monitor

open FeeWatch.Calendar (Instant)
open FeeWatch.Fee (Phase Point Snapshot Status)

variable {α : Type}

/-! ### The outside world -/

/-- A monitor with another archive and desk and another count of the keeper's troubles. -/
def aside (m : Monitor α) (archive : Option α) (desk : Option Alert.Desk) (troubles : Nat) :
    Monitor α :=
  { m with
    archive, desk
    published := ⟨m.current, { m.status with persistenceFailures := troubles }⟩ }

/-- An archive after its keeper was handed points and perhaps a snapshot. -/
def stored (K : Keeper α) (archive : Option α) (points : List Point) (kept : Option Snapshot) :
    Option α :=
  archive.map fun a => (keep K points kept a).2.1

/-- Whether the keeper had trouble with that. -/
def isTroubled (K : Keeper α) (archive : Option α) (points : List Point)
    (kept : Option Snapshot) : Bool :=
  archive.any fun a => !(keep K points kept a).1.isOk

/-- The desk after it was told of a cycle. -/
def told (desk : Option Alert.Desk) (kept : Option Snapshot) (status : Status) (now : Instant) :
    Option Alert.Desk :=
  desk.map fun d => (announce d kept status now).2.1

/-- What telling the desk came to. -/
def telling (desk : Option Alert.Desk) (kept : Option Snapshot) (status : Status)
    (now : Instant) : Except Fault Unit :=
  match desk with
  | none => .ok ()
  | some d => (announce d kept status now).1.mapError .alert

theorem persist_monitor (K : Keeper α) (m : Monitor α) (points : List Point)
    (kept : Option Snapshot) :
    (m.persist K points kept).1 = m.aside (stored K m.archive points kept) m.desk
      (m.status.persistenceFailures + (isTroubled K m.archive points kept).toNat) := by
  obtain ⟨settings, window, detector, published, archive, desk⟩ := m
  cases archive with
  | none => rfl
  | some archive =>
    simp only [persist, stored, isTroubled, Option.map_some, Option.any_some]
    rcases keep K points kept archive with ⟨result, archive', log⟩
    cases result <;> rfl

/-- Readers see that a keeper had trouble when this is counted. -/
theorem persist_views (K : Keeper α) (m : Monitor α) (points : List Point)
    (kept : Option Snapshot) :
    (m.persist K points kept).2.1 =
      if isTroubled K m.archive points kept then [(m.persist K points kept).1.published] else [] := by
  obtain ⟨settings, window, detector, published, archive, desk⟩ := m
  cases archive with
  | none => rfl
  | some archive =>
    obtain ⟨result, archive', log, hkeep⟩ :
        ∃ result archive' log, keep K points kept archive = (result, archive', log) :=
      ⟨_, _, _, rfl⟩
    simp only [persist, isTroubled, Option.any_some, hkeep]
    cases result <;> rfl

/-- Announcements change the desk alone. -/
theorem notify_monitor (m : Monitor α) (kept : Option Snapshot) (status : Status) (now : Instant) :
    (m.notify kept status now).2.1 =
      m.aside m.archive (told m.desk kept status now) m.status.persistenceFailures := by
  obtain ⟨settings, window, detector, published, archive, desk⟩ := m
  cases desk <;> rfl

theorem notify_result (m : Monitor α) (kept : Option Snapshot) (status : Status) (now : Instant) :
    (m.notify kept status now).1 = telling m.desk kept status now := by
  obtain ⟨settings, window, detector, published, archive, desk⟩ := m
  cases desk <;> rfl

/-- Only a hook makes announcements fail. -/
theorem telling_cases (desk : Option Alert.Desk) (kept : Option Snapshot) (status : Status)
    (now : Instant) (r : Result) :
    (telling desk kept status now).map (fun _ => r) = .ok r ∨
      ∃ f, (telling desk kept status now).map (fun _ => r) = .error (.alert f) := by
  cases desk with
  | none => exact .inl rfl
  | some d =>
    rw [telling]
    cases (announce d kept status now).1 with
    | ok => exact .inl rfl
    | error f => exact .inr ⟨f, rfl⟩

/-! ### Publication -/

/-- A monitor with the window and the detector that a batch brought. -/
def taking (m : Monitor α) (window : Window) (detector : Congestion.Detector) : Monitor α :=
  { m with window, detector }

/-- The snapshot that a monitor makes of its window. -/
def shown (m : Monitor α) (now : Instant) : Snapshot :=
  candidate m.settings m.window m.detector.state now

/-- The snapshot that a monitor publishes of its window, if its policy has it publish one. -/
def kept (m : Monitor α) (now : Instant) : Option Snapshot :=
  if emits m.settings.policy m.current (m.shown now) then some (m.shown now) else none

/-- What a cycle comes to that publishes so. -/
def completion (m : Monitor α) (points left : List Point) (now : Instant) : Result :=
  .complete points.length left.length ((m.kept now).getD (m.current.getD (m.shown now)))
    (m.kept now).isSome

theorem shown_enter (m : Monitor α) (phase : Phase) (now : Instant) :
    (m.enter phase).shown now = m.shown now := rfl

/-- What is published does not depend on the phase. -/
theorem kept_enter (m : Monitor α) (phase : Phase) (now : Instant) :
    (m.enter phase).kept now = m.kept now := by
  rw [kept, kept, shown_enter]
  rfl

theorem completion_enter (m : Monitor α) (phase : Phase) (points left : List Point)
    (now : Instant) :
    (m.enter phase).completion points left now = m.completion points left now := by
  rw [completion, completion, kept_enter, shown_enter]
  rfl

/-! ### Digesting a batch -/

/-- How far a batch takes a cycle before anything of it is published. -/
structure Digest where
  window : Window
  detector : Congestion.Detector
  /-- The points that left, or the fault that ends the cycle, with the phase that is left behind. -/
  outcome : Except (Fault × Phase) (List Point)

/-- What a monitor makes of a batch. -/
def digest (m : Monitor α) (points : List Point) : Digest :=
  match m.window.ingest points with
  | (.error f, window) => ⟨window, m.detector, .error (.window f, .ingesting)⟩
  | (.ok left, window) =>
    match m.detector.evaluate (reading window) with
    | .error f => ⟨window, m.detector, .error (.detector f, .recomputing)⟩
    | .ok (detector, log) =>
      if !log.isEmpty && (reading window).isOverlong then
        ⟨window, detector, .error (.unwritable, .recomputing)⟩
      else if isUnwritable m.settings window then
        ⟨window, detector, .error (.unwritable, .snapshotting)⟩
      else ⟨window, detector, .ok left⟩

/-- A monitor with the window and the detector that a batch brought. -/
def digested (m : Monitor α) (points : List Point) : Monitor α :=
  m.taking (m.digest points).window (m.digest points).detector

/-- The snapshot that a monitor publishes of a batch, if its policy has it publish one. -/
def news (m : Monitor α) (points : List Point) (now : Instant) : Option Snapshot :=
  (m.digested points).kept now

/-- A monitor that has published a batch. -/
def showing (m : Monitor α) (points : List Point) (now : Instant) : Monitor α :=
  (m.digested points).publish (m.news points now) (m.digested points).detector.state now

theorem digest_cases (m : Monitor α) (points : List Point) :
    (∃ f, m.window.ingest points = (.error f, (m.digest points).window) ∧
      (m.digest points).detector = m.detector ∧
      (m.digest points).outcome = .error (.window f, .ingesting)) ∨
    (∃ left f, m.window.ingest points = (.ok left, (m.digest points).window) ∧
      m.detector.evaluate (reading (m.digest points).window) = .error f ∧
      (m.digest points).detector = m.detector ∧
      (m.digest points).outcome = .error (.detector f, .recomputing)) ∨
    (∃ left log phase, m.window.ingest points = (.ok left, (m.digest points).window) ∧
      m.detector.evaluate (reading (m.digest points).window) =
        .ok ((m.digest points).detector, log) ∧
      isUnwritable m.settings (m.digest points).window = true ∧
      (m.digest points).outcome = .error (.unwritable, phase)) ∨
    ∃ left log, m.window.ingest points = (.ok left, (m.digest points).window) ∧
      m.detector.evaluate (reading (m.digest points).window) =
        .ok ((m.digest points).detector, log) ∧
      isUnwritable m.settings (m.digest points).window = false ∧
      (m.digest points).outcome = .ok left := by
  unfold digest
  rcases hingest : m.window.ingest points with ⟨ingested, window⟩
  cases ingested with
  | error f => exact .inl ⟨f, rfl, rfl, rfl⟩
  | ok left =>
    dsimp only
    cases hdetect : m.detector.evaluate (reading window) with
    | error f => exact .inr (.inl ⟨left, f, rfl, hdetect, rfl, rfl⟩)
    | ok judged =>
      obtain ⟨detector, log⟩ := judged
      dsimp only
      by_cases hlog : (!log.isEmpty && (reading window).isOverlong) = true
      · have hlong : isUnwritable m.settings window = true := by
          rw [isUnwritable, (Bool.and_eq_true_iff.mp hlog).2, Bool.or_true]
        rw [if_pos hlog]
        exact .inr (.inr (.inl ⟨left, log, .recomputing, rfl, hdetect, hlong, rfl⟩))
      · rw [if_neg hlog]
        cases hlong : isUnwritable m.settings window with
        | true => exact .inr (.inr (.inl ⟨left, log, .snapshotting, rfl, hdetect, hlong, rfl⟩))
        | false => exact .inr (.inr (.inr ⟨left, log, rfl, hdetect, hlong, rfl⟩))

/-! ### Records of others -/

/-- Whether no record of a log is the monitor's own. -/
def IsForeign (log : Log) : Prop := ∀ r ∈ log, r.origin ≠ .monitor

theorem IsForeign.nil : IsForeign [] := List.forall_mem_nil _

theorem IsForeign.single {r : Record} (h : r.origin ≠ .monitor) : IsForeign [r] := by
  intro r' hr'
  obtain rfl := List.mem_singleton.mp hr'
  exact h

theorem evaluate_foreign {d d' : Congestion.Detector} {r : Congestion.Reading} {log : Log}
    (h : d.evaluate r = .ok (d', log)) : IsForeign log := by
  unfold Congestion.Detector.evaluate at h
  split at h
  · obtain ⟨high, _, h⟩ := bind_eq_ok.mp h
    split at h
    · dsimp only at h
      split at h <;> cases h
      · exact .single Origin.noConfusion
      · exact .nil
    · cases h
      exact .nil
  · obtain ⟨low, _, h⟩ := bind_eq_ok.mp h
    split at h <;> cases h
    · exact .single Origin.noConfusion
    · exact .nil

/-! ### The three ways of a cycle -/

/-- The monitor after a failed fetch. -/
theorem cycle_failed (K : Keeper α) (m : Monitor α) (f : Source.Fault) (now : Instant) :
    (m.cycle K (.error f) now).monitor = (m.countFailure f).aside m.archive
        (told m.desk none (m.countFailure f).status now) m.status.persistenceFailures ∧
      (m.cycle K (.error f) now).result =
        (telling m.desk none (m.countFailure f).status now).map fun _ => .failed f m.current := by
  have hmonitor := notify_monitor (m.countFailure f) none (m.countFailure f).status now
  have hresult := notify_result (m.countFailure f) none (m.countFailure f).status now
  exact ⟨hmonitor, congrArg (·.map fun _ => Result.failed f m.current) hresult⟩

theorem conclude_monitor (K : Keeper α) (m : Monitor α) (points left : List Point) (now : Instant) :
    (conclude K m points left now).monitor =
      (m.publish (m.kept now) m.detector.state now).aside
        (stored K m.archive points (m.kept now))
        (told m.desk (m.kept now) (m.publish (m.kept now) m.detector.state now).status now)
        (m.status.persistenceFailures + (isTroubled K m.archive points (m.kept now)).toNat) := by
  have hstored := persist_monitor K (m.publish (m.kept now) m.detector.state now) points
    (m.kept now)
  show (notify (persist K (m.publish (m.kept now) m.detector.state now) points (m.kept now)).1 _ _
    now).2.1 = _
  rw [hstored]
  exact notify_monitor _ _ _ _

theorem conclude_result (K : Keeper α) (m : Monitor α) (points left : List Point) (now : Instant) :
    (conclude K m points left now).result =
      (telling m.desk (m.kept now) (m.publish (m.kept now) m.detector.state now).status now).map
        fun _ => m.completion points left now := by
  have hstored := persist_monitor K (m.publish (m.kept now) m.detector.state now) points
    (m.kept now)
  have hr : m.completion points left now = .complete points.length left.length
      (if emits m.settings.policy m.current (m.shown now) then m.shown now
        else m.current.getD (m.shown now))
      (emits m.settings.policy m.current (m.shown now)) := by
    rw [completion, kept]
    cases emits m.settings.policy m.current (m.shown now) <;> rfl
  rw [hr]
  show (notify (persist K (m.publish (m.kept now) m.detector.state now) points (m.kept now)).1 _ _
    now).1.map _ = _
  rw [hstored, notify_result]
  rfl

/-- What readers see while a cycle goes from phase to phase. -/
def passing (m : Monitor α) (phases : List Phase) : List Published :=
  phases.map fun phase => (m.enter phase).published

/-- A run that came after earlier views and records. -/
def Run.behind (run : Run α) (views : List Published) (log : Log) : Run α :=
  { run with views := views ++ run.views, log := log ++ run.log }

theorem conclude_views (K : Keeper α) (m : Monitor α) (points left : List Point) (now : Instant) :
    (conclude K m points left now).views =
      (m.publish (m.kept now) m.detector.state now).published ::
        if isTroubled K m.archive points (m.kept now) then
          [(conclude K m points left now).monitor.published]
        else [] := by
  have hviews := persist_views K (m.publish (m.kept now) m.detector.state now) points (m.kept now)
  have hpublished : (conclude K m points left now).monitor.published =
      (persist K (m.publish (m.kept now) m.detector.state now) points (m.kept now)).1.published := by
    show (notify (persist K (m.publish (m.kept now) m.detector.state now) points (m.kept now)).1 _ _
      now).2.1.published = _
    rw [notify_monitor]
    rfl
  rw [hpublished]
  exact congrArg ((m.publish (m.kept now) m.detector.state now).published :: ·) hviews

/-- Of the phases of a cycle only the last one is left. -/
theorem enter_phases (m : Monitor α) (p q r t : Phase) (window : Window)
    (detector : Congestion.Detector) :
    { { (m.enter p).enter q with window }.enter r with detector }.enter t =
      (m.taking window detector).enter t := rfl

/-- What a cycle does with a batch, which is digested first. Until that is done readers see nothing
but phases, and only the detector writes records. -/
theorem absorb_cases (K : Keeper α) (m : Monitor α) (points : List Point) (now : Instant) :
    (∃ f phases phase log, (m.digest points).outcome = .error (f, phase) ∧ IsForeign log ∧
      absorb K (m.enter .fetching) points now =
        ⟨.error f, (m.digested points).enter phase, m.passing (phases ++ [phase]), log⟩) ∨
    ∃ left log, (m.digest points).outcome = .ok left ∧ IsForeign log ∧
      absorb K (m.enter .fetching) points now =
        (conclude K ((m.digested points).enter .snapshotting) points left now).behind
          (m.passing [.ingesting, .recomputing, .snapshotting]) log := by
  have hwindow : ((m.enter .fetching).enter .ingesting).window = m.window := rfl
  have hdetector (window : Window) :
      ({ (m.enter .fetching).enter .ingesting with window }.enter .recomputing).detector =
        m.detector := rfl
  have hsettings : (m.enter .fetching).settings = m.settings := rfl
  unfold digested digest absorb
  simp only [hwindow, hdetector, hsettings]
  cases hingest : m.window.ingest points with
  | mk ingested window =>
    cases ingested with
    | error f => exact .inl ⟨.window f, [], .ingesting, [], rfl, .nil, rfl⟩
    | ok left =>
      dsimp only
      cases hdetect : m.detector.evaluate (reading window) with
      | error f => exact .inl ⟨.detector f, [.ingesting], .recomputing, [], rfl, .nil, rfl⟩
      | ok judged =>
        obtain ⟨detector, log⟩ := judged
        have hforeign := evaluate_foreign hdetect
        dsimp only
        by_cases hlog : (!log.isEmpty && (reading window).isOverlong) = true
        · simp only [if_pos hlog]
          exact .inl ⟨.unwritable, [.ingesting], .recomputing, [], rfl, .nil, rfl⟩
        · by_cases hlong : isUnwritable m.settings window = true
          · simp only [if_neg hlog, if_pos hlong, List.append_nil]
            exact .inl ⟨.unwritable, [.ingesting, .recomputing], .snapshotting, log, rfl, hforeign,
              rfl⟩
          · simp only [if_neg hlog, if_neg hlong, enter_phases]
            exact .inr ⟨left, log, rfl, hforeign, rfl⟩

/-- A cycle whose fetch returned points shows first that it fetches. -/
theorem cycle_ok (K : Keeper α) (m : Monitor α) (points : List Point) (now : Instant) :
    m.cycle K (.ok points) now =
      (absorb K (m.enter .fetching) points now).behind [(m.enter .fetching).published] [] := rfl

/-- A cycle that cannot digest its batch publishes nothing. -/
theorem cycle_stuck (K : Keeper α) {m : Monitor α} {points : List Point} {f : Fault}
    {phase : Phase} (h : (m.digest points).outcome = .error (f, phase)) (now : Instant) :
    (m.cycle K (.ok points) now).monitor = (m.digested points).enter phase ∧
      (m.cycle K (.ok points) now).result = .error f := by
  rcases absorb_cases K m points now with
    ⟨f', phases, phase', log, hdigest, _, habsorb⟩ | ⟨left, log, hdigest, _⟩
  · rw [h] at hdigest
    cases hdigest
    rw [cycle_ok, habsorb]
    exact ⟨rfl, rfl⟩
  · rw [h] at hdigest
    cases hdigest

/-- A cycle that digests its batch publishes it, hands it to the keeper and tells the desk. -/
theorem cycle_digested (K : Keeper α) {m : Monitor α} {points left : List Point}
    (h : (m.digest points).outcome = .ok left) (now : Instant) :
    (m.cycle K (.ok points) now).monitor = (m.showing points now).aside
        (stored K m.archive points (m.news points now))
        (told m.desk (m.news points now) (m.showing points now).status now)
        (m.status.persistenceFailures +
          (isTroubled K m.archive points (m.news points now)).toNat) ∧
      (m.cycle K (.ok points) now).result =
        (telling m.desk (m.news points now) (m.showing points now).status now).map
          fun _ => (m.digested points).completion points left now := by
  rcases absorb_cases K m points now with
    ⟨_, _, _, _, hdigest, _⟩ | ⟨left', log, hdigest, _, habsorb⟩
  · rw [h] at hdigest
    cases hdigest
  · rw [h] at hdigest
    cases hdigest
    have hmonitor := conclude_monitor K ((m.digested points).enter .snapshotting) points left now
    have hresult := conclude_result K ((m.digested points).enter .snapshotting) points left now
    rw [kept_enter] at hmonitor
    rw [completion_enter, kept_enter] at hresult
    rw [cycle_ok, habsorb]
    exact ⟨hmonitor, hresult⟩

/-- Readers see such a cycle publish before they see that its keeper had trouble. -/
theorem cycle_digested_views (K : Keeper α) {m : Monitor α} {points left : List Point}
    (h : (m.digest points).outcome = .ok left) (now : Instant) :
    (m.cycle K (.ok points) now).views =
      m.passing [.fetching, .ingesting, .recomputing, .snapshotting] ++
        (m.showing points now).published ::
        if isTroubled K m.archive points (m.news points now) then
          [(m.cycle K (.ok points) now).monitor.published]
        else [] := by
  rcases absorb_cases K m points now with
    ⟨_, _, _, _, hdigest, _⟩ | ⟨left', log, _, _, habsorb⟩
  · rw [h] at hdigest
    cases hdigest
  · have hviews := conclude_views K ((m.digested points).enter .snapshotting) points left' now
    rw [kept_enter] at hviews
    rw [cycle_ok, habsorb]
    exact congrArg (m.passing [.fetching, .ingesting, .recomputing, .snapshotting] ++ ·) hviews

/-- A cycle that returns failed to fetch or digested its batch. -/
theorem cycle_returned (K : Keeper α) {m : Monitor α} {outcome : Outcome} {now : Instant}
    {r : Result} (h : (m.cycle K outcome now).result = .ok r) :
    (∃ f, outcome = .error f ∧ r = .failed f m.current) ∨
      ∃ points left, outcome = .ok points ∧ (m.digest points).outcome = .ok left ∧
        r = (m.digested points).completion points left now := by
  cases outcome with
  | error f =>
    rw [(cycle_failed K m f now).2] at h
    rcases telling_cases m.desk none (m.countFailure f).status now (.failed f m.current) with
      hr | ⟨a, hr⟩ <;> rw [hr] at h <;> cases h
    exact .inl ⟨f, rfl, rfl⟩
  | ok points =>
    cases hdigest : (m.digest points).outcome with
    | error f =>
      rw [(cycle_stuck K hdigest now).2] at h
      cases h
    | ok left =>
      rw [(cycle_digested K hdigest now).2] at h
      rcases telling_cases m.desk (m.news points now) (m.showing points now).status now
        ((m.digested points).completion points left now) with hr | ⟨a, hr⟩ <;>
        rw [hr] at h <;> cases h
      exact .inr ⟨points, left, rfl, hdigest, rfl⟩

/-! ### Courses -/

/-- How a cycle may go: what it comes to, and the monitor after it. -/
inductive Course (m : Monitor α) (outcome : Outcome) (now : Instant)
    (result : Except Fault Result) (m' : Monitor α) : Prop
  /-- The fetch failed, which is counted. -/
  | failed (f : Source.Fault) (desk : Option Alert.Desk)
      (fetched : outcome = .error f)
      (monitor : m' = (m.countFailure f).aside m.archive desk m.status.persistenceFailures)
      (result : result = .ok (.failed f m.current) ∨ ∃ a, result = .error (.alert a))
  /-- The window could not take the points. -/
  | unheld (points : List Point) (window : Window) (f : Window.Fault)
      (fetched : outcome = .ok points)
      (ingested : m.window.ingest points = (.error f, window))
      (monitor : m' = (m.taking window m.detector).enter .ingesting)
      (result : result = .error (.window f))
  /-- The detector could not take the aggregates. -/
  | undetected (points left : List Point) (window : Window) (f : Congestion.Fault)
      (fetched : outcome = .ok points)
      (ingested : m.window.ingest points = (.ok left, window))
      (detected : m.detector.evaluate (reading window) = .error f)
      (monitor : m' = (m.taking window m.detector).enter .recomputing)
      (result : result = .error (.detector f))
  /-- A fee could not be written. -/
  | unwritten (points left : List Point) (window : Window) (detector : Congestion.Detector)
      (log : Log)
      (fetched : outcome = .ok points)
      (ingested : m.window.ingest points = (.ok left, window))
      (detected : m.detector.evaluate (reading window) = .ok (detector, log))
      (overlong : isUnwritable m.settings window = true)
      (monitor : ∃ phase, m' = (m.taking window detector).enter phase)
      (result : result = .error .unwritable)
  /-- The cycle published what it came to; after that only an announcement may have failed. -/
  | published (points left : List Point) (window : Window) (detector : Congestion.Detector)
      (log : Log) (archive : Option α) (desk : Option Alert.Desk) (troubles : Nat)
      (fetched : outcome = .ok points)
      (ingested : m.window.ingest points = (.ok left, window))
      (detected : m.detector.evaluate (reading window) = .ok (detector, log))
      (monitor : m' = ((m.taking window detector).publish ((m.taking window detector).kept now)
        detector.state now).aside archive desk troubles)
      (result : result = .ok ((m.taking window detector).completion points left now) ∨
        ∃ a, result = .error (.alert a))

theorem fail_course (K : Keeper α) (m : Monitor α) (f : Source.Fault) (now : Instant) :
    Course m (.error f) now (m.cycle K (.error f) now).result
      (m.cycle K (.error f) now).monitor := by
  obtain ⟨hmonitor, hresult⟩ := cycle_failed K m f now
  refine .failed f _ rfl hmonitor ?_
  rw [hresult]
  exact telling_cases _ _ _ _ _

theorem absorb_course (K : Keeper α) (m : Monitor α) (points : List Point) (now : Instant) :
    Course m (.ok points) now (m.cycle K (.ok points) now).result
      (m.cycle K (.ok points) now).monitor := by
  rcases digest_cases m points with ⟨f, hingest, hsame, hdigest⟩ |
    ⟨left, f, hingest, hdetect, hsame, hdigest⟩ |
    ⟨left, log, phase, hingest, hdetect, hlong, hdigest⟩ | ⟨left, log, hingest, hdetect, _, hdigest⟩
  · obtain ⟨hmonitor, hresult⟩ := cycle_stuck K hdigest now
    rw [digested, hsame] at hmonitor
    exact .unheld points _ f rfl hingest hmonitor hresult
  · obtain ⟨hmonitor, hresult⟩ := cycle_stuck K hdigest now
    rw [digested, hsame] at hmonitor
    exact .undetected points left _ f rfl hingest hdetect hmonitor hresult
  · obtain ⟨hmonitor, hresult⟩ := cycle_stuck K hdigest now
    exact .unwritten points left _ _ log rfl hingest hdetect hlong ⟨phase, hmonitor⟩ hresult
  · obtain ⟨hmonitor, hresult⟩ := cycle_digested K hdigest now
    refine .published points left _ _ log _ _ _ rfl hingest hdetect hmonitor ?_
    rw [hresult]
    exact telling_cases _ _ _ _ _

/-- **What a cycle does.** -/
theorem cycle_course (K : Keeper α) (m : Monitor α) (outcome : Outcome) (now : Instant) :
    Course m outcome now (m.cycle K outcome now).result (m.cycle K outcome now).monitor := by
  cases outcome with
  | ok points => exact absorb_course K m points now
  | error f => exact fail_course K m f now

/-- Only points that a fetch returned change a window. -/
theorem Course.window_eq {m m' : Monitor α} {outcome : Outcome} {now : Instant}
    {result : Except Fault Result} (h : Course m outcome now result m') :
    m'.window = m.window ∨
      ∃ points, outcome = .ok points ∧ m'.window = (m.window.ingest points).2 := by
  cases h with
  | failed f desk fetched monitor =>
    subst monitor
    exact .inl rfl
  | unwritten points left window detector log fetched ingested detected overlong monitor =>
    obtain ⟨phase, rfl⟩ := monitor
    exact .inr ⟨points, fetched, (congrArg Prod.snd ingested).symm⟩
  | unheld points window f fetched ingested monitor
  | undetected points left window f fetched ingested detected monitor
  | published points left window detector log archive desk troubles fetched ingested detected
      monitor =>
    subst monitor
    exact .inr ⟨points, fetched, (congrArg Prod.snd ingested).symm⟩

theorem Course.settings_eq {m m' : Monitor α} {outcome : Outcome} {now : Instant}
    {result : Except Fault Result} (h : Course m outcome now result m') :
    m'.settings = m.settings := by
  cases h with
  | unwritten points left window detector log fetched ingested detected overlong monitor =>
    obtain ⟨phase, rfl⟩ := monitor
    rfl
  | _ => subst m'; rfl

/-! ### Runs -/

/-- How a monitor starts. -/
theorem make_eq_ok {source : String} {settings : Settings} {archive : Option α}
    {desk : Option Alert.Desk} {m : Monitor α} (h : make source settings archive desk = .ok m) :
    settings.check = .ok () ∧ ∃ bounds detector,
      Window.Bounds.make settings.maxPoints settings.maxAge = .ok bounds ∧
      Congestion.Detector.make settings.thresholds = .ok detector ∧
      m = { settings, window := .empty bounds, detector, published := ⟨none, { source }⟩
            archive, desk } := by
  unfold make at h
  obtain ⟨_, hcheck, h⟩ := bind_eq_ok.mp h
  obtain ⟨bounds, hbounds, h⟩ := bind_eq_ok.mp h
  obtain ⟨detector, hdetector, h⟩ := bind_eq_ok.mp h
  cases h
  exact ⟨mapError_eq_ok.mp hcheck, bounds, detector, mapError_eq_ok.mp hbounds,
    mapError_eq_ok.mp hdetector, rfl⟩

/-- What a cycle meets: the outcome of its fetch, and the moment when the fetch has returned. -/
structure Turn where
  outcome : Outcome
  now : Instant

/-- The monitor after a cycle, whether the cycle returned or a fault ended it. -/
def after (K : Keeper α) (m : Monitor α) (t : Turn) : Monitor α :=
  (m.cycle K t.outcome t.now).monitor

def run (K : Keeper α) (m : Monitor α) (turns : List Turn) : Monitor α := turns.foldl (after K) m

theorem run_concat (K : Keeper α) (m : Monitor α) (turns : List Turn) (t : Turn) :
    m.run K (turns ++ [t]) = (m.run K turns).after K t := by
  rw [run, List.foldl_append]
  rfl

end FeeWatch.Monitor
