import FeeWatch.Proofs.History.Snapshots
import FeeWatch.Proofs.Monitor.Cycle

/-! The snapshots that cycles make and publish.

A cycle that digests its batch makes a snapshot of it (`made`) and publishes that if
its policy has it do so beside the snapshot that is current (`emission`). A cycle that
returns reports what it published (`emission_of_returned`), and this is current from
then on (`current_after`); so over a run the policy sifts what was made
(`emissions_eq_sift`). What is published goes to the keeper: a history from which
snapshots can be listed lists the `emissions` of a run, as long as its keeper has no
trouble (`listed_run`). Stores of both kinds are such histories (`store_listsRows`,
`store_listsLines`). -/
namespace FeeWatch.Monitor

open FeeWatch.Fee (Point Snapshot)
open FeeWatch.History (SnapshotRow Store)

variable {α : Type}

/-- The snapshot that a cycle makes, published or not. -/
def made (m : Monitor α) (t : Turn) : Option Snapshot :=
  match t.outcome with
  | .error _ => none
  | .ok points =>
    match (m.digest points).outcome with
    | .error _ => none
    | .ok _ => some ((m.digested points).shown t.now)

/-- The snapshot that a cycle publishes, if it publishes one. -/
def emission (m : Monitor α) (t : Turn) : Option Snapshot :=
  (m.made t).filter (emits m.settings.policy m.current)

/-- The snapshots that cycles make, one after another. -/
def makings (K : Keeper α) (m : Monitor α) : List Turn → List Snapshot
  | [] => []
  | t :: rest => (m.made t).toList ++ makings K (m.after K t) rest

/-- The snapshots that cycles publish, one after another. -/
def emissions (K : Keeper α) (m : Monitor α) : List Turn → List Snapshot
  | [] => []
  | t :: rest => (m.emission t).toList ++ emissions K (m.after K t) rest

def Result.published? : Result → Option Snapshot
  | .complete _ _ s true => some s
  | _ => none

theorem made_failed {m : Monitor α} {t : Turn} {f : Source.Fault} (h : t.outcome = .error f) :
    m.made t = none := by
  rw [made, h]

theorem made_stuck {m : Monitor α} {t : Turn} {points : List Point} {f : Fault × Fee.Phase}
    (h : t.outcome = .ok points) (hdigest : (m.digest points).outcome = .error f) :
    m.made t = none := by
  simp only [made, h, hdigest]

theorem made_digested {m : Monitor α} {t : Turn} {points left : List Point}
    (h : t.outcome = .ok points) (hdigest : (m.digest points).outcome = .ok left) :
    m.made t = some ((m.digested points).shown t.now) := by
  simp only [made, h, hdigest]

theorem emission_of_made_eq_none {m : Monitor α} {t : Turn} (h : m.made t = none) :
    m.emission t = none := by
  rw [emission, h]
  rfl

theorem emission_digested {m : Monitor α} {t : Turn} {points left : List Point}
    (h : t.outcome = .ok points) (hdigest : (m.digest points).outcome = .ok left) :
    m.emission t = m.news points t.now := by
  rw [emission, made_digested h hdigest]
  rfl

/-- The ways of a cycle: what it made, and the monitor after it. -/
inductive Way (K : Keeper α) (m : Monitor α) (t : Turn) : Prop
  /-- The fetch failed, which is counted and told. -/
  | failed (f : Source.Fault)
      (fetched : t.outcome = .error f)
      (made : m.made t = none)
      (after : m.after K t = (m.countFailure f).aside m.archive
        (told m.desk none (m.countFailure f).status t.now) m.status.persistenceFailures)
  /-- The batch could not be digested. -/
  | stuck (points : List Point) (f : Fault × Fee.Phase)
      (fetched : t.outcome = .ok points)
      (digested : (m.digest points).outcome = .error f)
      (made : m.made t = none)
      (after : m.after K t = (m.digested points).enter f.2)
  /-- What the batch came to was published, handed to the keeper and told. -/
  | shown (points left : List Point)
      (fetched : t.outcome = .ok points)
      (digested : (m.digest points).outcome = .ok left)
      (made : m.made t = some ((m.digested points).shown t.now))
      (emission : m.emission t = m.news points t.now)
      (after : m.after K t = (m.showing points t.now).aside
        (stored K m.archive points (m.news points t.now))
        (told m.desk (m.news points t.now) (m.showing points t.now).status t.now)
        (m.status.persistenceFailures +
          (isTroubled K m.archive points (m.news points t.now)).toNat))

theorem way (K : Keeper α) (m : Monitor α) (t : Turn) : Way K m t := by
  cases houtcome : t.outcome with
  | error f =>
    have hmonitor := (cycle_failed K m f t.now).1
    rw [← houtcome] at hmonitor
    exact .failed f houtcome (made_failed houtcome) hmonitor
  | ok points =>
    cases hdigest : (m.digest points).outcome with
    | error f =>
      have hmonitor := (cycle_stuck K hdigest t.now).1
      rw [← houtcome] at hmonitor
      exact .stuck points f houtcome hdigest (made_stuck houtcome hdigest) hmonitor
    | ok left =>
      have hmonitor := (cycle_digested K hdigest t.now).1
      rw [← houtcome] at hmonitor
      exact .shown points left houtcome hdigest (made_digested houtcome hdigest)
        (emission_digested houtcome hdigest) hmonitor

/-- What a cycle publishes is current after it. -/
theorem current_after (K : Keeper α) (m : Monitor α) (t : Turn) :
    (m.after K t).current = (m.emission t).or m.current := by
  cases m.way K t with
  | failed f fetched made after => rw [after, emission_of_made_eq_none made]; rfl
  | stuck points f fetched digested made after => rw [after, emission_of_made_eq_none made]; rfl
  | shown points left fetched digested made emission after => rw [after, emission]; rfl

theorem completion_published (m : Monitor α) (points left : List Point) (now : Calendar.Instant) :
    (m.completion points left now).published? = m.kept now := by
  rw [completion]
  cases m.kept now <;> rfl

/-- A cycle that returns reports what it published. -/
theorem emission_of_returned (K : Keeper α) {m : Monitor α} {t : Turn} {r : Result}
    (h : (m.cycle K t.outcome t.now).result = .ok r) : m.emission t = r.published? := by
  rcases cycle_returned K h with ⟨f, houtcome, rfl⟩ | ⟨points, left, houtcome, hdigest, rfl⟩
  · exact emission_of_made_eq_none (made_failed houtcome)
  · rw [emission_digested houtcome hdigest, completion_published]
    rfl

/-- A complete cycle has made a snapshot. -/
theorem made_of_complete (K : Keeper α) {m : Monitor α} {t : Turn} {r : Result}
    (h : (m.cycle K t.outcome t.now).result = .ok r) (hr : r.isComplete = true) :
    ∃ s, m.made t = some s := by
  rcases cycle_returned K h with ⟨f, _, rfl⟩ | ⟨points, left, houtcome, hdigest, rfl⟩
  · cases hr
  · exact ⟨_, made_digested houtcome hdigest⟩

/-! ### What a policy lets through -/

/-- Those of the snapshots made after a previous one that a policy publishes. -/
def sift (policy : Policy) : Option Snapshot → List Snapshot → List Snapshot
  | _, [] => []
  | previous, s :: rest =>
    if emits policy previous s then s :: sift policy (some s) rest else sift policy previous rest

/-- **A run publishes what its policy lets through of what it makes.** -/
theorem emissions_eq_sift (K : Keeper α) (m : Monitor α) (turns : List Turn) :
    emissions K m turns = sift m.settings.policy m.current (makings K m turns) := by
  induction turns generalizing m with
  | nil => rfl
  | cons t rest ih =>
    have hsettings : (m.after K t).settings = m.settings :=
      (cycle_course K m t.outcome t.now).settings_eq
    rw [emissions, makings, ih (m.after K t), current_after, hsettings, emission]
    cases m.made t with
    | none => rfl
    | some s =>
      show _ = sift m.settings.policy m.current (s :: makings K (m.after K t) rest)
      rw [sift, Option.filter_some]
      by_cases h : emits m.settings.policy m.current s = true
      · rw [if_pos h, if_pos h]
        rfl
      · rw [if_neg h, if_neg h]
        rfl

/-! ### Histories that list snapshots -/

/-- The points of a cycle; a failed fetch has none. -/
def Turn.points (t : Turn) : List Point := t.outcome.toOption.getD []

/-- A kind of history that takes every snapshot it is handed and lists it: each adds an entry to
the list. Whether it takes points depends on these alone. -/
structure Keeper.Lists {β : Type} (K : Keeper α) (kind : α → Prop) (fits : List Point → Bool)
    (listed : α → List β) (entry : Snapshot → List β) : Prop where
  points (points : List Point) {a : α} (ha : kind a) :
    kind (K.keepPoints points a).2.1 ∧ (K.keepPoints points a).1.isOk = fits points ∧
      listed (K.keepPoints points a).2.1 = listed a
  snapshot (s : Snapshot) {a : α} (ha : kind a) :
    kind (K.keepSnapshot s a).2.1 ∧ (K.keepSnapshot s a).1.isOk = true ∧
      listed (K.keepSnapshot s a).2.1 = listed a ++ entry s

section Lists
variable {β : Type} {K : Keeper α} {kind : α → Prop} {fits : List Point → Bool}
  {listed : α → List β} {entry : Snapshot → List β}

theorem Keeper.Lists.keep (hK : K.Lists kind fits listed entry) (points : List Point)
    (kept : Option Snapshot) {a : α} (ha : kind a) :
    kind (keep K points kept a).2.1 ∧ (keep K points kept a).1.isOk = fits points ∧
      (fits points = true →
        listed (keep K points kept a).2.1 = listed a ++ kept.toList.flatMap entry) := by
  obtain ⟨hkind, hfits, hpoints⟩ := hK.points points ha
  unfold Monitor.keep
  rcases hkeep : K.keepPoints points a with ⟨result, archive, log⟩
  rw [hkeep] at hkind hfits hpoints
  cases result with
  | error t => exact ⟨hkind, hfits, fun h => absurd (hfits.trans h) Bool.false_ne_true⟩
  | ok =>
    cases kept with
    | none => exact ⟨hkind, hfits, fun _ => by simpa using hpoints⟩
    | some s =>
      obtain ⟨hkind, hok, hsnapshot⟩ := hK.snapshot s hkind
      refine ⟨hkind, hok.trans hfits, fun _ => ?_⟩
      show listed (K.keepSnapshot s archive).2.1 = _
      rw [hsnapshot, hpoints]
      simp

/-- Whether the keeper has trouble with the points of a cycle, which is handed to it if the cycle
makes a snapshot. -/
def isRefused (fits : List Point → Bool) (m : Monitor α) (t : Turn) : Bool :=
  (m.made t).isSome && m.archive.isSome && !fits t.points

theorem map_append_nil (l : Option (List β)) : l.map (· ++ []) = l := by
  cases l <;> simp

/-- The keeper's troubles are counted; a cycle without them adds what it published to the list. -/
theorem listed_after (hK : K.Lists kind fits listed entry) {m : Monitor α}
    (hm : ∀ a ∈ m.archive, kind a) (t : Turn) :
    (∀ a ∈ (m.after K t).archive, kind a) ∧
      (m.after K t).archive.isSome = m.archive.isSome ∧
      (m.after K t).status.persistenceFailures =
        m.status.persistenceFailures + (isRefused fits m t).toNat ∧
      (isRefused fits m t = false → (m.after K t).archive.map listed =
        (m.archive.map listed).map (· ++ (m.emission t).toList.flatMap entry)) := by
  have hunmade (h : m.made t = none) : isRefused fits m t = false := by rw [isRefused, h]; rfl
  cases m.way K t with
  | failed f fetched made after
  | stuck points f fetched digested made after =>
    rw [after, hunmade made, emission_of_made_eq_none made]
    exact ⟨hm, rfl, rfl, fun _ => (map_append_nil _).symm⟩
  | shown points left fetched digested made emission after =>
    have hrefused : isRefused fits m t = (m.archive.isSome && !fits points) := by
      rw [isRefused, made, Turn.points, fetched]
      rfl
    rw [after, hrefused, emission]
    show (∀ a ∈ stored K m.archive points (m.news points t.now), kind a) ∧
      (stored K m.archive points (m.news points t.now)).isSome = m.archive.isSome ∧
      m.status.persistenceFailures +
          (isTroubled K m.archive points (m.news points t.now)).toNat =
        m.status.persistenceFailures + (m.archive.isSome && !fits points).toNat ∧
      ((m.archive.isSome && !fits points) = false →
        (stored K m.archive points (m.news points t.now)).map listed = _)
    cases harchive : m.archive with
    | none => exact ⟨(fun _ h => nomatch h), rfl, rfl, fun _ => rfl⟩
    | some a =>
      obtain ⟨hkind, hok, hlisted⟩ := hK.keep points (m.news points t.now) (hm a harchive)
      refine ⟨fun b hb => Option.some.inj hb ▸ hkind, rfl, ?_, fun h => ?_⟩
      · rw [isTroubled, Option.any_some, hok]
        rfl
      · exact congrArg some (hlisted (by simpa using h))

/-- **A history without troubles lists the emissions of a run.** -/
theorem listed_run (hK : K.Lists kind fits listed entry) {m : Monitor α}
    (hm : ∀ a ∈ m.archive, kind a) (turns : List Turn) :
    m.status.persistenceFailures ≤ (m.run K turns).status.persistenceFailures ∧
      ((m.run K turns).status.persistenceFailures = m.status.persistenceFailures →
        (m.run K turns).archive.map listed =
          (m.archive.map listed).map (· ++ (emissions K m turns).flatMap entry)) := by
  induction turns generalizing m with
  | nil => exact ⟨Nat.le_refl _, fun _ => (map_append_nil _).symm⟩
  | cons t rest ih =>
    obtain ⟨hkind, _, hfirst, hone⟩ := listed_after hK hm t
    obtain ⟨hrest, hmore⟩ := ih hkind
    refine ⟨Nat.le_trans (Nat.le.intro hfirst.symm) hrest, fun h => ?_⟩
    have h : ((m.after K t).run K rest).status.persistenceFailures =
        m.status.persistenceFailures := h
    -- A refused batch would be counted, and the count never goes down again.
    have htaken : isRefused fits m t = false := by
      cases hrefused : isRefused fits m t with
      | false => rfl
      | true => rw [hrefused, Bool.toNat_true] at hfirst; omega
    rw [htaken] at hfirst
    calc ((m.after K t).run K rest).archive.map listed
        = ((m.after K t).archive.map listed).map
            (· ++ (emissions K (m.after K t) rest).flatMap entry) := hmore (h.trans hfirst.symm)
      _ = ((m.archive.map listed).map (· ++ (m.emission t).toList.flatMap entry)).map
            (· ++ (emissions K (m.after K t) rest).flatMap entry) := by rw [hone htaken]
      _ = (m.archive.map listed).map (· ++ (emissions K m (t :: rest)).flatMap entry) := by
        simp [Option.map_map, Function.comp_def, emissions]

end Lists

/-- A database lists its snapshots in rows. -/
theorem store_listsRows :
    Keeper.store.Lists Store.IsDatabase (·.all fun p => (History.PointRow.ofPoint p).fits)
      Store.rows fun s => [SnapshotRow.ofSnapshot s] where
  points points a ha := by
    obtain ⟨hkind, hok, hrows⟩ := Store.appendPoints_rows ha points
    refine ⟨hkind, hok ▸ ?_, hrows⟩
    show (((a.appendPoints points).1.map _).mapError _).isOk = _
    cases (a.appendPoints points).1 <;> rfl
  snapshot s a ha := by
    obtain ⟨hkind, hok, hrows⟩ := Store.appendSnapshot_rows ha s
    refine ⟨hkind, hok ▸ ?_, hrows⟩
    show ((a.appendSnapshot s).1.mapError _).isOk = _
    cases (a.appendSnapshot s).1 <;> rfl

/-- A store of lines lists its snapshots in a text. -/
theorem store_listsLines :
    Keeper.store.Lists Store.IsLines (·.all fun p => !p.record.isOverlong) Store.text fun s =>
      (History.Lines.line s.record).toList where
  points points a ha := by
    obtain ⟨hkind, hok, htext⟩ := Store.appendPoints_text ha points
    refine ⟨hkind, hok ▸ ?_, htext⟩
    show (((a.appendPoints points).1.map _).mapError _).isOk = _
    cases (a.appendPoints points).1 <;> rfl
  snapshot s a ha := by
    obtain ⟨hkind, hok, htext⟩ := Store.appendSnapshot_text ha s
    refine ⟨hkind, hok ▸ ?_, htext⟩
    show ((a.appendSnapshot s).1.mapError _).isOk = _
    cases (a.appendSnapshot s).1 <;> rfl

end FeeWatch.Monitor
