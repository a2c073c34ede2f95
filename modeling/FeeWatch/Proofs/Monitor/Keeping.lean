import FeeWatch.Monitor.Drill
import FeeWatch.Proofs.Monitor.Returning

/-! Monitors apart from their keepers.

Whatever a keeper does with what it is handed, and whether there is one at all, makes no
difference to a monitor but for the count of its troubles: a monitor without its history
and this count (`apart`) goes the same way beside every keeper (`run_apart`). The count
is that of the cycles in which a call to the keeper gave trouble; which calls a cycle
makes is told by a keeper that notes them (`Keeper.noting`). They come last: readers
have then seen all that the cycle publishes (`CallsLast`). `keepers_do_not_interfere`
puts this together. A cycle with trouble is complete unless an announcement ends it
(`trouble_before_failed_announcement`). -/
namespace FeeWatch.Monitor

open FeeWatch.Calendar (Instant)
open FeeWatch.Fee (Phase Point Snapshot Status)

variable {α β : Type}

/-! ### Telling a desk -/

/-- What telling a desk comes to does not depend on what its messages say besides the health. -/
theorem announce_sealed {d d' : Alert.Desk} (h : d.sealed = d'.sealed) (kept : Option Snapshot)
    {s s' : Status} (hhealth : s.health = s'.health) (now : Instant) :
    (announce d kept s now).1 = (announce d' kept s' now).1 ∧
      (announce d kept s now).2.1.sealed = (announce d' kept s' now).2.1.sealed := by
  have htell {e e' : Alert.Desk} (h : e.sealed = e'.sealed) :
      (e.noticeHealth s now).1 = (e'.noticeHealth s' now).1 ∧
        (e.noticeHealth s now).2.1.sealed = (e'.noticeHealth s' now).2.1.sealed := by
    rw [Alert.Desk.noticeHealth, Alert.Desk.noticeHealth, hhealth]
    exact Alert.Desk.announceHealth_sealed h _ _ _ now
  unfold announce
  cases kept with
  | none =>
    obtain ⟨hresult, hdesk⟩ := htell h
    exact ⟨congrArg (·.map fun _ => ()) hresult, hdesk⟩
  | some snapshot =>
    have hmarket := Alert.Desk.noticeMarket_sealed h snapshot now
    dsimp only
    rcases h₁ : d.noticeMarket snapshot now with ⟨result, e, log⟩
    rcases h₂ : d'.noticeMarket snapshot now with ⟨result', e', log'⟩
    rw [h₁, h₂] at hmarket
    obtain ⟨rfl, hdesk⟩ : result = result' ∧ e.sealed = e'.sealed := hmarket
    cases result with
    | error f => exact ⟨rfl, hdesk⟩
    | ok b =>
      obtain ⟨hresult, hdesk⟩ := htell hdesk
      exact ⟨congrArg (·.map fun _ => ()) hresult, hdesk⟩

theorem told_sealed {desk desk' : Option Alert.Desk}
    (h : desk.map Alert.Desk.sealed = desk'.map Alert.Desk.sealed) (kept : Option Snapshot)
    {s s' : Status} (hhealth : s.health = s'.health) (now : Instant) :
    telling desk kept s now = telling desk' kept s' now ∧
      (told desk kept s now).map Alert.Desk.sealed =
        (told desk' kept s' now).map Alert.Desk.sealed := by
  cases desk with
  | none =>
    cases desk' with
    | none => exact ⟨rfl, rfl⟩
    | some d' => cases h
  | some d =>
    cases desk' with
    | none => cases h
    | some d' =>
      obtain ⟨hresult, hdesk⟩ := announce_sealed (Option.some.inj h) kept hhealth now
      exact ⟨congrArg (·.mapError Fault.alert) hresult, congrArg some hdesk⟩

/-! ### Monitors apart from their keepers -/

/-- A monitor without its history, the count of the keeper's troubles and the bodies of the messages
that say this count. -/
def apart (m : Monitor α) : Monitor Empty :=
  { m with
    published := ⟨m.current, { m.status with persistenceFailures := 0 }⟩
    archive := none
    desk := m.desk.map Alert.Desk.sealed }

theorem apart_aside (m : Monitor α) (archive : Option α) (desk : Option Alert.Desk)
    (troubles : Nat) :
    (m.aside archive desk troubles).apart = { m.apart with desk := desk.map Alert.Desk.sealed } :=
  rfl

theorem apart_countFailure (m : Monitor α) (f : Source.Fault) :
    (m.countFailure f).apart = m.apart.countFailure f := rfl

theorem apart_digest (m : Monitor α) (points : List Point) :
    m.apart.digest points = m.digest points := rfl

theorem apart_digested (m : Monitor α) (points : List Point) (phase : Phase) :
    ((m.digested points).enter phase).apart = (m.apart.digested points).enter phase := rfl

theorem apart_news (m : Monitor α) (points : List Point) (now : Instant) :
    m.apart.news points now = m.news points now := rfl

theorem apart_showing (m : Monitor α) (points : List Point) (now : Instant) :
    (m.showing points now).apart = m.apart.showing points now := rfl

theorem apart_completion (m : Monitor α) (points left : List Point) (now : Instant) :
    (m.apart.digested points).completion points left now =
      (m.digested points).completion points left now := rfl

section Pair
variable {m : Monitor α} {n : Monitor β}

/-- What two monitors have in common that go the same way beside their keepers. -/
theorem eq_of_apart (h : m.apart = n.apart) :
    m.settings = n.settings ∧ m.window = n.window ∧ m.detector = n.detector ∧
      m.current = n.current ∧
      { m.status with persistenceFailures := n.status.persistenceFailures } = n.status ∧
      m.desk.map Alert.Desk.sealed = n.desk.map Alert.Desk.sealed := by
  obtain ⟨hsettings, hwindow, hdetector, hpublished, _, hdesk⟩ := Monitor.mk.inj h
  obtain ⟨hcurrent, hstatus⟩ := Published.mk.inj hpublished
  refine ⟨hsettings, hwindow, hdetector, hcurrent, ?_, hdesk⟩
  exact congrArg (fun s : Status =>
    { s with persistenceFailures := n.status.persistenceFailures }) hstatus

/-- A cycle goes the same way beside two keepers. -/
theorem cycle_apart (h : m.apart = n.apart) (K : Keeper α) (L : Keeper β) (t : Turn) :
    (m.after K t).apart = (n.after L t).apart ∧
      (m.cycle K t.outcome t.now).result = (n.cycle L t.outcome t.now).result := by
  obtain ⟨_, _, _, hcurrent, _, hdesk⟩ := eq_of_apart h
  rw [after, after]
  cases t.outcome with
  | error f =>
    have hcount : (m.countFailure f).apart = (n.countFailure f).apart := by
      rw [apart_countFailure, apart_countFailure, h]
    have hhealth : (m.countFailure f).status.health = (n.countFailure f).status.health :=
      congrArg (·.status.health) hcount
    obtain ⟨htelling, htold⟩ := told_sealed hdesk none hhealth t.now
    obtain ⟨hm, hresult⟩ := cycle_failed K m f t.now
    obtain ⟨hn, hresult'⟩ := cycle_failed L n f t.now
    rw [hm, hn, apart_aside, apart_aside, hcount, htold, hresult, hresult', htelling, hcurrent]
    exact ⟨rfl, rfl⟩
  | ok points =>
    have hdigest : m.digest points = n.digest points := by
      rw [← apart_digest m, ← apart_digest n, h]
    cases houtcome : (m.digest points).outcome with
    | error f =>
      obtain ⟨hm, hresult⟩ := cycle_stuck K houtcome t.now
      obtain ⟨hn, hresult'⟩ := cycle_stuck L (hdigest ▸ houtcome) t.now
      rw [hm, hn, apart_digested, apart_digested, h, hresult, hresult']
      exact ⟨rfl, rfl⟩
    | ok left =>
      have hshowing : (m.showing points t.now).apart = (n.showing points t.now).apart := by
        rw [apart_showing, apart_showing, h]
      have hnews : m.news points t.now = n.news points t.now := by
        rw [← apart_news m, ← apart_news n, h]
      have hcompletion : (m.digested points).completion points left t.now =
          (n.digested points).completion points left t.now := by
        rw [← apart_completion m, ← apart_completion n, h]
      have hhealth : (m.showing points t.now).status.health = (n.showing points t.now).status.health :=
        congrArg (·.status.health) hshowing
      obtain ⟨htelling, htold⟩ := told_sealed hdesk (m.news points t.now) hhealth t.now
      obtain ⟨hm, hresult⟩ := cycle_digested K houtcome t.now
      obtain ⟨hn, hresult'⟩ := cycle_digested L (hdigest ▸ houtcome) t.now
      rw [hm, hn, apart_aside, apart_aside, hshowing, htold, hresult, hresult', htelling, hnews,
        hcompletion]
      exact ⟨rfl, rfl⟩

/-- **A run goes the same way beside two keepers.** -/
theorem run_apart (h : m.apart = n.apart) (K : Keeper α) (L : Keeper β) (turns : List Turn) :
    (m.run K turns).apart = (n.run L turns).apart := by
  induction turns generalizing m n with
  | nil => exact h
  | cons t rest ih => exact ih (cycle_apart h K L t).1

end Pair

/-! ### Calls to a keeper -/

/-- A call to a keeper, and whether it gave trouble. -/
inductive Keeper.Call where
  | points (troubled : Bool)
  | snapshot (troubled : Bool)
deriving DecidableEq, Repr

/-- Whether a call gave trouble. -/
def Keeper.Call.isTroubled : Keeper.Call → Bool
  | .points troubled => troubled
  | .snapshot troubled => troubled

/-- A keeper that also notes the calls made to it. -/
def Keeper.noting (K : Keeper α) : Keeper (α × List Keeper.Call) where
  keepPoints points a :=
    let (result, archive, log) := K.keepPoints points a.1
    (result, (archive, a.2 ++ [.points (!result.isOk)]), log)
  keepSnapshot s a :=
    let (result, archive, log) := K.keepSnapshot s a.1
    (result, (archive, a.2 ++ [.snapshot (!result.isOk)]), log)

/-- A monitor whose keeper has noted no call yet. -/
def unnoted (m : Monitor α) : Monitor (α × List Keeper.Call) :=
  { m with archive := m.archive.map (·, []) }

/-- The calls that a cycle makes to its keeper, as the keeper notes them. -/
def calls (K : Keeper α) (m : Monitor α) (t : Turn) : List Keeper.Call :=
  ((m.unnoted.after K.noting t).archive.map (·.2)).getD []

/-- The calls with which a keeper is handed points and perhaps a snapshot. -/
def handing (K : Keeper α) (points : List Point) (kept : Option Snapshot) (a : α) :
    List Keeper.Call :=
  match K.keepPoints points a, kept with
  | (.ok _, a, _), some s => [.points false, .snapshot (!(K.keepSnapshot s a).1.isOk)]
  | (.ok _, _, _), none => [.points false]
  | (.error _, _, _), _ => [.points true]

/-- A keeper does the same whether it notes its calls or not. -/
theorem keep_noting (K : Keeper α) (points : List Point) (kept : Option Snapshot) (a : α)
    (past : List Keeper.Call) :
    keep K.noting points kept (a, past) =
      ((keep K points kept a).1, ((keep K points kept a).2.1, past ++ handing K points kept a),
        (keep K points kept a).2.2) := by
  obtain ⟨keepPoints, keepSnapshot⟩ := K
  unfold keep handing Keeper.noting
  dsimp only
  rcases keepPoints points a with ⟨result, a', log⟩
  cases result with
  | error t => rfl
  | ok u =>
    cases kept with
    | none => rfl
    | some s =>
      dsimp only
      rw [List.append_assoc]
      rfl

theorem handing_any (K : Keeper α) (points : List Point) (kept : Option Snapshot) (a : α) :
    (handing K points kept a).any Keeper.Call.isTroubled = !(keep K points kept a).1.isOk := by
  unfold keep handing
  rcases K.keepPoints points a with ⟨result, a', log⟩
  cases result with
  | error t => rfl
  | ok u =>
    cases kept with
    | none => rfl
    | some s =>
      show (false || ((!(K.keepSnapshot s a').1.isOk) || false)) = _
      rw [Bool.false_or, Bool.or_false]

/-- After points that gave trouble no snapshot is handed over. -/
theorem handing_halted {K : Keeper α} {points : List Point} {kept : Option Snapshot} {a : α}
    (h : .points true ∈ handing K points kept a) : handing K points kept a = [.points true] := by
  revert h
  unfold handing
  rcases K.keepPoints points a with ⟨result, a', log⟩
  cases result with
  | error t => exact fun _ => rfl
  | ok u => cases kept <;> simp

section Cycle
variable {K : Keeper α} {m : Monitor α} {t : Turn}

/-- A failed fetch makes no calls. -/
theorem calls_failed {f : Source.Fault} (h : t.outcome = .error f) : calls K m t = [] := by
  rw [calls, after, h, (cycle_failed K.noting m.unnoted f t.now).1]
  show ((m.archive.map (·, [])).map (·.2)).getD [] = []
  cases m.archive <;> rfl

/-- A batch that could not be digested is not handed over. -/
theorem calls_stuck {points : List Point} {f : Fault × Phase} (h : t.outcome = .ok points)
    (hdigest : (m.digest points).outcome = .error f) : calls K m t = [] := by
  have hunnoted : (m.unnoted.digest points).outcome = .error f := hdigest
  rw [calls, after, h, (cycle_stuck K.noting hunnoted t.now).1]
  show ((m.archive.map (·, [])).map (·.2)).getD [] = []
  cases m.archive <;> rfl

theorem calls_shown {points left : List Point} (h : t.outcome = .ok points)
    (hdigest : (m.digest points).outcome = .ok left) :
    calls K m t = (m.archive.map (handing K points (m.news points t.now))).getD [] := by
  have hunnoted : (m.unnoted.digest points).outcome = .ok left := hdigest
  rw [calls, after, h, (cycle_digested K.noting hunnoted t.now).1]
  show ((stored K.noting (m.archive.map (·, [])) points (m.news points t.now)).map (·.2)).getD [] = _
  cases m.archive with
  | none => rfl
  | some a =>
    show (keep K.noting points (m.news points t.now) (a, [])).2.1.2 = _
    rw [keep_noting, List.nil_append]
    rfl

theorem calls_any {points left : List Point} (h : t.outcome = .ok points)
    (hdigest : (m.digest points).outcome = .ok left) :
    (calls K m t).any Keeper.Call.isTroubled =
      isTroubled K m.archive points (m.news points t.now) := by
  rw [calls_shown h hdigest]
  cases m.archive with
  | none => rfl
  | some a => exact handing_any K points (m.news points t.now) a

/-- What a cycle makes of its keeper's troubles. -/
structure CallsLast (K : Keeper α) (m : Monitor α) (t : Turn) : Prop where
  /-- They count once. -/
  counted : (m.after K t).status.persistenceFailures = m.status.persistenceFailures +
    ((calls K m t).any Keeper.Call.isTroubled).toNat
  /-- Points that give trouble are the last thing handed over. -/
  halted : .points true ∈ calls K m t → calls K m t = [.points true]
  /-- A cycle that makes calls is complete, unless an announcement ends it after them. -/
  complete : calls K m t ≠ [] →
    (∃ r, (m.cycle K t.outcome t.now).result = .ok r ∧ r.isComplete = true) ∨
      ∃ f, (m.cycle K t.outcome t.now).result = .error (.alert f)
  /-- Before it makes calls readers see all that it publishes; after them, only the count. -/
  published : calls K m t ≠ [] → (m.cycle K t.outcome t.now).views =
    m.passing [.fetching, .ingesting, .recomputing, .snapshotting] ++
      ⟨(m.after K t).current, { (m.after K t).status with
        persistenceFailures := m.status.persistenceFailures }⟩ ::
      if (calls K m t).any Keeper.Call.isTroubled then [(m.after K t).published] else []

theorem callsLast_of_nil (h : calls K m t = [])
    (hafter : (m.after K t).status.persistenceFailures = m.status.persistenceFailures) :
    CallsLast K m t where
  counted := by rw [h, hafter]; rfl
  halted hmem := by rw [h] at hmem; cases hmem
  complete hcalls := absurd h hcalls
  published hcalls := absurd h hcalls

theorem callsLast (K : Keeper α) (m : Monitor α) (t : Turn) : CallsLast K m t := by
  cases m.way K t with
  | failed f fetched made after => exact callsLast_of_nil (calls_failed fetched) (after ▸ rfl)
  | stuck points f fetched digested made after =>
    exact callsLast_of_nil (calls_stuck fetched digested) (after ▸ rfl)
  | shown points left fetched digested made emission after =>
    have hany := calls_any (K := K) fetched digested
    have hresult := (cycle_digested K digested t.now).2
    have hviews := cycle_digested_views K digested t.now
    rw [← fetched] at hresult hviews
    constructor
    · rw [hany, after]
      rfl
    · intro hmem
      rw [calls_shown fetched digested] at hmem ⊢
      cases harchive : m.archive with
      | none => rw [harchive] at hmem; cases hmem
      | some a =>
        rw [harchive] at hmem
        exact handing_halted hmem
    · intro _
      rw [hresult]
      rcases telling_cases m.desk (m.news points t.now) (m.showing points t.now).status t.now
        ((m.digested points).completion points left t.now) with htold | ⟨f, htold⟩ <;> rw [htold]
      · exact .inl ⟨_, rfl, rfl⟩
      · exact .inr ⟨f, rfl⟩
    · intro _
      have hshown : (m.showing points t.now).published = ⟨(m.after K t).current,
          { (m.after K t).status with persistenceFailures := m.status.persistenceFailures }⟩ := by
        rw [after]
        rfl
      rw [hviews, hany, hshown]
      rfl

end Cycle

/-! ### Counting troubles -/

/-- In how many cycles of a run something holds. -/
def tally (K : Keeper α) (holds : Monitor α → Turn → Bool) (m : Monitor α) : List Turn → Nat
  | [] => 0
  | t :: rest => (holds m t).toNat + tally K holds (m.after K t) rest

/-- Whether a call to the keeper gave trouble in a cycle. -/
def hasTrouble (K : Keeper α) (m : Monitor α) (t : Turn) : Bool :=
  (calls K m t).any Keeper.Call.isTroubled

def isComplete (K : Keeper α) (m : Monitor α) (t : Turn) : Bool :=
  (m.cycle K t.outcome t.now).result.toOption.any Result.isComplete

theorem run_troubled (K : Keeper α) (m : Monitor α) (turns : List Turn) :
    (m.run K turns).status.persistenceFailures =
      m.status.persistenceFailures + tally K (hasTrouble K) m turns := by
  induction turns generalizing m with
  | nil => rfl
  | cons t rest ih =>
    have hrest := ih (m.after K t)
    rw [(callsLast K m t).counted, Nat.add_assoc] at hrest
    exact hrest

/-- With a desk whose posts return a cycle with trouble is complete. -/
theorem complete_of_trouble (K : Keeper α) {m : Monitor α} (hdesk : IsAnswered m.desk) {t : Turn}
    (h : hasTrouble K m t = true) : isComplete K m t = true := by
  cases m.way K t with
  | failed f fetched => rw [hasTrouble, calls_failed fetched] at h; cases h
  | stuck points f fetched digested => rw [hasTrouble, calls_stuck fetched digested] at h; cases h
  | shown points left fetched digested =>
    rw [isComplete, fetched, (cycle_digested K digested t.now).2, (hdesk.told _ _ _).1]
    rfl

theorem tally_complete (K : Keeper α) {m : Monitor α} (hdesk : IsAnswered m.desk)
    (turns : List Turn) :
    tally K (fun m t => isComplete K m t && hasTrouble K m t) m turns =
      tally K (hasTrouble K) m turns := by
  induction turns generalizing m with
  | nil => rfl
  | cons t rest ih =>
    have hcomplete : (isComplete K m t && hasTrouble K m t) = hasTrouble K m t := by
      cases htrouble : hasTrouble K m t with
      | false => exact Bool.and_false _
      | true => rw [complete_of_trouble K hdesk htrouble, Bool.and_true]
    rw [tally, tally, hcomplete, ih (after_answered K hdesk t)]

/-- Monitors with the same settings and desk start alike beside any keepers. -/
theorem make_apart {source : String} {settings : Settings} {desk : Option Alert.Desk}
    {archive : Option α} {archive' : Option β} {m : Monitor α} {n : Monitor β}
    (hm : make source settings archive desk = .ok m)
    (hn : make source settings archive' desk = .ok n) : m.apart = n.apart := by
  obtain ⟨_, bounds, detector, hbounds, hdetector, rfl⟩ := make_eq_ok hm
  obtain ⟨_, bounds', detector', hbounds', hdetector', rfl⟩ := make_eq_ok hn
  cases hbounds.symm.trans hbounds'
  cases hdetector.symm.trans hdetector'
  rfl

/-- **Keepers do not interfere.** Two runs that start alike beside any two keepers, or beside none,
come to the same result in every cycle, and have the same window, detector and current snapshot,
the same status but for the count of the keeper's troubles, and desks that have announced the
same at the same times and sent as much. The count is that of the cycles in which a call to the
keeper gave trouble; if the desk's posts return these are complete. Calls are made after the
cycle has published, and after points that gave trouble no snapshot is handed over. -/
theorem keepers_do_not_interfere (K : Keeper α) (L : Keeper β) {source : String}
    {settings : Settings} {desk : Option Alert.Desk} {archive : Option α} {archive' : Option β}
    {m : Monitor α} {n : Monitor β} (hm : make source settings archive desk = .ok m)
    (hn : make source settings archive' desk = .ok n) (turns : List Turn) (t : Turn) :
    let m₁ := m.run K turns
    let n₁ := n.run L turns
    let m₂ := m.run K (turns ++ [t])
    let n₂ := n.run L (turns ++ [t])
    (m₁.cycle K t.outcome t.now).result = (n₁.cycle L t.outcome t.now).result ∧
      m₂.window = n₂.window ∧ m₂.detector = n₂.detector ∧ m₂.current = n₂.current ∧
      { m₂.status with persistenceFailures := n₂.status.persistenceFailures } = n₂.status ∧
      m₂.desk.map Alert.Desk.sealed = n₂.desk.map Alert.Desk.sealed ∧
      m₂.status.persistenceFailures = tally K (hasTrouble K) m (turns ++ [t]) ∧
      (IsAnswered desk → m₂.status.persistenceFailures =
        tally K (fun m t => isComplete K m t && hasTrouble K m t) m (turns ++ [t])) ∧
      CallsLast K m₁ t := by
  intro m₁ n₁ m₂ n₂
  have hstart := make_apart hm hn
  have hbefore : m₁.apart = n₁.apart := run_apart hstart K L turns
  obtain ⟨_, hwindow, hdetector, hcurrent, hstatus, hdesk⟩ :=
    eq_of_apart (run_apart hstart K L (turns ++ [t]))
  have hcount : m₂.status.persistenceFailures = tally K (hasTrouble K) m (turns ++ [t]) := by
    have hrun := run_troubled K m (turns ++ [t])
    obtain ⟨_, _, _, _, _, rfl⟩ := make_eq_ok hm
    rw [hrun]
    exact Nat.zero_add _
  refine ⟨(cycle_apart hbefore K L t).2, hwindow, hdetector, hcurrent, hstatus, hdesk, hcount,
    fun hanswered => ?_, callsLast K m₁ t⟩
  have hm' : IsAnswered m.desk := by
    obtain ⟨_, _, _, _, _, rfl⟩ := make_eq_ok hm
    exact hanswered
  rw [hcount, tally_complete K hm']

/-- A history that takes no points, and none at all: two troubles, which make no other difference. -/
theorem keepers_do_not_interfere_twice :
    let desk : Alert.Desk := .make (.text "https://alerts.example/fees") 300 []
    let archive : Drill := { store := .database .memory true .empty, points := some default }
    let turns : List Turn := [.ofFees [900] newYear, .ofFees [50] newYear]
    ∃ (m : Monitor Drill) (n : Monitor History.Store),
      make "feed" {} (some archive) (some desk) = .ok m ∧
      make "feed" {} none (some desk) = .ok n ∧
      (m.run .drill turns).current = (n.run .store turns).current ∧
      (m.run .drill turns).desk.map (·.hook.sent) = (n.run .store turns).desk.map (·.hook.sent) ∧
      (m.run .drill turns).status.persistenceFailures = 2 ∧
      (n.run .store turns).status.persistenceFailures = 0 ∧
      tally .drill (fun m t => isComplete .drill m t && hasTrouble .drill m t) m turns = 2 := by
  intro desk archive turns
  have hurl : Alert.Address.read "https://alerts.example/fees" =
      .ok ⟨true, "alerts.example", 443, "/fees"⟩ := by
    decide +kernel
  have hrun : (make "feed" {} (some archive) (some desk)).toOption.any (fun m =>
      (make "feed" {} none (some desk)).toOption.any fun n =>
        decide ((m.run .drill turns).status.persistenceFailures = 2 ∧
          (n.run .store turns).status.persistenceFailures = 0)) = true := by
    decide +kernel
  obtain ⟨m, hm, hrun⟩ := exists_ok_of_any hrun
  obtain ⟨n, hn, hrun⟩ := exists_ok_of_any hrun
  obtain ⟨htwo, hzero⟩ := of_decide_eq_true hrun
  have hdesk : IsAnswered (some desk) := fun d hd =>
    Option.some.inj hd ▸ Alert.Hook.returns_of_address rfl hurl nofun
  obtain ⟨_, _, _, hcurrent, _, hsealed, _, hcomplete, _⟩ :=
    keepers_do_not_interfere .drill .store hm hn [.ofFees [900] newYear] (.ofFees [50] newYear)
  have hsent := congrArg (·.map (·.hook.sent)) hsealed
  simp only [Option.map_map] at hsent
  exact ⟨m, n, hm, hn, hcurrent, hsent, htwo, hzero, (hcomplete hdesk).symm.trans htwo⟩

/-- **A cycle with trouble need not be complete.** The history takes no points, which is counted;
then the connection of the announcement fails in a way that ends the cycle. -/
theorem trouble_before_failed_announcement :
    let i : Incident := ⟨"fault", .other, "no socket"⟩
    let desk : Alert.Desk := .make (.text "https://alerts.example/fees") 300 [.failure i]
    let archive : Drill := { store := .database .memory true .empty, points := some default }
    let t : Turn := .ofFees [900] newYear
    ∃ m : Monitor Drill, make "feed" {} (some archive) (some desk) = .ok m ∧
      (m.cycle .drill t.outcome t.now).result = .error (.alert (.incident i)) ∧
      (m.run .drill [t]).status.persistenceFailures = 1 ∧
      tally .drill (fun m t => isComplete .drill m t && hasTrouble .drill m t) m [t] = 0 := by
  intro i desk archive t
  have hrun : (make "feed" {} (some archive) (some desk)).toOption.any (fun m => decide
      ((m.cycle .drill t.outcome t.now).result = .error (.alert (.incident i)) ∧
        (m.run .drill [t]).status.persistenceFailures = 1 ∧
        tally .drill (fun m t => isComplete .drill m t && hasTrouble .drill m t) m [t] = 0)) =
      true := by
    decide +kernel
  obtain ⟨m, hmake, hrun⟩ := exists_ok_of_any hrun
  exact ⟨m, hmake, of_decide_eq_true hrun⟩

end FeeWatch.Monitor
