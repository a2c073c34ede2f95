import FeeWatch.Proofs.Monitor.Policies
import FeeWatch.Proofs.Monitor.Returning
import Mathlib.Data.List.DropRight

/-! What the status says of the cycles that have run.

A cycle that returns is reported (`reports`), and the status keeps the books of the
reports (`Books`): how many were complete, how many failed and how many of these at the
end, the last success and the last failure. A cycle that does not return leaves the
books as they are. The health is that of the failures in a row, and the log names every
change of it: `health_log` says that the changes in the log are the first states of the
blocks of equal health, so that the two kinds of change take turns. `status_books` puts
the two together. -/
namespace FeeWatch

/-- No two heads of neighbouring blocks of equal elements are equal. -/
theorem blockHeads_isChain {β : Type} [BEq β] [LawfulBEq β] (a : β) (l : List β) :
    (blockHeads (· == ·) (a :: l)).IsChain (· ≠ ·) := by
  induction l generalizing a with
  | nil => exact List.isChain_singleton a
  | cons b rest ih =>
    by_cases h : a = b
    · subst h
      rw [blockHeads_cons_of_true (beq_self_eq_true a), ← blockHeads_cons]
      exact ih a
    · have hrest := ih b
      rw [blockHeads_cons] at hrest
      rw [blockHeads_cons_of_false (beq_false_of_ne h), blockHeads_cons]
      exact List.isChain_cons_cons.mpr ⟨h, hrest⟩

namespace Monitor

open FeeWatch.Calendar (Instant)
open FeeWatch.Fee (Health Phase Point Snapshot Status)

variable {α : Type}

/-! ### Records of others -/

theorem IsForeign.append {a b : Log} (ha : IsForeign a) (hb : IsForeign b) :
    IsForeign (a ++ b) := by
  intro r hr
  rcases List.mem_append.mp hr with hr | hr
  · exact ha r hr
  · exact hb r hr

theorem hook_say_foreign (level : Level) (text : String) :
    IsForeign (Alert.Hook.say level text) := .single Origin.noConfusion

theorem receive_foreign {body : String} {reply : Alert.Reply} {log : Log}
    (h : Alert.Hook.receive body reply = .ok log) : IsForeign log := by
  unfold Alert.Hook.receive at h
  (repeat' split at h) <;> cases h <;> exact hook_say_foreign _ _

theorem post_foreign (h : Alert.Hook) (payload : Datum) : IsForeign (h.post payload).2.2 := by
  unfold Alert.Hook.post
  dsimp only
  split
  · exact hook_say_foreign _ _
  · split
    · split
      · unfold Alert.Hook.deliver
        dsimp only
        split
        · exact hook_say_foreign _ _
        · split
          · rename_i hreceive
            exact receive_foreign hreceive
          · exact .nil
      · exact .nil
    · exact .nil
    · exact .nil

theorem tell_foreign (d : Alert.Desk) (due : Bool) (text : String) (payload : Datum)
    (note : Alert.Desk → Alert.Desk) :
    IsForeign (d.tell due (Alert.Hook.say .info text) payload note).2.2 := by
  rw [Alert.Desk.tell_log]
  cases due with
  | true => exact (hook_say_foreign _ _).append (post_foreign _ _)
  | false => exact .nil

theorem noticeMarket_foreign (d : Alert.Desk) (s : Snapshot) (now : Instant) :
    IsForeign (d.noticeMarket s now).2.2 := by
  rw [Alert.Desk.noticeMarket_eq]
  exact tell_foreign d _ _ _ _

theorem noticeHealth_foreign (d : Alert.Desk) (s : Status) (now : Instant) :
    IsForeign (d.noticeHealth s now).2.2 := by
  rw [Alert.Desk.noticeHealth, Alert.Desk.announceHealth_eq]
  exact tell_foreign d _ _ _ _

theorem notify_foreign (m : Monitor α) (kept : Option Snapshot) (status : Status) (now : Instant) :
    IsForeign (m.notify kept status now).2.2 := by
  unfold notify
  cases m.desk with
  | none => exact .nil
  | some d =>
    show IsForeign (announce d kept status now).2.2
    unfold announce
    cases kept with
    | none => exact noticeHealth_foreign d status now
    | some s =>
      have hmarket := noticeMarket_foreign d s now
      dsimp only
      rcases hnotice : d.noticeMarket s now with ⟨result, d', log⟩
      rw [hnotice] at hmarket
      cases result with
      | error f => exact hmarket
      | ok b => exact hmarket.append (noticeHealth_foreign d' status now)

/-- A keeper whose records are not the monitor's. -/
structure Keeper.IsForeign (K : Keeper α) : Prop where
  points (points : List Point) (a : α) : Monitor.IsForeign (K.keepPoints points a).2.2
  snapshot (s : Snapshot) (a : α) : Monitor.IsForeign (K.keepSnapshot s a).2.2

theorem Keeper.IsForeign.keep {K : Keeper α} (hK : K.IsForeign) (points : List Point)
    (kept : Option Snapshot) (a : α) : Monitor.IsForeign (Monitor.keep K points kept a).2.2 := by
  have hpoints := hK.points points a
  unfold Monitor.keep
  rcases hkeep : K.keepPoints points a with ⟨result, a', log⟩
  rw [hkeep] at hpoints
  cases result with
  | error t => exact hpoints
  | ok u =>
    cases kept with
    | none => exact hpoints
    | some s => exact hpoints.append (hK.snapshot s a')

theorem store_foreign : Keeper.store.IsForeign := by
  have hsay (level : Level) (text : String) : Monitor.IsForeign (History.Store.say level text) :=
    .single Origin.noConfusion
  constructor
  · intro points s
    show Monitor.IsForeign (s.appendPoints points).2.2
    unfold History.Store.appendPoints
    (repeat' split) <;> first | exact hsay _ _ | exact .nil
  · intro snapshot s
    show Monitor.IsForeign (s.appendSnapshot snapshot).2.2
    unfold History.Store.appendSnapshot
    (repeat' split) <;> first | exact hsay _ _ | exact .nil

/-! ### Changes of health in the log -/

/-- The health that a record says the monitor has now: it is degraded, or healthy again. -/
def announced? (r : Record) : Option Health :=
  if r.origin = .monitor ∧ r.level = .error ∧
      "Engine degraded after ".toList <+: r.text.toList then some .degraded
  else if r.origin = .monitor ∧ r.level = .info ∧
      " recovered, engine healthy again".toList <:+ r.text.toList then some .healthy
  else none

/-- The changes of health that a log names. -/
def changes (log : Log) : List Health := log.filterMap announced?

@[simp] theorem changes_append (a b : Log) : changes (a ++ b) = changes a ++ changes b :=
  List.filterMap_append

theorem changes_foreign {log : Log} (h : IsForeign log) : changes log = [] := by
  refine List.filterMap_eq_nil_iff.mpr fun r hr => ?_
  rw [announced?, if_neg fun hmonitor => h r hr hmonitor.1, if_neg fun hmonitor => h r hr hmonitor.1]

theorem changes_say {level : Level} {text : String} (health : Option Health)
    (h : announced? ⟨level, .monitor, text⟩ = health) : changes (say level text) = health.toList := by
  rw [changes, say, List.filterMap_cons, h]
  cases health <;> rfl

/-- Of the monitor's complaints only those that begin so name a change. -/
theorem changes_complaint {text : String} (h : text.toList.head? ≠ some 'E') :
    changes (say .error text) = [] := by
  have hbegin : ¬ "Engine degraded after ".toList <+: text.toList := by
    rintro ⟨rest, hrest⟩
    rw [← hrest] at h
    exact h rfl
  refine changes_say none ?_
  rw [announced?, if_neg fun herror => hbegin herror.2.2, if_neg fun hinfo => nomatch hinfo.2.1]

theorem changes_degraded (n : Nat) :
    changes (say .error
      s!"Engine degraded after {n} consecutive fetch failures; serving last known snapshot") =
      [.degraded] := by
  refine changes_say (some .degraded) (if_pos ⟨rfl, rfl, ?_⟩)
  rw [String.toList_append, String.toList_append, List.append_assoc]
  exact List.prefix_append _ _

theorem changes_recovered (source : String) :
    changes (say .info s!"Provider {source} recovered, engine healthy again") = [.healthy] := by
  refine changes_say (some .healthy) ?_
  rw [announced?, if_neg fun herror => nomatch herror.2.1]
  refine if_pos ⟨rfl, rfl, ?_⟩
  rw [String.toList_append]
  exact List.suffix_append _ _

theorem changes_trouble (t : Trouble) (count : Nat) :
    changes (say .error (troubleText t count)) = [] := by
  refine changes_complaint ?_
  unfold troubleText
  split <;> simp only [String.toList_append, List.head?_append] <;> exact fun h => nomatch h

theorem changes_unexpected (source message : String) :
    changes (say .error s!"Provider {source} raised unexpected error: {message}") = [] := by
  refine changes_complaint ?_
  simp only [String.toList_append, List.head?_append]
  exact fun h => nomatch h

/-- A failed fetch names the change if the monitor was not degraded and is now. -/
theorem changes_failureLog (f : Source.Fault) (before after : Status) :
    changes (failureLog f before after) =
      if after.isDegraded && !before.isDegraded then [.degraded] else [] := by
  have hnil : changes [] = [] := rfl
  have hfailed (text : String) : changes (say .warning text) = [] := rfl
  unfold failureLog
  simp only [changes_append, hfailed]
  cases f <;> dsimp only <;> split <;>
    simp only [changes_unexpected, changes_degraded, hnil, List.append_nil, List.nil_append]

theorem changes_persist {K : Keeper α} (hK : K.IsForeign) (m : Monitor α) (points : List Point)
    (kept : Option Snapshot) : changes (m.persist K points kept).2.2 = [] := by
  unfold persist
  cases m.archive with
  | none => rfl
  | some archive =>
    have hkeep := changes_foreign (hK.keep points kept archive)
    dsimp only
    rcases hkept : keep K points kept archive with ⟨result, archive', log⟩
    rw [hkept] at hkeep
    cases result with
    | ok u => exact hkeep
    | error t =>
      dsimp only
      rw [changes_append, hkeep, changes_trouble]
      rfl

/-- A complete cycle names the change if the monitor was degraded. -/
theorem changes_conclude {K : Keeper α} (hK : K.IsForeign) (m : Monitor α)
    (points left : List Point) (now : Instant) :
    changes (conclude K m points left now).log =
      if m.status.isDegraded then [.healthy] else [] := by
  have hnil : changes [] = [] := rfl
  have hdebug (text : String) : changes (say .debug text) = [] := rfl
  unfold conclude
  simp only [changes_append, changes_persist hK, changes_foreign (notify_foreign _ _ _ _), hdebug,
    List.append_nil]
  split <;> simp only [changes_recovered, hnil]

/-! ### The health of the failures in a row -/

theorem isEnough_succ {s : Settings} {n : Nat} (h : isEnough s n = true) :
    isEnough s (n + 1) = true :=
  Number.le_int_of_le (Int.ofNat_le.mpr (Nat.le_succ n)) h

/-- With settings that were accepted no failure is not enough to degrade. -/
theorem isEnough_zero {s : Settings} (h : s.check = .ok ()) : isEnough s 0 = false := by
  unfold Settings.check Settings.checkOwn at h
  obtain ⟨_, hown, _⟩ := bind_eq_ok.mp h
  obtain ⟨_, _, hown⟩ := bind_eq_ok.mp (mapError_eq_ok.mp hown)
  obtain ⟨_, hown⟩ := guard_eq_ok hown
  obtain ⟨_, hown⟩ := guard_eq_ok hown
  obtain ⟨_, hown⟩ := guard_eq_ok hown
  obtain ⟨_, hthreshold, _⟩ := bind_eq_ok.mp hown
  obtain ⟨x, hx, hleast⟩ := Datum.isLess_eq_ok (Setting.refuseIf_eq_ok hthreshold)
  rw [isEnough, Datum.amount, hx, Option.getD_some]
  cases hle : Number.le x (.int 0) with
  | false => rfl
  | true => rw [Number.lt_int_of_lt (by decide) hle] at hleast; cases hleast

/-- Whether the health is that of the failures in a row: the monitor is degraded exactly if they are
enough to degrade it. -/
structure Rated (s : Settings) (m : Monitor α) : Prop where
  settings : m.settings = s
  health : m.status.health = .degraded ↔ isEnough s m.status.consecutiveFailures = true

theorem Rated.after {settings : Settings} (hzero : isEnough settings 0 = false) {m : Monitor α}
    (hm : m.Rated settings) (K : Keeper α) (t : Turn) : (m.after K t).Rated settings := by
  cases m.way K t with
  | failed f fetched made after =>
    refine ⟨after ▸ hm.settings, ?_⟩
    rw [after]
    show (if isEnough m.settings _ then Health.degraded else .healthy) = .degraded ↔
      isEnough settings (m.status.consecutiveFailures + 1) = true
    rw [hm.settings]
    split <;> simp_all
  | stuck points f fetched digested made after =>
    rw [after]
    exact ⟨hm.settings, hm.health⟩
  | shown points left fetched digested made emission after =>
    rw [after]
    refine ⟨hm.settings, ?_⟩
    show Health.healthy = .degraded ↔ isEnough settings 0 = true
    simp [hzero]

/-- A failed fetch does not make a degraded monitor healthy. -/
theorem Rated.fail {settings : Settings} {m : Monitor α} (hm : m.Rated settings)
    (f : Source.Fault) (h : m.status.health = .degraded) :
    (m.countFailure f).status.health = .degraded := by
  have hbefore := hm.health.mp h
  show (if isEnough m.settings (m.status.consecutiveFailures + 1) then Health.degraded
    else .healthy) = .degraded
  rw [hm.settings, if_pos (isEnough_succ hbefore)]

theorem run_rated {settings : Settings} (hzero : isEnough settings 0 = false) {m : Monitor α}
    (hm : m.Rated settings) (K : Keeper α) (turns : List Turn) : (m.run K turns).Rated settings := by
  induction turns generalizing m with
  | nil => exact hm
  | cons t rest ih => exact ih (hm.after hzero K t)

/-- The change that a log names between two healths. -/
def change (before after : Health) : List Health := if before = after then [] else [after]

/-- A cycle names the health that it leaves behind if it is another than before. -/
theorem changes_cycle {K : Keeper α} (hK : K.IsForeign) {settings : Settings} {m : Monitor α}
    (hm : m.Rated settings) (t : Turn) :
    changes (m.cycle K t.outcome t.now).log = change m.status.health (m.after K t).status.health := by
  cases m.way K t with
  | failed f fetched made after =>
    have hlog : (m.cycle K t.outcome t.now).log =
        failureLog f m.status (m.countFailure f).status ++
          ((m.countFailure f).notify none (m.countFailure f).status t.now).2.2 := by
      rw [fetched]
      rfl
    have hfail := hm.fail f
    rw [hlog, changes_append, changes_failureLog, changes_foreign (notify_foreign _ _ _ _), after]
    show _ = change m.status.health (m.countFailure f).status.health
    rw [Status.isDegraded, Status.isDegraded]
    generalize m.status.health = before at hfail ⊢
    generalize (m.countFailure f).status.health = after at hfail ⊢
    cases before <;> cases after <;> first | rfl | cases hfail rfl
  | stuck points f fetched digested made after =>
    rw [fetched, cycle_ok, after]
    show changes (absorb K (m.enter .fetching) points t.now).log =
      change m.status.health m.status.health
    rcases absorb_cases K m points t.now with
      ⟨_, _, _, log, _, hlog, habsorb⟩ | ⟨left, _, hdigest, _⟩
    · rw [habsorb, changes_foreign hlog]
      exact (if_pos rfl).symm
    · cases digested.symm.trans hdigest
  | shown points left fetched digested made emission after =>
    rw [fetched, cycle_ok, after]
    show changes (absorb K (m.enter .fetching) points t.now).log = change m.status.health .healthy
    rcases absorb_cases K m points t.now with
      ⟨_, _, _, _, hdigest, _⟩ | ⟨left', log, _, hlog, habsorb⟩
    · cases digested.symm.trans hdigest
    · rw [habsorb]
      show changes (log ++ _) = _
      rw [changes_append, changes_foreign hlog, changes_conclude hK]
      show (if m.status.isDegraded then _ else _) = _
      rw [Status.isDegraded]
      cases m.status.health <;> rfl

/-! ### Runs -/

def logs (K : Keeper α) (m : Monitor α) : List Turn → Log
  | [] => []
  | t :: rest => (m.cycle K t.outcome t.now).log ++ logs K (m.after K t) rest

/-- The health after each of several cycles. -/
def healths (K : Keeper α) (m : Monitor α) : List Turn → List Health
  | [] => []
  | t :: rest => (m.after K t).status.health :: healths K (m.after K t) rest

/-- **The log names every change of health.** The changes that it names are the healths of the blocks
of cycles that leave the same health behind; the first block is that of the health before. -/
theorem health_log {K : Keeper α} (hK : K.IsForeign) {settings : Settings}
    (hzero : isEnough settings 0 = false) {m : Monitor α} (hm : m.Rated settings)
    (turns : List Turn) :
    m.status.health :: changes (logs K m turns) =
      blockHeads (· == ·) (m.status.health :: healths K m turns) := by
  induction turns generalizing m with
  | nil => rfl
  | cons t rest ih =>
    have hrest := ih (hm.after hzero K t)
    rw [logs, healths, changes_append, changes_cycle hK hm t, change]
    by_cases h : m.status.health = (m.after K t).status.health
    · rw [if_pos h, List.nil_append, blockHeads_cons_of_true (beq_iff_eq.mpr h), ← hrest,
        List.tail_cons]
    · rw [if_neg h, blockHeads_cons_of_false (beq_false_of_ne h), ← hrest]
      rfl

/-! ### Books -/

/-- A cycle that returned: when, and what it came to. -/
structure Report where
  now : Instant
  result : Result

def Report.isFailed (r : Report) : Bool := !r.result.isComplete

/-- What is reported of a cycle, if it returns. -/
def report? (K : Keeper α) (m : Monitor α) (t : Turn) : Option Report :=
  (m.cycle K t.outcome t.now).result.toOption.map (⟨t.now, ·⟩)

/-- The reports of the cycles that return, one after another. -/
def reports (K : Keeper α) (m : Monitor α) : List Turn → List Report
  | [] => []
  | t :: rest => (report? K m t).toList ++ reports K (m.after K t) rest

/-- The books of the cycles that have returned. -/
structure Books (past : List Report) (s : Status) : Prop where
  completed : s.cyclesCompleted = past.countP (·.result.isComplete)
  failed : s.totalFailures = past.countP Report.isFailed
  /-- Only the failures after the last complete cycle count as consecutive. -/
  consecutive : s.consecutiveFailures = (past.rtakeWhile Report.isFailed).length
  /-- A complete cycle does not clear the last error. -/
  lastError : s.lastError = (past.filterMap (·.result.fault?)).getLast?.map reason
  lastSuccess : s.lastSuccess = (past.filter (·.result.isComplete)).getLast?.map (·.now)

section Answered
variable {K : Keeper α} {m : Monitor α} {t : Turn}

theorem report?_failed (hdesk : IsAnswered m.desk) {f : Source.Fault} (h : t.outcome = .error f) :
    report? K m t = some ⟨t.now, .failed f m.current⟩ := by
  rw [report?, h, (cycle_failed K m f t.now).2, (hdesk.told _ _ _).1]
  rfl

theorem report?_stuck {points : List Point} {f : Fault × Phase} (h : t.outcome = .ok points)
    (hdigest : (m.digest points).outcome = .error f) : report? K m t = none := by
  rw [report?, h, (cycle_stuck K hdigest t.now).2]
  rfl

theorem report?_shown (hdesk : IsAnswered m.desk) {points left : List Point}
    (h : t.outcome = .ok points) (hdigest : (m.digest points).outcome = .ok left) :
    report? K m t = some ⟨t.now, (m.digested points).completion points left t.now⟩ := by
  rw [report?, h, (cycle_digested K hdigest t.now).2, (hdesk.told _ _ _).1]
  rfl

/-- A cycle that returns is entered in the books, and one that does not leaves them as they are. -/
theorem Books.after {past : List Report} (hm : Books past m.status) (hdesk : IsAnswered m.desk)
    (K : Keeper α) (t : Turn) :
    Books (past ++ (report? K m t).toList) (m.after K t).status := by
  cases m.way K t with
  | failed f fetched made after =>
    have hreport : report? K m t = some ⟨t.now, .failed f m.current⟩ := report?_failed hdesk fetched
    have hfailed : Report.isFailed ⟨t.now, .failed f m.current⟩ = true := rfl
    rw [hreport, after]
    constructor
    · show m.status.cyclesCompleted = _
      simp [hm.completed, Result.isComplete]
    · show m.status.totalFailures + 1 = _
      simp [hm.failed, hfailed]
    · show m.status.consecutiveFailures + 1 = _
      simp [hm.consecutive, List.rtakeWhile_concat_pos _ _ _ hfailed]
    · show some (reason f) = _
      simp [Result.fault?]
    · show m.status.lastSuccess = _
      simp [hm.lastSuccess, Result.isComplete]
  | stuck points f fetched digested made after =>
    rw [report?_stuck fetched digested, after, Option.toList_none, List.append_nil]
    exact ⟨hm.completed, hm.failed, hm.consecutive, hm.lastError, hm.lastSuccess⟩
  | shown points left fetched digested made emission after =>
    have hreport := report?_shown (K := K) hdesk fetched digested
    have hcomplete : ((m.digested points).completion points left t.now).isComplete = true := rfl
    have hfault : ((m.digested points).completion points left t.now).fault? = none := rfl
    generalize (m.digested points).completion points left t.now = result at *
    have hfailed : ¬ Report.isFailed ⟨t.now, result⟩ = true := by simp [Report.isFailed, hcomplete]
    rw [hreport, after]
    constructor
    · show m.status.cyclesCompleted + 1 = _
      simp [hm.completed, hcomplete]
    · show m.status.totalFailures = _
      simp [hm.failed, hfailed]
    · show 0 = _
      simp [List.rtakeWhile_concat_neg _ _ _ hfailed]
    · show m.status.lastError = _
      simp [hm.lastError, hfault]
    · show some t.now = _
      simp [hcomplete]

theorem Books.run {past : List Report} (hm : Books past m.status) (hdesk : IsAnswered m.desk)
    (K : Keeper α) (turns : List Turn) :
    Books (past ++ reports K m turns) (m.run K turns).status := by
  induction turns generalizing m past with
  | nil =>
    rw [reports, List.append_nil]
    exact hm
  | cons t rest ih =>
    have hrest := ih (hm.after hdesk K t) (after_answered K hdesk t)
    rw [reports, ← List.append_assoc]
    exact hrest

/-- The phase after a cycle that returned is that of its result. -/
theorem phase_after {r : Result} (h : (m.cycle K t.outcome t.now).result = .ok r) :
    (m.after K t).status.phase = if r.isComplete then .idle else .degraded := by
  rcases cycle_returned K h with ⟨f, houtcome, rfl⟩ | ⟨points, left, houtcome, hdigest, rfl⟩
  · rw [after, houtcome, (cycle_failed K m f t.now).1]
    rfl
  · rw [after, houtcome, (cycle_digested K hdigest t.now).1]
    rfl

end Answered

/-- **The status keeps the books of the cycles that returned, and the log names every change of the
health.** The monitor is degraded exactly if its failures in a row are enough to degrade it. The
changes take turns, the first is that it is degraded, and there is one for each block of cycles
that leave the same health behind, named by the first of them. After a cycle that returned the
phase is that of its result, whatever the health. -/
theorem status_books {K : Keeper α} (hK : K.IsForeign) {source : String} {settings : Settings}
    {archive : Option α} {desk : Option Alert.Desk} {m : Monitor α}
    (hmake : make source settings archive desk = .ok m) (hdesk : IsAnswered desk)
    (turns : List Turn) :
    let n := m.run K turns
    let named := changes (logs K m turns)
    Books (reports K m turns) n.status ∧
      (n.status.health = .degraded ↔ isEnough settings n.status.consecutiveFailures = true) ∧
      .healthy :: named = blockHeads (· == ·) (.healthy :: healths K m turns) ∧
      (Health.healthy :: named).IsChain (· ≠ ·) ∧
      ∀ t : Turn,
        changes (n.cycle K t.outcome t.now).log =
          change n.status.health (n.after K t).status.health ∧
        ∀ r : Result, (n.cycle K t.outcome t.now).result = .ok r →
          ((n.after K t).status.phase = .idle ↔ r.isComplete = true) ∧
          ((n.after K t).status.phase = .degraded ↔ r.isComplete = false) := by
  intro n named
  have hzero : isEnough settings 0 = false := isEnough_zero (make_eq_ok hmake).1
  have hrated : m.Rated settings ∧ m.status.health = .healthy ∧ Books [] m.status ∧
      IsAnswered m.desk := by
    obtain ⟨_, bounds, detector, _, _, rfl⟩ := make_eq_ok hmake
    exact ⟨⟨rfl, by simp [status, hzero]⟩, rfl, ⟨rfl, rfl, rfl, rfl, rfl⟩, hdesk⟩
  obtain ⟨hrated, hhealthy, hbooks, hanswered⟩ := hrated
  have hrun : n.Rated settings := run_rated hzero hrated K turns
  have hnamed := health_log hK hzero hrated turns
  rw [hhealthy] at hnamed
  refine ⟨hbooks.run hanswered K turns, hrun.health, hnamed, ?_, fun t => ?_⟩
  · rw [hnamed]
    exact blockHeads_isChain _ _
  · refine ⟨changes_cycle hK hrun t, fun r hr => ?_⟩
    rw [phase_after hr]
    cases r.isComplete <;> simp

/-- Two failures degrade the monitor, and a complete cycle makes it healthy again. One more failure
leaves the phase of failures behind, but is not enough to degrade it. -/
theorem status_books_twoFailures :
    let failure : Turn := ⟨.error (.failure .rateLimit), newYear⟩
    let turns : List Turn := [failure, failure, .ofFees [100] newYear]
    ∃ m : Monitor History.Store,
      make "feed" { failureThreshold := .int 2 } none (some (.make .null 300 [])) = .ok m ∧
      (m.run .store turns).status.totalFailures = (reports .store m turns).countP Report.isFailed ∧
      changes (logs .store m turns) = [.degraded, .healthy] ∧
      ((m.run .store turns).after .store failure).status.phase = .degraded ∧
      ((m.run .store turns).after .store failure).status.health = .healthy := by
  intro failure turns
  have hrun : (make "feed" { failureThreshold := .int 2 } none
      (some (.make .null 300 []))).toOption.any (fun m : Monitor History.Store => decide
        (healths .store m turns = [.healthy, .degraded, .healthy] ∧
          ((m.run .store turns).cycle .store failure.outcome failure.now).result =
            .ok (.failed (.failure .rateLimit) (m.run .store turns).current) ∧
          ((m.run .store turns).after .store failure).status.health = .healthy)) = true := by
    decide +kernel
  have hblocks : blockHeads (· == ·) [Health.healthy, .healthy, .degraded, .healthy] =
      [.healthy, .degraded, .healthy] := by
    decide
  have hdesk : IsAnswered (some (.make .null 300 [])) := fun d hd =>
    Option.some.inj hd ▸ Alert.Hook.returns_of_empty rfl
  obtain ⟨m, hmake, hrun⟩ := exists_ok_of_any hrun
  obtain ⟨hhealths, hresult, hhealthy⟩ := of_decide_eq_true hrun
  obtain ⟨hbooks, _, hnamed, _, hcycle⟩ := status_books store_foreign hmake hdesk turns
  rw [hhealths, hblocks] at hnamed
  have hphase := ((hcycle failure).2 _ hresult).2.mpr rfl
  exact ⟨m, hmake, hbooks.failed, (List.cons.inj hnamed).2, hphase, hhealthy⟩

end Monitor
end FeeWatch
