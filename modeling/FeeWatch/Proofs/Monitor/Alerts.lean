import FeeWatch.Proofs.Alert.Reach
import FeeWatch.Proofs.Monitor.Returning

/-! Cycles that alerts end.

A cycle tells its desk of the snapshot that it published and of the monitor's health
(`notices`), after everything else is done. If the desk's address can be connected to, this
always returns. If it cannot, the first of these that has something to announce ends the
cycle with a fault; the desk has announced nothing then, so the next cycle meets the same
end (`alerts_return_iff_reaches`). -/
namespace FeeWatch.Monitor

open FeeWatch.Alert (Notice Reaches)
open FeeWatch.Calendar (Instant)
open FeeWatch.Fee (Snapshot Status)

variable {α : Type}

/-! ### What a desk is told -/

/-- The calls of a desk that is told of a cycle. -/
def noticesOf (kept : Option Snapshot) (status : Status) (now : Instant) : List Notice :=
  (kept.map (.market · now)).toList ++ [.health status.health status.report now]

/-- The calls of its desk that a cycle makes; a batch that cannot be digested is not told. -/
def notices (m : Monitor α) (t : Turn) : List Notice :=
  match t.outcome with
  | .error f => noticesOf none (m.countFailure f).status t.now
  | .ok points =>
    match (m.digest points).outcome with
    | .error _ => []
    | .ok _ => noticesOf (m.news points t.now) (m.showing points t.now).status t.now

/-- Whether a desk has an address whose connections have no incidents but expected ones. -/
def IsAimed (url : String) (desk : Option Alert.Desk) : Prop :=
  ∃ d, desk = some d ∧ d.hook.IsAimed url

section Told
variable {url : String} {desk : Option Alert.Desk} {d : Alert.Desk} {kept : Option Snapshot}
  {status : Status} {now : Instant}

theorem IsAimed.answered (h : IsAimed url desk) (hreaches : Reaches url) : IsAnswered desk := by
  obtain ⟨d, rfl, hd⟩ := h
  exact fun e he => Option.some.inj he ▸ hd.returns hreaches

/-- A desk keeps its address, whatever it is told. -/
theorem IsAimed.told (h : IsAimed url desk) (kept : Option Snapshot) (status : Status)
    (now : Instant) : IsAimed url (told desk kept status now) := by
  obtain ⟨d, rfl, hd⟩ := h
  refine ⟨_, rfl, ?_⟩
  have hhealth {e : Alert.Desk} (he : e.hook.IsAimed url) :
      (e.noticeHealth status now).2.1.hook.IsAimed url :=
    Alert.Desk.take_aimed he (.health status.health status.report now)
  unfold announce
  cases kept with
  | none => exact hhealth hd
  | some s =>
    have hmarket : (d.noticeMarket s now).2.1.hook.IsAimed url :=
      Alert.Desk.take_aimed hd (.market s now)
    dsimp only
    rcases hnotice : d.noticeMarket s now with ⟨_ | _, e, log⟩ <;> rw [hnotice] at hmarket
    · exact hmarket
    · exact hhealth hmarket

/-- A desk that cannot connect to its address fails if one of its calls has something to
announce. -/
theorem telling_unreached (hd : d.hook.IsAimed url) (hreaches : ¬ Reaches url) :
    (∃ f, telling (some d) kept status now = .error (.alert f)) ↔
      ∃ n ∈ noticesOf kept status now, d.owes n = true := by
  have hhealth : (∃ f, (d.noticeHealth status now).1.map (fun _ => ()) = .error f) ↔
      d.owes (.health status.health status.report now) = true := by
    cases howes : d.owes (.health status.health status.report now) with
    | false =>
      have htake : d.noticeHealth status now = _ := Alert.Desk.take_of_not_owes howes
      rw [htake]
      exact iff_of_false (by rintro ⟨_, ⟨⟩⟩) Bool.false_ne_true
    | true =>
      obtain ⟨f, _, htake⟩ := Alert.Desk.take_unreached hd hreaches howes
      have htake : d.noticeHealth status now = _ := htake
      rw [htake]
      exact iff_of_true ⟨_, rfl⟩ rfl
  have htelling : (∃ f, telling (some d) kept status now = .error (.alert f)) ↔
      ∃ f, (announce d kept status now).1 = .error f := by
    rw [telling]
    cases (announce d kept status now).1 with
    | ok => exact iff_of_false (by rintro ⟨_, ⟨⟩⟩) (by rintro ⟨_, ⟨⟩⟩)
    | error f => exact iff_of_true ⟨f, rfl⟩ ⟨f, rfl⟩
  rw [htelling]
  cases kept with
  | none => simpa [noticesOf, announce] using hhealth
  | some s =>
    cases howes : d.owes (.market s now) with
    | false =>
      have htake : d.noticeMarket s now = _ := Alert.Desk.take_of_not_owes howes
      simpa [noticesOf, announce, htake, howes] using hhealth
    | true =>
      obtain ⟨f, _, htake⟩ := Alert.Desk.take_unreached hd hreaches howes
      have htake : d.noticeMarket s now = _ := htake
      simp [noticesOf, announce, htake, howes]

end Told

/-! ### Cycles -/

section Cycles
variable {url : String}

theorem after_aimed (K : Keeper α) {m : Monitor α} (hm : IsAimed url m.desk) (t : Turn) :
    IsAimed url (m.after K t).desk := by
  cases m.way K t with
  | failed f fetched made after => rw [after]; exact hm.told _ _ _
  | stuck points f fetched digested made after => rw [after]; exact hm
  | shown points left fetched digested made emission after => rw [after]; exact hm.told _ _ _

theorem run_aimed (K : Keeper α) {m : Monitor α} (hm : IsAimed url m.desk) (turns : List Turn) :
    IsAimed url (m.run K turns).desk := by
  induction turns generalizing m with
  | nil => exact hm
  | cons t rest ih => exact ih (after_aimed K hm t)

/-- A batch that cannot be digested ends the cycle before its desk is told. -/
theorem digest_ne_alert {m : Monitor α} {points : List Fee.Point} {f : Alert.Hook.Fault}
    {phase : Fee.Phase} : (m.digest points).outcome ≠ .error (.alert f, phase) := by
  intro h
  unfold digest at h
  (repeat' split at h) <;> cases h

/-- A cycle reports the fault of its desk. -/
theorem map_alert_iff {telling : Except Fault Unit} {r : Result} :
    (∃ f, telling.map (fun _ => r) = .error (.alert f)) ↔ ∃ f, telling = .error (.alert f) :=
  exists_congr fun _ => map_eq_error

/-- An alert ends a cycle exactly if its desk cannot connect to its address and one of its calls
has something to announce. -/
theorem ended_by_alert_iff (K : Keeper α) {m : Monitor α} {d : Alert.Desk} (hdesk : m.desk = some d)
    (hd : d.hook.IsAimed url) (t : Turn) :
    (∃ f, (m.cycle K t.outcome t.now).result = .error (.alert f)) ↔
      ¬ Reaches url ∧ ∃ n ∈ m.notices t, d.owes n = true := by
  have htelling (kept : Option Snapshot) (status : Status) :
      (∃ f, telling m.desk kept status t.now = .error (.alert f)) ↔
        ¬ Reaches url ∧ ∃ n ∈ noticesOf kept status t.now, d.owes n = true := by
    rw [hdesk]
    by_cases hreaches : Reaches url
    · have hanswered : IsAnswered (some d) := IsAimed.answered ⟨d, rfl, hd⟩ hreaches
      rw [(hanswered.told kept status t.now).1]
      exact iff_of_false nofun fun h => h.1 hreaches
    · rw [and_iff_right hreaches]
      exact telling_unreached hd hreaches
  cases m.way K t with
  | failed f fetched =>
    rw [notices, fetched, (cycle_failed K m f t.now).2, map_alert_iff]
    exact htelling _ _
  | stuck points f fetched digested =>
    obtain ⟨f, phase⟩ := f
    simp only [notices, fetched, digested, (cycle_stuck K digested t.now).2]
    refine iff_of_false ?_ (by simp)
    rintro ⟨a, ha⟩
    cases ha
    exact digest_ne_alert digested
  | shown points left fetched digested =>
    simp only [notices, fetched, digested, (cycle_digested K digested t.now).2]
    rw [map_alert_iff]
    exact htelling _ _

end Cycles

/-- **Alerts return exactly if their address can be connected to.** Whatever expected incidents its
connections have, a hook counts each message that it is given; it returns from the post exactly if
its address is empty or can be connected to. Then a desk with this hook returns from every call and
remembers what it announced. Otherwise each call that has something to announce is a fault, and the
desk remembers what it did before. After any cycles, the next one ends with such a fault exactly if
the address cannot be connected to and something of what the desk is told is due. -/
theorem alerts_return_iff_reaches (K : Keeper α) {source : String} {settings : Settings}
    {archive : Option α} {desk : Alert.Desk} {m : Monitor α}
    (hmake : make source settings archive (some desk) = .ok m) {url : String}
    (hdesk : desk.hook.IsAimed url) (turns : List Turn) (t : Turn) :
    (∀ payload, (desk.hook.post payload).2.1.sent = desk.hook.sent + 1 ∧
      ((desk.hook.post payload).1 = .ok () ↔ Reaches url)) ∧
    (Reaches url → ∀ n, (desk.take n).1 = .ok (desk.owes n) ∧
      (desk.owes n = true → ∃ hook, (desk.take n).2.1 = Alert.Desk.noted { desk with hook } n)) ∧
    (¬ Reaches url → ∀ n, desk.owes n = true → (∃ f, (desk.take n).1 = .error (.address f)) ∧
      ∃ hook, (desk.take n).2.1 = { desk with hook }) ∧
    ∃ d, (m.run K turns).desk = some d ∧ d.hook.IsAimed url ∧
      ((∃ f, ((m.run K turns).cycle K t.outcome t.now).result = .error (.alert f)) ↔
        ¬ Reaches url ∧ ∃ n ∈ (m.run K turns).notices t, d.owes n = true) := by
  refine ⟨fun payload => ⟨desk.hook.post_sent payload, hdesk.post_isOk_iff payload⟩,
    fun hreaches n => ?_, fun hreaches n howes => ?_, ?_⟩
  · have hok := (Alert.Desk.take_returns (hdesk.returns hreaches) n).1
    refine ⟨hok, fun howes => ?_⟩
    rw [(Alert.Desk.take_of_ok hok).2, if_pos howes]
    exact ⟨_, rfl⟩
  · obtain ⟨f, _, htake⟩ := Alert.Desk.take_unreached hdesk hreaches howes
    rw [htake]
    exact ⟨⟨f, rfl⟩, _, rfl⟩
  · have haimed : IsAimed url m.desk := by
      obtain ⟨_, _, _, _, _, rfl⟩ := make_eq_ok hmake
      exact ⟨desk, rfl, hdesk⟩
    obtain ⟨d, hd, hhook⟩ := run_aimed K haimed turns
    exact ⟨d, hd, hhook, ended_by_alert_iff K hd hhook t⟩

/-- A desk whose address has a port that there is not. -/
def misaimed : Alert.Desk := .make (.text "http://h:65536/") 0 []

/-- The congested market of one cycle ends it, and what the next one tells is due again. -/
theorem alerts_return_iff_reaches_misaimed :
    ∃ m : Monitor History.Store, make "feed" {} none (some misaimed) = .ok m ∧
      (∃ f, (m.cycle .store (Turn.ofFees [900] newYear).outcome newYear).result =
        .error (.alert f)) ∧
      ∃ f, ((m.run .store [.ofFees [900] newYear]).cycle .store (Turn.ofFees [] newYear).outcome
        newYear).result = .error (.alert f) := by
  have hread : Alert.Address.read "http://h:65536/" = .error .portRange := by decide +kernel
  have hreaches : ¬ Reaches "http://h:65536/" := by
    rintro (hempty | hconnectable)
    · exact absurd hempty (by decide)
    · obtain ⟨address, haddress⟩ := (Alert.Address.read_isOk_iff _).mpr hconnectable
      cases hread.symm.trans haddress
  have haimed : misaimed.hook.IsAimed "http://h:65536/" := ⟨rfl, nofun⟩
  have hrun : (match (make "feed" {} none (some misaimed) : Except _ (Monitor History.Store)) with
      | .ok m => (m.notices (.ofFees [900] newYear)).any misaimed.owes &&
          (m.run .store [.ofFees [900] newYear]).desk.any fun d =>
            ((m.run .store [.ofFees [900] newYear]).notices (.ofFees [] newYear)).any d.owes
      | .error _ => false) = true := by
    decide +kernel
  cases hmake : (make "feed" {} none (some misaimed) : Except _ (Monitor History.Store)) with
  | error f => rw [hmake] at hrun; cases hrun
  | ok m =>
    rw [hmake] at hrun
    obtain ⟨hfirst, hnext⟩ := Bool.and_eq_true_iff.mp hrun
    obtain ⟨d, hd, _, hended⟩ := (alerts_return_iff_reaches .store hmake haimed []
      (.ofFees [900] newYear)).2.2.2
    obtain ⟨d', hd', _, hended'⟩ := (alerts_return_iff_reaches .store hmake haimed
      [.ofFees [900] newYear] (.ofFees [] newYear)).2.2.2
    have hdesk : m.desk = some misaimed := by
      obtain ⟨_, _, _, _, _, rfl⟩ := make_eq_ok hmake
      rfl
    obtain rfl : misaimed = d := Option.some.inj (hdesk.symm.trans hd)
    rw [hd'] at hnext
    exact ⟨m, rfl, hended.mpr ⟨hreaches, List.any_eq_true.mp hfirst⟩,
      hended'.mpr ⟨hreaches, List.any_eq_true.mp hnext⟩⟩

/-- **An alert may be a fault.** To an address whose port is out of range nothing is posted: the call
about a congested market is a fault, and the desk has not announced it, but counts a message. -/
theorem port_out_of_range_is_fault :
    let s : Snapshot := ⟨"100", "900", "900", "900", newYear, 1, .congested⟩
    let d := (misaimed.noticeMarket s newYear).2.1
    (misaimed.noticeMarket s newYear).1 = .error (.address .portRange) ∧
      d.market.state = .normal ∧ d.hook.sent = 1 ∧ d.hook.posts = [] := by
  decide +kernel

end FeeWatch.Monitor
