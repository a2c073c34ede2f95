import FeeWatch.Proofs.Alert.Desk
import FeeWatch.Proofs.Monitor.Emission
import FeeWatch.Proofs.Monitor.Publication

/-! What a desk has announced of the market.

A desk is told of the market only when a snapshot is published, so a change that came
in its quiet period is announced by the first snapshot that is published after it, not
by the first cycle. `IsInformed` is what all cycles keep, and `announced_when_published`
says what that means after a complete cycle. Under the policy `always` every complete
cycle publishes. Under `onChange` a change stays unannounced for as long as the fees
stay as they are (`unannounced_while_skipped`). -/
namespace FeeWatch.Monitor

open FeeWatch.Calendar (Instant)
open FeeWatch.Fee (Point Snapshot Status)

variable {α : Type}

/-- What telling a desk comes to whose posts return. -/
theorem announce_returns {d : Alert.Desk} (hd : d.hook.Returns) (kept : Option Snapshot)
    (status : Status) (now : Instant) :
    ∃ d' log, announce d kept status now = (.ok (), d', log) ∧ d'.hook.Returns ∧
      d'.quiet = d.quiet ∧ (kept = none → d'.market = d.market) ∧
      ∀ s ∈ kept, d'.Knows s.market now := by
  unfold announce
  cases kept with
  | none =>
    obtain ⟨b, d', log, hnotice, hreturns, hquiet, hmarket⟩ :=
      Alert.Desk.announceHealth_returns hd status.health status.report now
    simp only [Alert.Desk.noticeHealth, hnotice]
    exact ⟨d', _, rfl, hreturns, hquiet, fun _ => hmarket, nofun⟩
  | some s =>
    obtain ⟨b, d', log, hnotice, hreturns, hquiet, hknows⟩ :=
      Alert.Desk.noticeMarket_returns hd s now
    obtain ⟨b', d'', log', hnotice', hreturns', hquiet', hmarket⟩ :=
      Alert.Desk.announceHealth_returns hreturns status.health status.report now
    simp only [Alert.Desk.noticeHealth, hnotice, hnotice']
    refine ⟨d'', _, rfl, hreturns', hquiet'.trans hquiet, nofun, fun s' hs' => ?_⟩
    exact Option.some.inj hs' ▸ hknows.congr hquiet' hmarket

/-- Whether there is a desk with a quiet period whose posts return, and that knew the market of the
current snapshot when this was published. -/
def IsInformed (quiet : Number) (desk : Option Alert.Desk) (current : Option Snapshot) : Prop :=
  ∃ d, desk = some d ∧ d.hook.Returns ∧ d.quiet = quiet ∧ ∀ s ∈ current, d.Knows s.market s.time

/-- A desk that is told of a snapshot at its time is informed. -/
theorem IsInformed.told {quiet : Number} {desk : Option Alert.Desk}
    {current kept : Option Snapshot} {now : Instant} (h : IsInformed quiet desk current)
    (hkept : ∀ s ∈ kept, s.time = now) (status : Status) :
    IsInformed quiet (told desk kept status now) (kept.or current) := by
  obtain ⟨d, rfl, hreturns, hquiet, hknows⟩ := h
  obtain ⟨d', log, hannounce, hreturns', hquiet', hsame, hknows'⟩ :=
    announce_returns hreturns kept status now
  rw [Monitor.told, Option.map_some, hannounce]
  refine ⟨d', rfl, hreturns', hquiet'.trans hquiet, fun s hs => ?_⟩
  cases kept with
  | none => exact (hknows s hs).congr hquiet' (hsame rfl)
  | some s' =>
    obtain rfl : s' = s := Option.some.inj hs
    exact hkept s' rfl ▸ hknows' s' rfl

/-- A snapshot is published at the time that it bears. -/
theorem emission_time (m : Monitor α) (t : Turn) : ∀ s ∈ m.emission t, s.time = t.now := by
  intro s hs
  obtain ⟨hmade, _⟩ := Option.filter_eq_some_iff.mp hs
  rw [made] at hmade
  split at hmade
  · cases hmade
  · split at hmade
    · cases hmade
    · exact Option.some.inj hmade ▸ rfl

theorem after_informed (K : Keeper α) {quiet : Number} {m : Monitor α}
    (hm : IsInformed quiet m.desk m.current) (t : Turn) :
    IsInformed quiet (m.after K t).desk (m.after K t).current := by
  have htime := emission_time m t
  rw [current_after]
  cases m.way K t with
  | failed f fetched made after =>
    rw [emission_of_made_eq_none made] at htime ⊢
    rw [after]
    exact hm.told htime _
  | stuck points f fetched digested made after =>
    rw [emission_of_made_eq_none made, after]
    exact hm
  | shown points left fetched digested made emission after =>
    rw [emission] at htime ⊢
    rw [after]
    exact hm.told htime _

theorem run_informed (K : Keeper α) {quiet : Number} {m : Monitor α}
    (hm : IsInformed quiet m.desk m.current) (turns : List Turn) :
    IsInformed quiet (m.run K turns).desk (m.run K turns).current := by
  induction turns generalizing m with
  | nil => exact hm
  | cons t rest ih => exact ih (after_informed K hm t)

/-- The snapshot that a complete cycle reports is current, and states the window. -/
theorem after_complete (K : Keeper α) {settings : Settings} {m : Monitor α}
    (hm : m.Steady settings) {t : Turn} {ingested evicted : Nat} {s : Snapshot} {emitted : Bool}
    (h : (m.cycle K t.outcome t.now).result = .ok (.complete ingested evicted s emitted)) :
    (m.after K t).current = some s ∧
      States s settings.baseFee (m.after K t).window (m.after K t).detector.state := by
  have hafter : (m.after K t).Steady settings := (cycle_course K m t.outcome t.now).steady hm
  rcases cycle_returned K h with ⟨f, _, hr⟩ | ⟨points, left, houtcome, hdigest, hr⟩
  · cases hr
  · have hmonitor := (cycle_digested K hdigest t.now).1
    rw [← houtcome] at hmonitor
    rw [after, hmonitor] at hafter ⊢
    have htaken : (m.digested points).Steady settings := ⟨hm.settings, hafter.window⟩
    obtain ⟨p, hcurrent, hp, hstates, _⟩ := htaken.current_states t.now
    obtain ⟨_, _, hs, _⟩ := Result.complete.inj hr
    obtain rfl : s = p := hs.trans hp
    exact ⟨hcurrent, hstates⟩

/-- **A change of the market is announced by the first snapshot that is published after the quiet
period.** After a complete cycle the desk has announced the market's state, unless its quiet
period was not over when the current snapshot was published. If the cycle published it, as under
the policy `always` every complete cycle does, that was at the moment of the cycle. -/
theorem announced_when_published (K : Keeper α) {source : String} {settings : Settings}
    {archive : Option α} {desk : Alert.Desk} {m : Monitor α}
    (hmake : make source settings archive (some desk) = .ok m) (hdesk : desk.hook.Returns)
    (turns : List Turn) (t : Turn) {ingested evicted : Nat} {s : Snapshot} {emitted : Bool}
    (hresult : ((m.run K turns).cycle K t.outcome t.now).result =
      .ok (.complete ingested evicted s emitted)) :
    let m' := m.run K (turns ++ [t])
    ∃ d, m'.desk = some d ∧ d.quiet = desk.quiet ∧ m'.current = some s ∧
      d.Knows m'.detector.state s.time ∧ (emitted = true → d.Knows m'.detector.state t.now) ∧
      (settings.policy = .always → emitted = true) := by
  intro m'
  have hsteady := run_steady K (make_steady hmake) turns
  have hm' : m' = (m.run K turns).after K t := run_concat K m turns t
  have hinformed : IsInformed desk.quiet m'.desk m'.current := by
    refine run_informed K ?_ _
    obtain ⟨_, _, _, _, _, rfl⟩ := make_eq_ok hmake
    exact ⟨desk, rfl, hdesk, rfl, nofun⟩
  obtain ⟨d, hd, _, hquiet, hknows⟩ := hinformed
  obtain ⟨hcurrent, hstates⟩ := after_complete K hsteady hresult
  rw [← hm'] at hcurrent hstates
  -- The current snapshot may be an old one, but it states the market that the detector is in.
  have hmarket : d.Knows m'.detector.state s.time := hstates.market ▸ hknows s hcurrent
  have hemission := emission_of_returned K hresult
  refine ⟨d, hd, hquiet, hcurrent, hmarket, fun hemitted => ?_, fun hpolicy => ?_⟩
  · subst hemitted
    exact emission_time _ t s hemission ▸ hmarket
  · obtain ⟨made, hmade⟩ := made_of_complete K hresult rfl
    have hsettings : (m.run K turns).settings.policy = .always := hsteady.settings ▸ hpolicy
    rw [emission, hmade, hsettings] at hemission
    cases emitted with
    | true => rfl
    | false => cases hemission

/-- A monitor of the latest fee alone, whose desk keeps quiet for five minutes. -/
def watchful (policy : Policy) : Except SetupFault (Monitor History.Store) :=
  make "feed" { maxPoints := .int 1, maxAge := .null, policy } none
    (some (.make (.text "https://alerts.example/fees") 300 []))

/-- A moment of the first hour. -/
def atSecond (n : Fin 3600) : Instant :=
  ⟨n * Calendar.second, Nat.lt_of_le_of_lt
    (Nat.mul_le_mul_right Calendar.second (Nat.le_of_lt n.isLt)) (by decide)⟩

/-- A high fee is announced, and comes back after it was low in the quiet period. -/
theorem announced_when_published_again :
    ∃ m, watchful .onChange = .ok m ∧
      let m' := m.run .store [.ofFees [900] (atSecond 1000), .ofFees [50] (atSecond 1060),
        .ofFees [900] (atSecond 1400)]
      m'.detector.state = .congested ∧ ∃ d, m'.desk = some d ∧ d.market.state = .congested ∧
        d.quieted d.market.time (atSecond 1400) = true := by
  let turns : List Turn := [.ofFees [900] (atSecond 1000), .ofFees [50] (atSecond 1060)]
  let t : Turn := .ofFees [900] (atSecond 1400)
  have hurl : Alert.Address.read "https://alerts.example/fees" =
      .ok ⟨true, "alerts.example", 443, "/fees"⟩ := by
    decide +kernel
  have hrun : (match watchful .onChange with
      | .ok m => decide (((m.run .store turns).cycle .store t.outcome t.now).result =
            .ok (.complete 1 1 ⟨"100", "900", "900", "900", t.now, 1, .congested⟩ true) ∧
          (m.run .store (turns ++ [t])).detector.state = .congested ∧
          (m.run .store (turns ++ [t])).desk.all (fun d => d.quieted d.market.time t.now) = true)
      | .error _ => false) = true := by
    decide +kernel
  cases hmake : watchful .onChange with
  | error f => rw [hmake] at hrun; cases hrun
  | ok m =>
    rw [hmake] at hrun
    obtain ⟨hresult, hstate, hquieted⟩ := of_decide_eq_true hrun
    obtain ⟨d, hd, _, _, _, hknows, _⟩ := announced_when_published .store hmake
      (Alert.Hook.returns_of_address rfl hurl nofun) turns t hresult
    rw [hd] at hquieted
    rw [hstate] at hknows
    exact ⟨m, rfl, hstate, d, hd, hknows rfl hquieted, hquieted⟩

/-- **Under `onChange` a change may stay unannounced.** The market becomes congested, which is
announced, and normal again in the quiet period; when that is over a cycle without points
publishes nothing, and the desk is not told. -/
theorem unannounced_while_skipped :
    ∃ m, watchful .onChange = .ok m ∧
      let turns : List Turn := [.ofFees [900] (atSecond 1000), .ofFees [50] (atSecond 1060)]
      let t : Turn := .ofFees [] (atSecond 1400)
      let m' := m.run .store (turns ++ [t])
      ((m.run .store turns).cycle .store t.outcome t.now).result =
          .ok (.complete 0 0 ⟨"100", "50", "50", "50", atSecond 1060, 1, .normal⟩ false) ∧
        m'.detector.state = .normal ∧ m'.desk.any (fun d =>
          d.quieted d.market.time t.now && d.market.state == .congested) = true := by
  let turns : List Turn := [.ofFees [900] (atSecond 1000), .ofFees [50] (atSecond 1060)]
  let t : Turn := .ofFees [] (atSecond 1400)
  have hrun : (match watchful .onChange with
      | .ok m => decide (((m.run .store turns).cycle .store t.outcome t.now).result =
            .ok (.complete 0 0 ⟨"100", "50", "50", "50", atSecond 1060, 1, .normal⟩ false) ∧
          (m.run .store (turns ++ [t])).detector.state = .normal ∧
          (m.run .store (turns ++ [t])).desk.any (fun d =>
            d.quieted d.market.time t.now && d.market.state == .congested) = true)
      | .error _ => false) = true := by
    decide +kernel
  cases hmake : watchful .onChange with
  | error f => rw [hmake] at hrun; cases hrun
  | ok m =>
    rw [hmake] at hrun
    exact ⟨m, rfl, of_decide_eq_true hrun⟩

end FeeWatch.Monitor
