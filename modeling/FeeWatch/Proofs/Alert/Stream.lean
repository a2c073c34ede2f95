import FeeWatch.Proofs.Alert.Desk
import Mathlib.Data.List.Chain

/-! What a desk announces over time.

A desk is called about the market and about the monitor's health in any order and at any times,
also times that go back. Each of the two is a state that it watches (`Watch`): a call that says
nothing of a state leaves what was announced of it alone, and a call that returns announces what it
says exactly if that is due. So what a desk announces of a state is a function of what the calls
said of that state, their `changes` (`alerts_eq_changes`), and the other calls, the address and the
replies make no difference. A change that reverts while the desk keeps quiet is never announced; one
that is still there at a later call is. -/
namespace FeeWatch.Alert

open FeeWatch.Calendar (Instant)
open FeeWatch.Fee (Market Health Snapshot)

/-- A call of a desk. -/
inductive Notice where
  /-- The market of a snapshot. -/
  | market (s : Snapshot) (now : Instant)
  /-- A health, with the report it is part of. -/
  | health (state : Health) (report : Datum) (now : Instant)

namespace Notice

/-- The message that announces a call. -/
def message : Notice → Datum
  | .market s now => Desk.marketMessage s now
  | .health _ report now => Desk.healthMessage report now

/-- What is logged before the message is posted. -/
def line : Notice → Log
  | .market s _ =>
    Hook.say .info s!"Congestion state changed to {s.market.word}, sending alert"
  | .health state _ _ => Hook.say .info s!"Engine health changed to {state.word}, sending alert"

end Notice

/-! ### One call -/

namespace Desk
variable {d : Desk}

/-- What becomes of a call. -/
def take (d : Desk) : Notice → Except Hook.Fault Bool × Desk × Log
  | .market s now => d.noticeMarket s now
  | .health state report now => d.announceHealth state report now

/-- Whether a call has something to announce. -/
def owes (d : Desk) : Notice → Bool
  | .market s now => d.isDue d.market s.market now
  | .health state _ now => d.isDue d.health state now

/-- The desk once a call is announced. -/
def noted (d : Desk) : Notice → Desk
  | .market s now => { d with market := ⟨s.market, now⟩ }
  | .health state _ now => { d with health := ⟨state, now⟩ }

@[simp] theorem noted_hook (d : Desk) (n : Notice) : (d.noted n).hook = d.hook := by
  cases n <;> rfl

@[simp] theorem noted_quiet (d : Desk) (n : Notice) : (d.noted n).quiet = d.quiet := by
  cases n <;> rfl

theorem take_eq (n : Notice) : d.take n = d.tell (d.owes n) n.line n.message (noted · n) := by
  cases n <;> rfl

/-- What a call comes to when it returns. -/
theorem take_of_ok {n : Notice} {b : Bool} (h : (d.take n).1 = .ok b) :
    b = d.owes n ∧ (d.take n).2.1 =
      if b then noted { d with hook := (d.hook.post n.message).2.1 } n else d := by
  rw [take_eq] at h ⊢
  obtain ⟨rfl, hafter⟩ := tell_of_ok h
  exact ⟨rfl, hafter⟩

theorem take_quiet {n : Notice} {b : Bool} (h : (d.take n).1 = .ok b) :
    (d.take n).2.1.quiet = d.quiet := by
  rw [(take_of_ok h).2]
  cases b <;> simp

theorem take_hook {n : Notice} {b : Bool} (h : (d.take n).1 = .ok b) :
    (d.take n).2.1.hook = if b then (d.hook.post n.message).2.1 else d.hook := by
  rw [(take_of_ok h).2]
  cases b <;> simp

theorem take_returns (hd : d.hook.Returns) (n : Notice) :
    (d.take n).1 = .ok (d.owes n) ∧ (d.take n).2.1.hook.Returns := by
  obtain ⟨log, htell⟩ := tell_returns hd (d.owes n) n.line n.message (noted · n)
  have hok : (d.take n).1 = .ok (d.owes n) := by rw [take_eq, htell]
  refine ⟨hok, ?_⟩
  rw [take_hook hok]
  split
  · exact (hd.post n.message).2
  · exact hd

/-! ### Calls in a row -/

def after (d : Desk) (ns : List Notice) : Desk := ns.foldl (fun d n => (d.take n).2.1) d

/-- Whether all calls return, one after the other. -/
def Answers : Desk → List Notice → Prop
  | _, [] => True
  | d, n :: rest => (∃ b, (d.take n).1 = .ok b) ∧ (d.take n).2.1.Answers rest

/-- The calls that were answered with yes. -/
def announced : Desk → List Notice → List Notice
  | _, [] => []
  | d, n :: rest =>
    match (d.take n).1 with
    | .ok true => n :: (d.take n).2.1.announced rest
    | _ => (d.take n).2.1.announced rest

theorem announced_cons {n : Notice} {b : Bool} (h : (d.take n).1 = .ok b) (rest : List Notice) :
    d.announced (n :: rest) = (if b then [n] else []) ++ (d.take n).2.1.announced rest := by
  cases b <;> simp [announced, h]

theorem answers_append {ms ns : List Notice} :
    d.Answers (ms ++ ns) ↔ d.Answers ms ∧ (d.after ms).Answers ns := by
  induction ms generalizing d with
  | nil => simp [Answers, after]
  | cons m ms ih => simp only [List.cons_append, Answers, ih, after, List.foldl_cons, and_assoc]

/-- All calls return of a desk whose posts do. -/
theorem answers_of_returns (hd : d.hook.Returns) (ns : List Notice) : d.Answers ns := by
  induction ns generalizing d with
  | nil => trivial
  | cons n rest ih =>
    obtain ⟨hok, hreturns⟩ := take_returns hd n
    exact ⟨⟨_, hok⟩, ih hreturns⟩

theorem after_quiet {ns : List Notice} (h : d.Answers ns) : (d.after ns).quiet = d.quiet := by
  induction ns generalizing d with
  | nil => rfl
  | cons n rest ih =>
    obtain ⟨⟨b, hb⟩, hrest⟩ := h
    exact (ih hrest).trans (take_quiet hb)

/-- What calls post are the messages of those that were answered with yes, in their order. -/
theorem after_hook {ns : List Notice} (h : d.Answers ns) :
    (d.after ns).hook =
      ((d.announced ns).map Notice.message).foldl (fun hook m => (hook.post m).2.1) d.hook := by
  induction ns generalizing d with
  | nil => rfl
  | cons n rest ih =>
    obtain ⟨⟨b, hb⟩, hrest⟩ := h
    refine (ih hrest).trans ?_
    rw [announced_cons hb, List.map_append, List.foldl_append, take_hook hb]
    cases b <;> rfl

end Desk

theorem Hook.deliver_sent (h : Hook) (address : Address) (body : String) :
    (h.deliver address body).2.1.sent = h.sent := by
  unfold deliver
  dsimp only
  split
  · rfl
  · split <;> rfl

/-- A post counts as sent, whatever becomes of it. -/
theorem Hook.post_sent (h : Hook) (payload : Datum) :
    (h.post payload).2.1.sent = h.sent + 1 := by
  unfold post
  dsimp only
  split
  · rfl
  · split
    · split
      · exact deliver_sent _ _ _
      · rfl
    · rfl
    · rfl

theorem Hook.posts_sent (payloads : List Datum) (h : Hook) :
    (payloads.foldl (fun h p => (h.post p).2.1) h).sent = h.sent + payloads.length := by
  induction payloads generalizing h with
  | nil => rfl
  | cons p rest ih =>
    rw [List.foldl_cons, ih, post_sent, List.length_cons]
    omega

/-! ### The states that are watched -/

/-- A state that a desk watches, by what was announced of it last and what a call says of it. -/
structure Watch (σ : Type) [DecidableEq σ] where
  last : Desk → Announced σ
  reading : Notice → Option (Announced σ)
  /-- A call owes what it says if that is due. -/
  owes : ∀ {d : Desk} {n : Notice} {r : Announced σ}, reading n = some r →
    d.owes n = d.isDue (last d) r.state r.time
  /-- What a call says is what was announced last once the call is noted. -/
  noted : ∀ (d : Desk) (n : Notice), last (d.noted n) = (reading n).getD (last d)
  /-- The hook has no part in what was announced last. -/
  unhooked : ∀ (d : Desk) (hook : Hook), last { d with hook } = last d

namespace Watch

def market : Watch Market where
  last := Desk.market
  reading
    | .market s now => some ⟨s.market, now⟩
    | .health .. => none
  owes {d n r} h := by
    cases n <;> cases h
    rfl
  noted d n := by cases n <;> rfl
  unhooked d hook := rfl

/-- The monitor's health as a desk watches it. -/
def health : Watch Health where
  last := Desk.health
  reading
    | .market .. => none
    | .health state _ now => some ⟨state, now⟩
  owes {d n r} h := by
    cases n <;> cases h
    rfl
  noted d n := by cases n <;> rfl
  unhooked d hook := rfl

variable {σ : Type} [DecidableEq σ] (w : Watch σ) {d : Desk}

/-- What calls say of a state. -/
def readings (ns : List Notice) : List (Announced σ) := ns.filterMap w.reading

/-- What a desk announces of a state when it is called. -/
def alerts (d : Desk) (ns : List Notice) : List (Announced σ) := w.readings (d.announced ns)

theorem last_take {n : Notice} {b : Bool} (h : (d.take n).1 = .ok b) :
    w.last (d.take n).2.1 = if b then (w.reading n).getD (w.last d) else w.last d := by
  rw [(Desk.take_of_ok h).2]
  cases b with
  | true => simp [w.noted, w.unhooked]
  | false => rfl

/-- After a call a state is known as the call says, or it is too soon to tell. -/
theorem known_take {n : Notice} {b : Bool} (h : (d.take n).1 = .ok b) {r : Announced σ}
    (hr : w.reading n = some r) :
    (w.last (d.take n).2.1).state = r.state ∨
      d.quieted (w.last (d.take n).2.1).time r.time = false := by
  have hdue := (Desk.take_of_ok h).1.trans (w.owes hr)
  rw [w.last_take h, hr]
  cases b with
  | true => exact .inl rfl
  | false => exact Desk.eq_or_not_quieted hdue.symm

end Watch

/-! ### Changes -/

namespace Desk
variable {σ : Type} [DecidableEq σ] {d : Desk}

/-- The readings that are announced when `last` was announced last. -/
def changes (d : Desk) : Announced σ → List (Announced σ) → List (Announced σ)
  | _, [] => []
  | last, r :: rest =>
    if d.isDue last r.state r.time then r :: d.changes r rest else d.changes last rest

/-- Only the quiet period counts. -/
theorem changes_congr {d' : Desk} (h : d.quiet = d'.quiet) (last : Announced σ)
    (rs : List (Announced σ)) : d.changes last rs = d'.changes last rs := by
  have hdue : ∀ (last : Announced σ) (state : σ) (now : Instant),
      d.isDue last state now = d'.isDue last state now := by
    intro last state now
    simp only [isDue, quieted, h]
  induction rs generalizing last with
  | nil => rfl
  | cons r rest ih => simp only [changes, hdue, ih]

/-- Each announcement tells of another state than the one before, after the quiet period. -/
theorem changes_isChain (last : Announced σ) (rs : List (Announced σ)) :
    (last :: d.changes last rs).IsChain fun a b =>
      a.state ≠ b.state ∧ d.quieted a.time b.time = true := by
  induction rs generalizing last with
  | nil => exact List.isChain_singleton last
  | cons r rest ih =>
    unfold changes
    by_cases hdue : d.isDue last r.state r.time = true
    · rw [if_pos hdue]
      obtain ⟨hdiffers, hquieted⟩ := Bool.and_eq_true_iff.mp hdue
      exact List.isChain_cons_cons.mpr ⟨⟨(bne_iff_ne.mp hdiffers).symm, hquieted⟩, ih r⟩
    · rw [if_neg hdue]
      exact ih last

end Desk

namespace Watch
variable {σ : Type} [DecidableEq σ] (w : Watch σ) {d : Desk}

theorem alerts_cons {n : Notice} {b : Bool} (h : (d.take n).1 = .ok b) (rest : List Notice) :
    w.alerts d (n :: rest) =
      (if b then (w.reading n).toList else []) ++ w.alerts (d.take n).2.1 rest := by
  rw [alerts, Desk.announced_cons h, readings, List.filterMap_append]
  cases b with
  | true => cases hr : w.reading n <;> simp [hr, alerts, readings]
  | false => rfl

/-- What a desk announces of a state are the changes among what the calls say of that state. -/
theorem alerts_eq_changes {ns : List Notice} (h : d.Answers ns) :
    w.alerts d ns = d.changes (w.last d) (w.readings ns) := by
  induction ns generalizing d with
  | nil => rfl
  | cons n rest ih =>
    obtain ⟨⟨b, hb⟩, hrest⟩ := h
    -- The calls that are left find another desk, but one with the same quiet period.
    have hlater : w.alerts (d.take n).2.1 rest =
        d.changes (w.last (d.take n).2.1) (w.readings rest) :=
      (ih hrest).trans (Desk.changes_congr (Desk.take_quiet hb) _ _)
    rw [w.alerts_cons hb, hlater, w.last_take hb, readings, readings, List.filterMap_cons]
    cases hr : w.reading n with
    | none => cases b <;> rfl -- a call about the other state
    | some r =>
      have hdue := (Desk.take_of_ok hb).1.trans (w.owes hr)
      cases b <;> simp [Desk.changes, ← hdue]

/-- A desk remembers the last of what it announced. -/
theorem last_after {ns : List Notice} (h : d.Answers ns) :
    w.last (d.after ns) = (w.alerts d ns).getLastD (w.last d) := by
  induction ns generalizing d with
  | nil => rfl
  | cons n rest ih =>
    obtain ⟨⟨b, hb⟩, hrest⟩ := h
    refine (ih hrest).trans ?_
    rw [w.alerts_cons hb, w.last_take hb]
    cases b with
    | false => rfl
    | true =>
      cases w.reading n with
      | none => rfl
      | some r => exact List.getLastD_cons.symm

theorem length_readings (ns : List Notice) :
    ns.length = (market.readings ns).length + (health.readings ns).length := by
  induction ns with
  | nil => rfl
  | cons n rest ih =>
    simp only [readings, List.length_cons, List.filterMap_cons] at ih ⊢
    cases n <;> simp only [market, health, List.length_cons] at ih ⊢ <;> omega

/-- Each announcement is of one of the two states. -/
theorem length_announced (d : Desk) (ns : List Notice) :
    (d.announced ns).length = (market.alerts d ns).length + (health.alerts d ns).length :=
  length_readings (d.announced ns)

/-- How a desk announces a state: the first announcement is of `opening`, each next one is of
another state than the one before and keeps the quiet period, and no call leaves the state unknown
unless it is too soon. What is announced of the state depends on what the calls say of it and on
nothing else. -/
structure Lawful (opening : σ) (d : Desk) (ns : List Notice) : Prop where
  opens : ∀ a ∈ (w.alerts d ns).head?, a.state = opening
  turns : (w.alerts d ns).IsChain fun a b => a.state ≠ b.state ∧ d.quieted a.time b.time = true
  known : ∀ (done : List Notice) (n : Notice), done ++ [n] <+: ns → ∀ r ∈ w.reading n,
    let last := (w.alerts d (done ++ [n])).getLastD (w.last d)
    last.state = r.state ∨ d.quieted last.time r.time = false
  apart : ∀ (d' : Desk) (ns' : List Notice), d'.Answers ns' → d'.quiet = d.quiet →
    w.last d' = w.last d → w.readings ns' = w.readings ns → w.alerts d' ns' = w.alerts d ns

theorem alerts_isChain {ns : List Notice} (h : d.Answers ns) :
    (w.last d :: w.alerts d ns).IsChain fun a b =>
      a.state ≠ b.state ∧ d.quieted a.time b.time = true := by
  rw [w.alerts_eq_changes h]
  exact d.changes_isChain (w.last d) (w.readings ns)

theorem lawful {ns : List Notice} (h : d.Answers ns) {opening : σ}
    (hopening : ∀ state, (w.last d).state ≠ state → state = opening) : w.Lawful opening d ns where
  opens a ha := hopening _ ((List.isChain_cons.mp (w.alerts_isChain h)).1 a ha).1
  turns := (w.alerts_isChain h).tail
  known done n hprefix r hr := by
    -- The last of the announcements so far is what the desk remembers after the call.
    obtain ⟨rest, rfl⟩ := hprefix
    have hanswers := (Desk.answers_append.mp h).1
    obtain ⟨hdone, ⟨b, hb⟩, _⟩ := Desk.answers_append.mp hanswers
    have hknown := w.known_take hb hr
    have hafter : (d.after (done ++ [n])) = ((d.after done).take n).2.1 := by
      simp only [Desk.after, List.foldl_append, List.foldl_cons, List.foldl_nil]
    intro last
    rw [← hafter, Desk.quieted, Desk.after_quiet hdone, w.last_after hanswers] at hknown
    exact hknown
  apart d' ns' h' hquiet hlast hreadings := by
    rw [w.alerts_eq_changes h, w.alerts_eq_changes h', hlast, hreadings]
    exact Desk.changes_congr hquiet _ _

end Watch

/-- **What a new desk announces.** If all calls return, whatever they say, in whatever order and at
whatever times, the announcements of the market begin with a congested one and those of the health
with a degraded one, and of either state they follow its law, on their own. One message was sent for
each call that was answered with yes. -/
theorem Desk.alerts_lawful (target : Datum) (quiet : Number) (replies : List Reply)
    (ns : List Notice) (h : (make target quiet replies).Answers ns) :
    let d := make target quiet replies
    Watch.market.Lawful .congested d ns ∧ Watch.health.Lawful .degraded d ns ∧
      (d.after ns).hook.sent = (d.announced ns).length := by
  intro d
  refine ⟨Watch.market.lawful h fun state hstate => ?_, Watch.health.lawful h fun state hstate => ?_,
    ?_⟩
  · cases state with
    | normal => exact absurd rfl hstate
    | congested => rfl
  · cases state with
    | healthy => exact absurd rfl hstate
    | degraded => rfl
  · rw [after_hook h, Hook.posts_sent, List.length_map]
    exact Nat.zero_add _

def atSecond (second : Nat) (h : second * 1000000 < Instant.limit := by decide) : Instant :=
  ⟨second * 1000000, h⟩

/-- The market turns back three times: too soon, by a clock that goes back, and when the quiet period
is over. -/
theorem Desk.alerts_lawful_turning :
    let market (state : Market) (now : Instant) : Notice :=
      .market ⟨"", "", "", "", now, 0, state⟩ now
    let health (state : Health) (now : Instant) : Notice := .health state .null now
    let ns := [market .congested (atSecond 1000), health .degraded (atSecond 1010),
      market .normal (atSecond 1100), market .normal (atSecond 1050),
      health .degraded (atSecond 1400), market .normal (atSecond 1300)]
    (make .null 300 []).Answers ns ∧ Watch.market.Lawful .congested (make .null 300 []) ns ∧
      Watch.health.Lawful .degraded (make .null 300 []) ns ∧
      Watch.market.alerts (make .null 300 []) ns =
        [⟨.congested, atSecond 1000⟩, ⟨.normal, atSecond 1300⟩] ∧
      Watch.health.alerts (make .null 300 []) ns = [⟨.degraded, atSecond 1010⟩] ∧
      ((make .null 300 []).after ns).hook.sent = 3 := by
  intro market health ns
  have hreturns : (make .null 300 []).hook.Returns := Hook.returns_of_empty rfl
  have hanswers := answers_of_returns hreturns ns
  obtain ⟨hmarket, hhealth, hsent⟩ := alerts_lawful .null 300 [] ns hanswers
  have hm : Watch.market.alerts (make .null 300 []) ns =
      [⟨.congested, atSecond 1000⟩, ⟨.normal, atSecond 1300⟩] := by
    rw [Watch.alerts_eq_changes _ hanswers]
    decide
  have hh : Watch.health.alerts (make .null 300 []) ns = [⟨.degraded, atSecond 1010⟩] := by
    rw [Watch.alerts_eq_changes _ hanswers]
    decide
  rw [Watch.length_announced, hm, hh] at hsent
  exact ⟨hanswers, hmarket, hhealth, hm, hh, hsent⟩

end FeeWatch.Alert
