import FeeWatch.Alert.Desk

/-! What becomes of a desk.

A hook may fail to return, and then so does the desk. `Hook.Returns` says that it
never does, however often it is asked; an address that is not set is one such case
(`returns_of_empty`), and an address whose connections have only incidents that are
expected is another (`returns_of_address`). A desk with such a hook always returns,
and knows the market's state as soon as its quiet period is over.

Whether it returns or not, the bodies of its messages make no difference to a desk:
`sealed` leaves them out, and what a desk does next is decided without them. -/
namespace FeeWatch.Alert

open FeeWatch.Calendar (Instant)
open FeeWatch.Fee (Health Snapshot)

namespace Hook

/-- Whether every post returns, after any others. -/
def Returns (h : Hook) : Prop :=
  ∀ (payloads : List Datum) (payload : Datum),
    ((payloads.foldl (fun h p => (h.post p).2.1) h).post payload).1 = .ok ()

theorem Returns.post {h : Hook} (hh : h.Returns) (payload : Datum) :
    (h.post payload).1 = .ok () ∧ (h.post payload).2.1.Returns :=
  ⟨hh [] payload, fun payloads => hh (payload :: payloads)⟩

/-- Every post returns of a hook that has and keeps a property with which a post returns. -/
theorem returns_of_kept {P : Hook → Prop}
    (hP : ∀ h payload, P h → (h.post payload).1 = .ok () ∧ P (h.post payload).2.1)
    {h : Hook} (hh : P h) : h.Returns := by
  intro payloads
  induction payloads generalizing h with
  | nil => exact fun payload => (hP h payload hh).1
  | cons p rest ih => exact ih (hP h p hh).2

theorem returns_of_empty {h : Hook} (hh : h.target.isSome = false) : h.Returns := by
  refine returns_of_kept (P := fun h => h.target.isSome = false) (fun h payload hh => ?_) hh
  have hempty : (!h.target.isSome) = true := by rw [hh]; rfl
  unfold post
  rw [if_pos hempty]
  exact ⟨rfl, hh⟩

/-- Whether all incidents of connections to come are expected. -/
def IsCalm (h : Hook) : Prop := ∀ i, .failure i ∈ h.replies → isExpected i = true

theorem IsCalm.deliver {h : Hook} (hh : h.IsCalm) (address : Address) (body : String) :
    (h.deliver address body).1 = .ok () ∧ (h.deliver address body).2.1.IsCalm ∧
      (h.deliver address body).2.1.target = h.target := by
  unfold Hook.deliver
  dsimp only
  cases complaint? address with
  | some reason => exact ⟨rfl, hh, rfl⟩
  | none =>
    obtain ⟨target, replies, sent, posts⟩ := h
    cases replies with
    | nil => exact ⟨rfl, hh, rfl⟩
    | cons r rest =>
      have hrest : IsCalm ⟨target, rest, sent, posts ++ [⟨address, body⟩]⟩ :=
        fun i hi => hh i (List.mem_cons_of_mem r hi)
      have hreceive : ∃ log, receive body r = .ok log := by
        cases r with
        | failure i => exact ⟨_, if_pos (hh i List.mem_cons_self)⟩
        | answer status reason =>
          unfold receive
          dsimp only
          split
          · exact ⟨_, rfl⟩
          · split <;> exact ⟨_, rfl⟩
      obtain ⟨log, hlog⟩ := hreceive
      simp only [nextReply, hlog]
      exact ⟨trivial, hrest, trivial⟩

theorem returns_of_address {h : Hook} {url : String} {address : Address}
    (htarget : h.target = .scalar (.text url)) (hurl : Address.read url = .ok address)
    (hh : h.IsCalm) : h.Returns := by
  refine returns_of_kept (P := fun h => h.target = .scalar (.text url) ∧ h.IsCalm)
    (fun h payload hh => ?_) ⟨htarget, hh⟩
  obtain ⟨target, replies, sent, posts⟩ := h
  obtain ⟨rfl, hcalm⟩ := hh
  have hsent : IsCalm ⟨.scalar (.text url), replies, sent + 1, posts⟩ := hcalm
  obtain ⟨hok, hkept, htarget⟩ := hsent.deliver address (Json.write .ascii payload)
  unfold post
  dsimp only
  split
  · exact ⟨rfl, rfl, hcalm⟩
  · rw [hurl]
    exact ⟨hok, htarget, hkept⟩

/-! ### What was posted -/

/-- A hook without the bodies of what it posted. -/
def sealed (h : Hook) : Hook := { h with posts := h.posts.map ({ · with body := "" }) }

/-- Whether a reply is dealt with does not depend on what it replies to. -/
theorem receive_cases (body body' : String) (r : Reply) :
    (∃ log log', receive body r = .ok log ∧ receive body' r = .ok log') ∨
      ∃ f, receive body r = .error f ∧ receive body' r = .error f := by
  cases r with
  | answer status reason =>
    refine .inl ?_
    unfold receive
    dsimp only
    cases misread? status reason with
    | some line => exact ⟨_, _, rfl, rfl⟩
    | none =>
      by_cases h : 400 ≤ status
      · exact ⟨_, _, if_pos h, if_pos h⟩
      · exact ⟨_, _, if_neg h, if_neg h⟩
  | failure i =>
    unfold receive
    dsimp only
    split
    · exact .inl ⟨_, _, rfl, rfl⟩
    · exact .inr ⟨_, rfl, rfl⟩

theorem deliver_sealed {h h' : Hook} (hh : h.sealed = h'.sealed) (address : Address)
    (body body' : String) :
    (h.deliver address body).1 = (h'.deliver address body').1 ∧
      (h.deliver address body).2.1.sealed = (h'.deliver address body').2.1.sealed := by
  obtain ⟨target, replies, sent, posts⟩ := h
  obtain ⟨target', replies', sent', posts'⟩ := h'
  obtain ⟨rfl, rfl, rfl, hposts⟩ := Hook.mk.inj hh
  unfold deliver
  dsimp only
  cases complaint? address with
  | some reason => simp [sealed, hposts]
  | none =>
    rcases receive_cases body body' (nextReply replies).1 with ⟨log, log', h, h'⟩ | ⟨f, h, h'⟩ <;>
      simp [h, h', sealed, hposts]

/-- What a post comes to, and what becomes of the hook, does not depend on what was posted. -/
theorem post_sealed {h h' : Hook} (hh : h.sealed = h'.sealed) (payload payload' : Datum) :
    (h.post payload).1 = (h'.post payload').1 ∧
      (h.post payload).2.1.sealed = (h'.post payload').2.1.sealed := by
  obtain ⟨target, replies, sent, posts⟩ := h
  obtain ⟨target', replies', sent', posts'⟩ := h'
  obtain ⟨rfl, rfl, rfl, hposts⟩ := Hook.mk.inj hh
  have hsent : Hook.sealed ⟨target, replies, sent + 1, posts⟩ =
      Hook.sealed ⟨target, replies, sent + 1, posts'⟩ := by
    simp only [sealed, hposts]
  unfold post
  dsimp only
  split
  · exact ⟨rfl, hsent⟩
  · split
    · split
      · exact deliver_sealed hsent _ _ _
      · exact ⟨rfl, hsent⟩
    · exact ⟨rfl, hsent⟩
    · exact ⟨rfl, hsent⟩

end Hook

namespace Desk

variable {d : Desk}

/-- What the two kinds of calls share: what is due is posted, and noted once the post returns. -/
def tell (d : Desk) (due : Bool) (before : Log) (payload : Datum) (note : Desk → Desk) :
    Except Hook.Fault Bool × Desk × Log :=
  if due then
    match d.hook.post payload with
    | (.ok _, hook, log) => (.ok true, note { d with hook }, before ++ log)
    | (.error f, hook, log) => (.error f, { d with hook }, before ++ log)
  else (.ok false, d, [])

theorem noticeMarket_eq (s : Snapshot) (now : Instant) :
    d.noticeMarket s now = d.tell (d.isDue d.market s.market now)
      (Hook.say .info s!"Congestion state changed to {s.market.word}, sending alert")
      (marketMessage s now) ({ · with market := ⟨s.market, now⟩ }) := rfl

theorem announceHealth_eq (health : Health) (report : Datum) (now : Instant) :
    d.announceHealth health report now = d.tell (d.isDue d.health health now)
      (Hook.say .info s!"Engine health changed to {health.word}, sending alert")
      (healthMessage report now) ({ · with health := ⟨health, now⟩ }) := rfl

section Tell
variable {due : Bool} {before : Log} {payload : Datum} {note : Desk → Desk}

/-- What a call comes to when it returns. -/
theorem tell_of_ok {b : Bool} (h : (d.tell due before payload note).1 = .ok b) :
    b = due ∧ (d.tell due before payload note).2.1 =
      if due then note { d with hook := (d.hook.post payload).2.1 } else d := by
  unfold tell at h ⊢
  cases due with
  | false =>
    cases h
    exact ⟨rfl, rfl⟩
  | true =>
    simp only [if_true] at h ⊢
    rcases hpost : d.hook.post payload with ⟨result, hook, log⟩
    cases result with
    | error f => simp [hpost] at h
    | ok _ =>
      simp only [hpost] at h ⊢
      cases h
      exact ⟨rfl, trivial⟩

theorem tell_log : (d.tell due before payload note).2.2 =
    if due then before ++ (d.hook.post payload).2.2 else [] := by
  unfold tell
  cases due with
  | false => rfl
  | true => rcases d.hook.post payload with ⟨_ | _, hook, log⟩ <;> rfl

theorem tell_returns (hd : d.hook.Returns) (due : Bool) (before : Log) (payload : Datum)
    (note : Desk → Desk) :
    ∃ log, d.tell due before payload note =
      (.ok due, if due then note { d with hook := (d.hook.post payload).2.1 } else d, log) := by
  have hok : (d.tell due before payload note).1 = .ok due := by
    unfold tell
    cases due with
    | false => rfl
    | true =>
      have hok := (hd.post payload).1
      rcases hpost : d.hook.post payload with ⟨result, hook, log⟩
      rw [hpost] at hok
      cases hok
      rfl
  exact ⟨_, Prod.ext hok (Prod.ext (tell_of_ok hok).2 rfl)⟩

end Tell

/-- Whether a desk has announced the market's state, unless its quiet period is not over. -/
def Knows (d : Desk) (market : Fee.Market) (now : Instant) : Prop :=
  d.quieted d.market.time now = true → d.market.state = market

theorem Knows.congr {d' : Desk} {market : Fee.Market} {now : Instant} (h : d.Knows market now)
    (hquiet : d'.quiet = d.quiet) (hmarket : d'.market = d.market) : d'.Knows market now := by
  rw [Knows, quieted, hmarket, hquiet]
  exact h

/-- What is not due is known, or it is too soon to tell. -/
theorem eq_or_not_quieted {σ : Type} [DecidableEq σ] {last : Announced σ} {state : σ}
    {now : Instant} (h : d.isDue last state now = false) :
    last.state = state ∨ d.quieted last.time now = false := by
  by_cases hsame : last.state = state
  · exact .inl hsame
  · have hdiffers : (state != last.state) = true := bne_iff_ne.mpr (Ne.symm hsame)
    rw [isDue, hdiffers, Bool.true_and] at h
    exact .inr h

theorem noticeMarket_returns (hd : d.hook.Returns) (s : Snapshot) (now : Instant) :
    ∃ b d' log, d.noticeMarket s now = (.ok b, d', log) ∧ d'.hook.Returns ∧
      d'.quiet = d.quiet ∧ d'.Knows s.market now := by
  obtain ⟨log, htell⟩ := tell_returns hd (d.isDue d.market s.market now) _ _ _
  refine ⟨_, _, log, (noticeMarket_eq s now).trans htell, ?_⟩
  cases hdue : d.isDue d.market s.market now with
  | true => exact ⟨(hd.post _).2, rfl, fun _ => rfl⟩
  | false =>
    refine ⟨hd, rfl, fun hquieted => (eq_or_not_quieted hdue).resolve_right fun hnot => ?_⟩
    exact absurd hquieted (Bool.eq_false_iff.mp hnot)

theorem announceHealth_returns (hd : d.hook.Returns) (health : Health) (report : Datum)
    (now : Instant) :
    ∃ b d' log, d.announceHealth health report now = (.ok b, d', log) ∧ d'.hook.Returns ∧
      d'.quiet = d.quiet ∧ d'.market = d.market := by
  obtain ⟨log, htell⟩ := tell_returns hd (d.isDue d.health health now) _ _ _
  refine ⟨_, _, log, (announceHealth_eq health report now).trans htell, ?_⟩
  cases d.isDue d.health health now with
  | true => exact ⟨(hd.post _).2, rfl, rfl⟩
  | false => exact ⟨hd, rfl, rfl⟩

/-! ### What was posted -/

/-- A desk without the bodies of what its hook posted. -/
def sealed (d : Desk) : Desk := { d with hook := d.hook.sealed }

theorem isDue_sealed {σ : Type} [DecidableEq σ] {d d' : Desk} (h : d.sealed = d'.sealed)
    (last : Announced σ) (state : σ) (now : Instant) :
    d.isDue last state now = d'.isDue last state now := by
  obtain ⟨_, hquiet, _, _⟩ := Desk.mk.inj h
  rw [isDue, isDue, quieted, quieted, hquiet]

/-- Whether a call returns, and what becomes of the desk, does not depend on what it says. -/
theorem tell_sealed {d d' : Desk} (h : d.sealed = d'.sealed) (due : Bool) (before before' : Log)
    (payload payload' : Datum) {note : Desk → Desk}
    (hnote : ∀ {e e' : Desk}, e.sealed = e'.sealed → (note e).sealed = (note e').sealed) :
    (d.tell due before payload note).1 = (d'.tell due before' payload' note).1 ∧
      (d.tell due before payload note).2.1.sealed =
        (d'.tell due before' payload' note).2.1.sealed := by
  cases due with
  | false => exact ⟨rfl, h⟩
  | true =>
    obtain ⟨hhook, hquiet, hmarket, hhealth⟩ := Desk.mk.inj h
    have hpost := Hook.post_sealed hhook payload payload'
    unfold tell
    simp only [if_true]
    rcases hone : d.hook.post payload with ⟨result, hook, log⟩
    rcases hother : d'.hook.post payload' with ⟨result', hook', log'⟩
    rw [hone, hother] at hpost
    obtain ⟨rfl, hposted⟩ : result = result' ∧ hook.sealed = hook'.sealed := hpost
    have hkept : Desk.sealed { d with hook } = Desk.sealed { d' with hook := hook' } := by
      simp [sealed, hposted, hquiet, hmarket, hhealth]
    cases result with
    | ok _ => exact ⟨rfl, hnote hkept⟩
    | error f => exact ⟨rfl, hkept⟩

theorem noticeMarket_sealed {d d' : Desk} (h : d.sealed = d'.sealed) (s : Snapshot)
    (now : Instant) :
    (d.noticeMarket s now).1 = (d'.noticeMarket s now).1 ∧
      (d.noticeMarket s now).2.1.sealed = (d'.noticeMarket s now).2.1.sealed := by
  obtain ⟨_, _, hmarket, _⟩ := Desk.mk.inj h
  rw [noticeMarket_eq, noticeMarket_eq, isDue_sealed h, hmarket]
  apply tell_sealed h
  intro e e' he
  exact congrArg (fun d : Desk => { d with market := ⟨s.market, now⟩ }) he

theorem announceHealth_sealed {d d' : Desk} (h : d.sealed = d'.sealed) (health : Health)
    (report report' : Datum) (now : Instant) :
    (d.announceHealth health report now).1 = (d'.announceHealth health report' now).1 ∧
      (d.announceHealth health report now).2.1.sealed =
        (d'.announceHealth health report' now).2.1.sealed := by
  obtain ⟨_, _, _, hhealth⟩ := Desk.mk.inj h
  rw [announceHealth_eq, announceHealth_eq, isDue_sealed h, hhealth]
  apply tell_sealed h
  intro e e' he
  exact congrArg (fun d : Desk => { d with health := ⟨health, now⟩ }) he

end Desk
end FeeWatch.Alert
