import FeeWatch.Proofs.Alert.Address
import FeeWatch.Proofs.Alert.Stream

/-! Hooks whose posts return, and hooks whose posts do not.

Connections may fail in every way that connections are expected to fail, so whether a post
returns is decided before one is made, by the address alone (`IsAimed.post_isOk_iff`): an
empty one takes every message, and any other must have a location that can be connected
to (`Reaches`). A desk whose address has none fails at every call that has something to
announce. It counts the message as sent, remembers nothing of it, and owes it again. -/
namespace FeeWatch.Alert

/-- Whether messages to a text are taken. Nothing is posted to the empty one. -/
def Reaches (url : String) : Prop := url = "" ∨ Address.IsConnectable (Address.location url)

namespace Hook

/-- A hook with an address whose connections have no incidents but expected ones. -/
structure IsAimed (h : Hook) (url : String) : Prop where
  target : h.target = .scalar (.text url)
  calm : h.IsCalm

section Aimed
variable {h : Hook} {url : String}

theorem IsAimed.returns (hh : h.IsAimed url) (hreaches : Reaches url) : h.Returns := by
  rcases hreaches with rfl | hconnectable
  · exact returns_of_empty (by rw [hh.target]; rfl)
  · obtain ⟨address, hread⟩ := (Address.read_isOk_iff url).mpr hconnectable
    exact returns_of_address hh.target hread hh.calm

/-- A post to an address that cannot be connected to fails before anything is posted. -/
theorem IsAimed.post_unreached (hh : h.IsAimed url) (hreaches : ¬ Reaches url) :
    ∃ f, Address.read url = .error f ∧
      ∀ payload, h.post payload = (.error (.address f), { h with sent := h.sent + 1 }, []) := by
  obtain ⟨hempty, hconnectable⟩ := not_or.mp hreaches
  cases hread : Address.read url with
  | ok address => exact absurd ((Address.read_isOk_iff url).mp ⟨address, hread⟩) hconnectable
  | error f =>
    refine ⟨f, rfl, fun payload => ?_⟩
    obtain ⟨target, replies, sent, posts⟩ := h
    obtain ⟨rfl, _⟩ := hh
    have hset : ¬ (!(Datum.scalar (.text url)).isSome) = true := by
      simp [Datum.isSome, Scalar.isSome, hempty]
    unfold Hook.post
    dsimp only
    rw [if_neg hset, hread]

/-- **Posts return exactly if the address can be connected to.** -/
theorem IsAimed.post_isOk_iff (hh : h.IsAimed url) (payload : Datum) :
    (h.post payload).1 = .ok () ↔ Reaches url := by
  by_cases hreaches : Reaches url
  · exact iff_of_true ((hh.returns hreaches).post payload).1 hreaches
  · obtain ⟨f, _, hpost⟩ := hh.post_unreached hreaches
    rw [hpost payload]
    exact iff_of_false nofun hreaches

theorem IsAimed.post (hh : h.IsAimed url) (payload : Datum) :
    (h.post payload).2.1.IsAimed url := by
  obtain ⟨target, replies, sent, posts⟩ := h
  obtain ⟨rfl, hcalm⟩ := hh
  have hsent : IsCalm ⟨.scalar (.text url), replies, sent + 1, posts⟩ := hcalm
  unfold Hook.post
  dsimp only
  split
  · exact ⟨rfl, hcalm⟩
  · split
    · obtain ⟨_, hkept, htarget⟩ := hsent.deliver _ (Json.write .ascii payload)
      exact ⟨htarget, hkept⟩
    · exact ⟨rfl, hcalm⟩

end Aimed
end Hook

namespace Desk
variable {d : Desk} {url : String}

/-- A call posts its message if it has something to announce. -/
theorem hook_take (d : Desk) (n : Notice) :
    (d.take n).2.1.hook = if d.owes n then (d.hook.post n.message).2.1 else d.hook := by
  rw [take_eq, tell]
  split
  · rcases d.hook.post n.message with ⟨_ | _, hook, log⟩
    · rfl
    · exact noted_hook _ n
  · rfl

theorem take_aimed (hd : d.hook.IsAimed url) (n : Notice) :
    (d.take n).2.1.hook.IsAimed url := by
  rw [hook_take]
  split
  · exact hd.post n.message
  · exact hd

theorem take_of_not_owes {n : Notice} (h : d.owes n = false) : d.take n = (.ok false, d, []) := by
  rw [take_eq, h]
  rfl

/-- A call that has something to announce and cannot post it announces nothing. -/
theorem take_unreached (hd : d.hook.IsAimed url) (hreaches : ¬ Reaches url) {n : Notice}
    (h : d.owes n = true) :
    ∃ f, Address.read url = .error f ∧ d.take n = (.error (.address f),
      { d with hook := { d.hook with sent := d.hook.sent + 1 } }, n.line) := by
  obtain ⟨f, hread, hpost⟩ := hd.post_unreached hreaches
  refine ⟨f, hread, ?_⟩
  rw [take_eq, h, tell, hpost]
  simp only [if_true, List.append_nil]

end Desk
end FeeWatch.Alert
