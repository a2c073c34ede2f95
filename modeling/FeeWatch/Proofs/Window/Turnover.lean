import FeeWatch.Proofs.Window.Extremes
import Mathlib.Data.List.Nodup

/-! The queues of extremes while entries come and go.

An entry enters under a sequence number of its own, the oldest entry leaves, the queues are
built anew from some of the entries, or all entries go. Each `Move` changes which entries are
live (`Turn`), and the queues go with them: those of the entries that were live become those of
the entries that are (`after_ofList`). So `queues_follow_live`: after any moves each queue holds
exactly the live entries that beat all that came after them, and nothing else of the past is
left in it. -/
namespace FeeWatch.Window

/-! ### Exactly the leaders -/

/-- Whether a queue holds, in the order of arrival, exactly the entries that beat all that arrived
after them. -/
structure IsLeaders (r : Entry → Entry → Bool) (live queue : List Entry) : Prop where
  sublist : queue.Sublist live
  mem_iff : ∀ {older e newer}, live = older ++ e :: newer →
    (e ∈ queue ↔ ∀ b ∈ newer, r e b = true)

theorem leaders_isLeaders {r : Entry → Entry → Bool} {live : List Entry}
    (h : (live.map Entry.seq).Nodup) : IsLeaders r live (leaders r live) where
  sublist := leaders_sublist live
  mem_iff {older e newer} hlive := by
    have hnodup := List.Nodup.of_map Entry.seq h
    rw [hlive, List.nodup_append] at hnodup
    obtain ⟨-, hlast, hapart⟩ := hnodup
    have holder : e ∉ older := fun he => hapart e he e List.mem_cons_self rfl
    rw [hlive]
    exact mem_leaders_iff holder (List.nodup_cons.mp hlast).1

namespace Extremes

/-! ### Moves -/

/-- What is done to the extremes. -/
inductive Move where
  /-- An entry enters. -/
  | push (e : Entry)
  /-- The oldest entry leaves, known by its sequence number. -/
  | evict (seq : Int)
  /-- The queues are built anew from entries, oldest first. -/
  | rebuild (kept : List Entry)
  /-- All entries go. -/
  | reset
deriving DecidableEq, Repr

def after (x : Extremes) : Move → Extremes
  | .push e => x.push e
  | .evict seq => x.evict seq
  | .rebuild kept => ofList kept
  | .reset => empty

def run (x : Extremes) (moves : List Move) : Extremes := moves.foldl after x

/-- A move that may be made while some entries are live, and the entries that are live after it.
Sequence numbers that only ever increase are new each time. -/
inductive Turn : List Entry → Move → List Entry → Prop
  | push {live e} (hnew : ∀ b ∈ live, b.seq ≠ e.seq) : Turn live (.push e) (live ++ [e])
  | evict {oldest rest} : Turn (oldest :: rest) (.evict oldest.seq) rest
  | rebuild {live kept} (hkept : kept.Sublist live) : Turn live (.rebuild kept) kept
  | reset {live} : Turn live .reset []

/-- Moves that may be made one after another, from the live entries before them to those after
them. -/
inductive Turnover : List Entry → List Move → List Entry → Prop
  | nil {live} : Turnover live [] live
  | cons {live m next rest last} : Turn live m next → Turnover next rest last →
      Turnover live (m :: rest) last

section Turns
variable {live next last : List Entry} {m : Move} {moves : List Move}

/-- Live entries keep numbers of their own. -/
theorem Turn.distinct (h : Turn live m next) (hlive : (live.map Entry.seq).Nodup) :
    (next.map Entry.seq).Nodup := by
  cases h with
  | @push live e hnew =>
    rw [List.map_append, List.nodup_append]
    refine ⟨hlive, by simp, fun a ha b hb => ?_⟩
    obtain ⟨old, hold, rfl⟩ := List.mem_map.mp ha
    rw [List.map_singleton, List.mem_singleton] at hb
    rw [hb]
    exact hnew old hold
  | evict => exact (List.nodup_cons.mp hlive).2
  | rebuild hkept => exact hlive.sublist (hkept.map Entry.seq)
  | reset => exact List.nodup_nil

/-- A move takes the queues of the live entries to those of the entries that are live after it. -/
theorem Turn.after_ofList (h : Turn live m next) (hlive : (live.map Entry.seq).Nodup) :
    (ofList live).after m = ofList next := by
  cases h with
  | @push live e hnew => exact (ofList_append_singleton live e).symm
  | @evict oldest =>
    have hnew : ∀ b ∈ next, b.seq ≠ oldest.seq := fun b hb hseq =>
      (List.nodup_cons.mp hlive).1 (hseq ▸ List.mem_map_of_mem hb)
    exact evict_ofList_cons oldest next hnew
  | rebuild => rfl
  | reset => rfl

theorem Turnover.distinct (h : Turnover live moves last) (hlive : (live.map Entry.seq).Nodup) :
    (last.map Entry.seq).Nodup := by
  induction h with
  | nil => exact hlive
  | cons hturn _ ih => exact ih (hturn.distinct hlive)

theorem Turnover.run_ofList (h : Turnover live moves last) (hlive : (live.map Entry.seq).Nodup) :
    (ofList live).run moves = ofList last := by
  induction h with
  | nil => rfl
  | @cons live m next rest last hturn _ ih =>
    show ((ofList live).after m).run rest = _
    rw [hturn.after_ofList hlive]
    exact ih (hturn.distinct hlive)

end Turns

/-! ### What the queues show -/

/-- Whether extremes are those of the live entries: the queues hold the leaders, building them anew
would change nothing, and the extremes are the least and the greatest live fee, zero when no entry
is live. -/
structure Shows (x : Extremes) (live : List Entry) : Prop where
  mins : IsLeaders lower live x.mins
  maxs : IsLeaders higher live x.maxs
  rebuilt : ∀ y : Extremes, y.after (.rebuild live) = x
  min : x.min = (live.map Entry.fee).min?.getD 0
  max : x.max = (live.map Entry.fee).max?.getD 0

theorem ofList_shows {live : List Entry} (h : (live.map Entry.seq).Nodup) :
    (ofList live).Shows live where
  mins := by
    rw [ofList_eq]
    exact leaders_isLeaders h
  maxs := by
    rw [ofList_eq]
    exact leaders_isLeaders h
  rebuilt _ := rfl
  min := min_ofList live
  max := max_ofList live

/-- **The queues follow the live entries.** After any moves on new extremes the queue of minima
holds, in the order of arrival, exactly the live entries with a lower fee than every later one, and
the queue of maxima those with a higher fee. Moves that leave the same entries live leave the same
queues, those that are built from these entries, and the extremes are the least and the greatest
fee of a live entry. -/
theorem queues_follow_live {moves : List Move} {live : List Entry} (h : Turnover [] moves live) :
    (empty.run moves).Shows live := by
  have hnone : (([] : List Entry).map Entry.seq).Nodup := List.nodup_nil
  have hrun : empty.run moves = ofList live := h.run_ofList hnone
  rw [hrun]
  exact ofList_shows (h.distinct hnone)

/-- The first of two equal fees leaves although it stands in neither queue any more, the third entry
goes from the middle while it leads, and the last entry outdoes an equal fee again. -/
theorem queues_follow_live_equalFees :
    let moves : List Move := [.push ⟨0, 5⟩, .push ⟨1, 5⟩, .evict 0, .push ⟨2, 9⟩, .push ⟨3, 7⟩,
      .rebuild [⟨1, 5⟩, ⟨3, 7⟩], .push ⟨4, 7⟩]
    let live : List Entry := [⟨1, 5⟩, ⟨3, 7⟩, ⟨4, 7⟩]
    Turnover [] moves live ∧ (empty.run moves).Shows live ∧
      empty.run moves = ⟨[⟨1, 5⟩, ⟨4, 7⟩], [⟨4, 7⟩]⟩ := by
  intro moves live
  have hkept : [⟨1, 5⟩, ⟨3, 7⟩].Sublist ([⟨1, 5⟩, ⟨2, 9⟩, ⟨3, 7⟩] : List Entry) := by decide
  have hmoves : Turnover [] moves live :=
    .cons (.push (by decide)) <| .cons (.push (by decide)) <| .cons .evict <|
      .cons (.push (by decide)) <| .cons (.push (by decide)) <| .cons (.rebuild hkept) <|
        .cons (.push (by decide)) .nil
  exact ⟨hmoves, queues_follow_live hmoves, by decide⟩

end Extremes
end FeeWatch.Window
