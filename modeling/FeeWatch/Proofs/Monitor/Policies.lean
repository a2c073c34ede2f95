import FeeWatch.Monitor.Drill
import FeeWatch.Proofs.Monitor.Emission
import FeeWatch.Proofs.Monitor.Publication
import Mathlib.Data.List.SplitBy

/-! What a policy changes.

Nothing that a cycle comes to depends on the policy but what it publishes, and with
that what the keeper and the desk are handed (`bare`). So under both policies a run
makes the same snapshots; `always` publishes all of them, and `onChange` the first of
each block in which they say the same. `onChange_thins` puts the two runs side by
side. -/
namespace FeeWatch

/-- The first element of each longest block of neighbours that are related. -/
def blockHeads {β : Type} (r : β → β → Bool) (l : List β) : List β :=
  (l.splitBy r).filterMap List.head?

section Blocks
variable {β : Type} {r : β → β → Bool} {a b : β} {l : List β}

/-- The first element of a list heads its first block. -/
theorem splitBy_cons (r : β → β → Bool) (a : β) (l : List β) :
    ∃ block rest, (a :: l).splitBy r = (a :: block) :: rest := by
  have hjoin := List.flatten_splitBy r (a :: l)
  cases hsplit : (a :: l).splitBy r with
  | nil => exact absurd (List.splitBy_eq_nil.mp hsplit) (List.cons_ne_nil a l)
  | cons block rest =>
    rw [hsplit, List.flatten_cons] at hjoin
    cases block with
    | nil => exact absurd (hsplit ▸ List.mem_cons_self) (List.nil_notMem_splitBy r (a :: l))
    | cons c block =>
      obtain rfl : c = a := (List.cons.inj hjoin).1
      exact ⟨block, rest, rfl⟩

/-- An element that is related to the next one enters its block. -/
theorem splitBy_cons_of_true {block : List β} {rest : List (List β)} (h : r a b = true)
    (hl : (b :: l).splitBy r = (b :: block) :: rest) :
    (a :: b :: l).splitBy r = (a :: b :: block) :: rest := by
  obtain ⟨hjoin, hnonempty, hchain, hseams⟩ := List.splitBy_eq_iff.mp hl
  refine List.splitBy_eq_iff.mpr ⟨?_, ?_, ?_, ?_⟩
  · rw [hjoin]
    rfl
  · simpa using hnonempty
  · intro m hm
    rcases List.mem_cons.mp hm with rfl | hm
    · exact List.isChain_cons_cons.mpr ⟨h, hchain _ List.mem_cons_self⟩
    · exact hchain m (List.mem_cons_of_mem _ hm)
  · cases rest with
    | nil => exact List.isChain_singleton _
    | cons next rest =>
      obtain ⟨⟨_, hb, hseam⟩, hrest⟩ := List.isChain_cons_cons.mp hseams
      exact List.isChain_cons_cons.mpr ⟨⟨List.cons_ne_nil _ _, hb, by simpa using hseam⟩, hrest⟩

theorem blockHeads_cons (r : β → β → Bool) (a : β) (l : List β) :
    blockHeads r (a :: l) = a :: (blockHeads r (a :: l)).tail := by
  obtain ⟨block, rest, hsplit⟩ := splitBy_cons r a l
  rw [blockHeads, hsplit]
  rfl

/-- An element that is related to the next one takes its place at the head of its block. -/
theorem blockHeads_cons_of_true (h : r a b = true) (l : List β) :
    blockHeads r (a :: b :: l) = a :: (blockHeads r (b :: l)).tail := by
  obtain ⟨block, rest, hsplit⟩ := splitBy_cons r b l
  rw [blockHeads, blockHeads, splitBy_cons_of_true h hsplit, hsplit]
  rfl

/-- An element that is not related to the next one is a block of its own. -/
theorem blockHeads_cons_of_false (h : r a b = false) (l : List β) :
    blockHeads r (a :: b :: l) = a :: blockHeads r (b :: l) := by
  have hsplit : (a :: b :: l).splitBy r = [[a]] ++ (b :: l).splitBy r :=
    List.splitBy_append_cons (l := [a]) l fun x hx => Option.some.inj hx ▸ h
  rw [blockHeads, hsplit]
  rfl

example : blockHeads (· == ·) [1, 1, 2, 2, 2, 1] = [1, 2, 1] := by decide

end Blocks

open FeeWatch.Calendar (Instant)
open FeeWatch.Fee (Point Snapshot Status)

/-- Whether two snapshots have the same four fees and the same state of the market. -/
def Fee.Snapshot.saysSame (p s : Snapshot) : Bool := s.sameFees p && p.market == s.market

theorem Fee.Snapshot.saysSame_iff {p s : Snapshot} : p.saysSame s = true ↔
    p.base = s.base ∧ p.min = s.min ∧ p.max = s.max ∧ p.avg = s.avg ∧ p.market = s.market := by
  rw [saysSame, Bool.and_eq_true, sameFees_iff, beq_iff_eq]
  constructor
  · rintro ⟨⟨hbase, hmin, hmax, havg⟩, hmarket⟩
    exact ⟨hbase.symm, hmin.symm, hmax.symm, havg.symm, hmarket⟩
  · rintro ⟨hbase, hmin, hmax, havg, hmarket⟩
    exact ⟨⟨hbase.symm, hmin.symm, hmax.symm, havg.symm⟩, hmarket⟩

/-- Snapshots that say the same say the same beside any third. -/
theorem Fee.Snapshot.saysSame_congr {p q : Snapshot} (h : p.saysSame q = true) (s : Snapshot) :
    p.saysSame s = q.saysSame s := by
  obtain ⟨hbase, hmin, hmax, havg, hmarket⟩ := saysSame_iff.mp h
  rw [saysSame, saysSame, sameFees, sameFees, hbase, hmin, hmax, havg, hmarket]

theorem Fee.Snapshot.saysSame_refl (s : Snapshot) : s.saysSame s = true :=
  saysSame_iff.mpr ⟨rfl, rfl, rfl, rfl, rfl⟩

namespace Monitor

variable {α : Type}

/-! ### Sifting -/

theorem emits_onChange (p s : Snapshot) : emits .onChange (some p) s = !p.saysSame s := by
  rw [Snapshot.saysSame, Bool.not_and]
  rfl

theorem sift_always (previous : Option Snapshot) (l : List Snapshot) :
    sift .always previous l = l := by
  induction l generalizing previous with
  | nil => rfl
  | cons s rest ih => exact congrArg (s :: ·) (ih (some s))

/-- After one snapshot `onChange` lets the heads of the later blocks through, and it does not
matter which of those it was that say the same. -/
theorem sift_onChange_some {p q : Snapshot} (h : p.saysSame q = true) (l : List Snapshot) :
    sift .onChange (some p) l = (blockHeads Snapshot.saysSame (q :: l)).tail := by
  -- `p` is the head of the block that goes on, `q` the element of it that was made last.
  induction l generalizing p q with
  | nil => rfl
  | cons s rest ih =>
    rw [sift, emits_onChange, Snapshot.saysSame_congr h s]
    cases hsame : q.saysSame s with
    | true =>
      rw [blockHeads_cons_of_true hsame]
      exact ih ((Snapshot.saysSame_congr h s).trans hsame)
    | false =>
      rw [blockHeads_cons_of_false hsame, blockHeads_cons]
      exact congrArg (s :: ·) (ih s.saysSame_refl)

theorem sift_onChange_none (l : List Snapshot) :
    sift .onChange none l = blockHeads Snapshot.saysSame l := by
  cases l with
  | nil => rfl
  | cons s rest =>
    rw [blockHeads_cons, ← sift_onChange_some s.saysSame_refl]
    rfl

/-- `onChange` lets no two snapshots through in a row that say the same. -/
theorem sift_onChange_isChain (previous : Option Snapshot) (l : List Snapshot) :
    (previous.toList ++ sift .onChange previous l).IsChain fun p s => p.saysSame s = false := by
  induction l generalizing previous with
  | nil => cases previous <;> simp [sift]
  | cons s rest ih =>
    cases previous with
    | none => exact ih (some s)
    | some p =>
      rw [sift, emits_onChange]
      cases hsame : p.saysSame s with
      | true => exact ih (some p)
      | false => exact List.isChain_cons_cons.mpr ⟨hsame, ih (some s)⟩

/-! ### Two runs side by side -/

/-- A monitor without what depends on its policy. -/
def bare (m : Monitor α) : Monitor α :=
  { m with
    settings := { m.settings with policy := .always }
    published := ⟨none, { m.status with persistenceFailures := 0 }⟩
    archive := none
    desk := none }

theorem bare_made (m : Monitor α) (t : Turn) : m.bare.made t = m.made t := rfl

theorem after_bare (K : Keeper α) (m : Monitor α) (t : Turn) :
    (m.after K t).bare = (m.bare.after K t).bare := by
  rw [after, after]
  cases m.way K t with
  | failed f fetched =>
    rw [fetched, (cycle_failed K m f t.now).1, (cycle_failed K m.bare f t.now).1]
    rfl
  | stuck points f fetched digested =>
    have hbare : (m.bare.digest points).outcome = .error f := digested
    rw [fetched, (cycle_stuck K digested t.now).1, (cycle_stuck K hbare t.now).1]
    rfl
  | shown points left fetched digested =>
    have hbare : (m.bare.digest points).outcome = .ok left := digested
    rw [fetched, (cycle_digested K digested t.now).1, (cycle_digested K hbare t.now).1]
    rfl

/-- Two monitors that agree but for their policies do so after the same cycles, and make the same
snapshots in them. -/
theorem run_bare (K : Keeper α) {m n : Monitor α} (h : m.bare = n.bare) (turns : List Turn) :
    (m.run K turns).bare = (n.run K turns).bare ∧ makings K m turns = makings K n turns := by
  induction turns generalizing m n with
  | nil => exact ⟨h, rfl⟩
  | cons t rest ih =>
    have hafter : (m.after K t).bare = (n.after K t).bare := by
      rw [after_bare K m, after_bare K n, h]
    have hmade : m.made t = n.made t := by rw [← bare_made m, ← bare_made n, h]
    obtain ⟨hrun, hrest⟩ := ih hafter
    exact ⟨hrun, by rw [makings, makings, hmade, hrest]⟩

/-- What two monitors have in common that agree but for their policies. -/
theorem eq_of_bare {m n : Monitor α} (h : m.bare = n.bare) :
    m.window = n.window ∧ m.detector = n.detector ∧
      ∀ troubles, { m.status with persistenceFailures := troubles } =
        { n.status with persistenceFailures := troubles } := by
  obtain ⟨_, hwindow, hdetector, hpublished, _, _⟩ := Monitor.mk.inj h
  have hstatus := (Published.mk.inj hpublished).2
  exact ⟨hwindow, hdetector, fun troubles =>
    congrArg (fun s : Status => { s with persistenceFailures := troubles }) hstatus⟩

/-- Settings with another policy make the same monitor otherwise. -/
theorem make_bare {source : String} {settings : Settings} {archive : Option α}
    {desk : Option Alert.Desk} {a c : Monitor α}
    (ha : make source { settings with policy := .always } archive desk = .ok a)
    (hc : make source { settings with policy := .onChange } archive desk = .ok c) :
    a.bare = c.bare := by
  obtain ⟨_, bounds, detector, hbounds, hdetector, rfl⟩ := make_eq_ok ha
  obtain ⟨_, bounds', detector', hbounds', hdetector', rfl⟩ := make_eq_ok hc
  cases hbounds.symm.trans hbounds'
  cases hdetector.symm.trans hdetector'
  rfl

/-- Before the first complete cycle nothing is current. -/
theorem run_current_of_cyclesCompleted (K : Keeper α) {m : Monitor α}
    (hm : m.status.cyclesCompleted = 0 → m.current = none) (turns : List Turn) :
    (m.run K turns).status.cyclesCompleted = 0 → (m.run K turns).current = none := by
  induction turns generalizing m with
  | nil => exact hm
  | cons t rest ih =>
    refine ih ?_
    have hcourse := cycle_course K m t.outcome t.now
    rw [after]
    cases hcourse with
    | published points left window detector log archive desk troubles _ _ _ monitor =>
      rw [monitor]
      exact fun h => absurd h (Nat.succ_ne_zero _)
    | unwritten points left window detector log _ _ _ _ monitor =>
      obtain ⟨phase, monitor⟩ := monitor
      rw [monitor]
      exact hm
    | failed f desk _ monitor
    | unheld points window f _ _ monitor
    | undetected points left window f _ _ _ monitor =>
      rw [monitor]
      exact hm

/-- A complete cycle publishes if its policy lets any snapshot through that it could make. -/
theorem published_of_complete (K : Keeper α) {m : Monitor α} {t : Turn} {r : Result}
    (h : (m.cycle K t.outcome t.now).result = .ok r) (hr : r.isComplete = true)
    (hemits : ∀ s, emits m.settings.policy m.current s = true) : r.published?.isSome = true := by
  obtain ⟨s, hs⟩ := made_of_complete K h hr
  rw [← emission_of_returned K h, emission, hs, Option.filter_some, if_pos (hemits s)]
  rfl

section Lists
variable {β : Type} {K : Keeper α} {kind : α → Prop} {fits : List Point → Bool}
  {listed : α → List β} {entry : Snapshot → List β}

/-- A keeper that takes every snapshot has the same troubles in both runs. -/
theorem run_troubles (hK : K.Lists kind fits listed entry) {m n : Monitor α}
    (h : m.bare = n.bare) (harchive : m.archive.isSome = n.archive.isSome)
    (htroubles : m.status.persistenceFailures = n.status.persistenceFailures)
    (hm : ∀ a ∈ m.archive, kind a) (hn : ∀ a ∈ n.archive, kind a) (turns : List Turn) :
    (m.run K turns).status.persistenceFailures = (n.run K turns).status.persistenceFailures := by
  induction turns generalizing m n with
  | nil => exact htroubles
  | cons t rest ih =>
    obtain ⟨hkind, hsome, hcount, _⟩ := listed_after hK hm t
    obtain ⟨hkind', hsome', hcount', _⟩ := listed_after hK hn t
    have hmade : m.made t = n.made t := by rw [← bare_made m, ← bare_made n, h]
    have hrefused : isRefused fits m t = isRefused fits n t := by
      rw [isRefused, isRefused, hmade, harchive]
    refine ih ?_ ?_ ?_ hkind hkind'
    · rw [after_bare K m, after_bare K n, h]
    · rw [hsome, hsome', harchive]
    · rw [hcount, hcount', htroubles, hrefused]

theorem listed_run_of_make (hK : K.Lists kind fits listed entry) {source : String}
    {settings : Settings} {archive : Option α} {desk : Option Alert.Desk} {m : Monitor α}
    (hmake : make source settings archive desk = .ok m) (harchive : ∀ x ∈ archive, kind x)
    (turns : List Turn) (h : (m.run K turns).status.persistenceFailures = 0) :
    (m.run K turns).archive.map listed =
      archive.map fun x => listed x ++ (emissions K m turns).flatMap entry := by
  obtain ⟨_, bounds, detector, _, _, rfl⟩ := make_eq_ok hmake
  rw [(listed_run hK harchive turns).2 h, Option.map_map]
  rfl

end Lists

/-- What two runs publish that start alike: `always` all that they make, `onChange` the heads of
its blocks. -/
theorem emissions_of_make (K : Keeper α) {source : String} {settings : Settings}
    {archive : Option α} {desk : Option Alert.Desk} {a c : Monitor α}
    (ha : make source { settings with policy := .always } archive desk = .ok a)
    (hc : make source { settings with policy := .onChange } archive desk = .ok c)
    (turns : List Turn) :
    emissions K a turns = makings K a turns ∧
      emissions K c turns = sift .onChange none (makings K a turns) := by
  rw [emissions_eq_sift, emissions_eq_sift, ← (run_bare K (make_bare ha hc) turns).2]
  obtain ⟨_, _, _, _, _, rfl⟩ := make_eq_ok ha
  obtain ⟨_, _, _, _, _, rfl⟩ := make_eq_ok hc
  exact ⟨sift_always _ _, rfl⟩

/-- The first complete cycle publishes. -/
theorem published_of_first (K : Keeper α) {source : String} {settings : Settings}
    {archive : Option α} {desk : Option Alert.Desk} {m : Monitor α}
    (hmake : make source settings archive desk = .ok m) (turns : List Turn) {t : Turn} {r : Result}
    (h : ((m.run K turns).cycle K t.outcome t.now).result = .ok r) (hr : r.isComplete = true)
    (hfirst : (m.run K turns).status.cyclesCompleted = 0) : r.published?.isSome = true := by
  have hcurrent : (m.run K turns).current = none := by
    refine run_current_of_cyclesCompleted K ?_ turns hfirst
    obtain ⟨_, _, _, _, _, rfl⟩ := make_eq_ok hmake
    exact fun _ => rfl
  refine published_of_complete K h hr fun s => ?_
  rw [hcurrent]
  cases (m.run K turns).settings.policy <;> rfl

/-- **`onChange` publishes the first of each block of snapshots that say the same**, out of those
that `always` publishes: that of the first complete cycle, and no two in a row that say the same.
All else comes to the same under both policies, but for the number of troubles of the keeper; and
this too if the keeper takes every snapshot, and whether it takes points depends on them alone
(`Keeper.Lists`). Such a keeper lists what was published as long as it has no trouble. -/
theorem onChange_thins (K : Keeper α) {source : String} {settings : Settings}
    {archive : Option α} {desk : Option Alert.Desk} {a c : Monitor α}
    (ha : make source { settings with policy := .always } archive desk = .ok a)
    (hc : make source { settings with policy := .onChange } archive desk = .ok c)
    (turns : List Turn) :
    let a' := a.run K turns
    let c' := c.run K turns
    let heads := blockHeads Snapshot.saysSame (emissions K a turns)
    a'.window = c'.window ∧ a'.detector = c'.detector ∧
      { a'.status with persistenceFailures := c'.status.persistenceFailures } = c'.status ∧
      emissions K c turns = heads ∧ heads.IsChain (fun p s => p.saysSame s = false) ∧
      (∀ (t : Turn) (r : Result), (a'.cycle K t.outcome t.now).result = .ok r →
        r.isComplete = true → r.published?.isSome = true) ∧
      (∀ (t : Turn) (r : Result), (c'.cycle K t.outcome t.now).result = .ok r →
        r.isComplete = true → c'.status.cyclesCompleted = 0 → r.published?.isSome = true) ∧
      ∀ {β : Type} {kind : α → Prop} {fits : List Point → Bool} {listed : α → List β}
        {entry : Snapshot → List β}, K.Lists kind fits listed entry → (∀ x ∈ archive, kind x) →
        a'.status = c'.status ∧ (a'.status.persistenceFailures = 0 →
          a'.archive.map listed =
            archive.map (fun x => listed x ++ (emissions K a turns).flatMap entry) ∧
          c'.archive.map listed = archive.map (fun x => listed x ++ heads.flatMap entry)) := by
  intro a' c' heads
  have hstart := make_bare ha hc
  obtain ⟨hwindow, hdetector, hstatus⟩ := eq_of_bare (run_bare K hstart turns).1
  obtain ⟨hall, hsifted⟩ := emissions_of_make K ha hc turns
  have hheads : emissions K c turns = heads := by rw [hsifted, sift_onChange_none, ← hall]
  refine ⟨hwindow, hdetector, hstatus _, hheads, ?_, ?_, ?_, ?_⟩
  · rw [← hheads, hsifted]
    exact sift_onChange_isChain none _
  · intro t r h hr
    refine published_of_complete K h hr fun s => ?_
    rw [(run_steady K (make_steady ha) turns).settings]
    rfl
  · exact fun t r h hr hfirst => published_of_first K hc turns h hr hfirst
  · intro β kind fits listed entry hK harchive
    have htroubles : a'.status.persistenceFailures = c'.status.persistenceFailures := by
      obtain ⟨_, _, _, _, _, rfl⟩ := make_eq_ok ha
      obtain ⟨_, _, _, _, _, rfl⟩ := make_eq_ok hc
      exact run_troubles hK hstart rfl rfl harchive harchive turns
    refine ⟨?_, fun h => ⟨listed_run_of_make hK ha harchive turns h, ?_⟩⟩
    · calc a'.status
          = { c'.status with persistenceFailures := a'.status.persistenceFailures } := hstatus _
        _ = c'.status := by rw [htroubles]
    · rw [← hheads]
      exact listed_run_of_make hK hc harchive turns (htroubles.symm.trans h)

/-- Four cycles a tick apart: the second says what the first did and the third fails, so
`onChange` publishes the snapshots of the first and the last. A store of either kind keeps these. -/
theorem onChange_thins_four :
    let at_ (n : Fin 4) : Instant := ⟨n.val, Nat.lt_of_lt_of_le n.isLt (by decide)⟩
    let settings : Settings := { maxAge := .null }
    let turns : List Turn := [.ofFees [100] (at_ 0), .ofFees [] (at_ 1),
      ⟨.error (.failure .rateLimit), at_ 2⟩, .ofFees [300] (at_ 3)]
    let first : Snapshot := ⟨"100", "100", "100", "100", at_ 0, 1, .normal⟩
    let last : Snapshot := ⟨"100", "100", "300", "200", at_ 3, 2, .normal⟩
    ∀ s ∈ [History.Store.database .memory true .empty, .lines "records" ⟨.text "", .text ""⟩],
      ∃ a c : Monitor History.Store,
        make "feed" { settings with policy := .always } (some s) none = .ok a ∧
        make "feed" { settings with policy := .onChange } (some s) none = .ok c ∧
        emissions .store a turns = [first, { first with time := at_ 1 }, last] ∧
        emissions .store c turns = [first, last] ∧
        (s.IsDatabase → (c.run .store turns).archive.map History.Store.rows =
          some (s.rows ++ [first, last].map .ofSnapshot)) ∧
        (s.IsLines → (c.run .store turns).archive.map History.Store.text =
          some (s.text ++ [first, last].flatMap fun s => (History.Lines.line s.record).toList)) := by
  intro at_ settings turns first last s hs
  have hrun : (match make "feed" { settings with policy := .always } (some s) none,
        make "feed" { settings with policy := .onChange } (some s) none with
      | .ok a, .ok _ =>
        decide (emissions .store a turns = [first, { first with time := at_ 1 }, last] ∧
          (a.run .store turns).status.persistenceFailures = 0)
      | .ok _, .error _ | .error _, _ => false) = true := by
    simp only [List.mem_cons, List.not_mem_nil, or_false] at hs
    rcases hs with rfl | rfl <;> decide +kernel
  have hheads : blockHeads Snapshot.saysSame [first, { first with time := at_ 1 }, last] =
      [first, last] := by
    decide +kernel
  cases ha : make "feed" { settings with policy := .always } (some s) none with
  | error f => rw [ha] at hrun; cases hrun
  | ok a =>
    cases hc : make "feed" { settings with policy := .onChange } (some s) none with
    | error f => rw [ha, hc] at hrun; cases hrun
    | ok c =>
      rw [ha, hc] at hrun
      obtain ⟨hemissions, htroubles⟩ := of_decide_eq_true hrun
      obtain ⟨_, _, _, hthinned, _, _, _, hlists⟩ := onChange_thins .store ha hc turns
      rw [hemissions, hheads] at hthinned hlists
      refine ⟨a, c, rfl, rfl, hemissions, hthinned, fun hrows => ?_, fun hlines => ?_⟩
      · obtain ⟨_, hlisted⟩ := hlists store_listsRows fun x hx => Option.some.inj hx ▸ hrows
        exact (hlisted htroubles).2
      · obtain ⟨_, hlisted⟩ := hlists store_listsLines fun x hx => Option.some.inj hx ▸ hlines
        exact (hlisted htroubles).2

/-- The troubles of a keeper that takes no snapshots: it is handed two under `always`, and one under
`onChange`. -/
theorem onChange_troubles :
    let archive : Drill := { store := .database .memory true .empty, snapshot := some default }
    let turns : List Turn := [.ofFees [100] .earliest, .ofFees [] .earliest]
    ∃ a c : Monitor Drill,
      make "feed" { maxAge := .null, policy := .always } (some archive) none = .ok a ∧
      make "feed" { maxAge := .null, policy := .onChange } (some archive) none = .ok c ∧
      (a.run .drill turns).status.cyclesCompleted = 2 ∧
      (c.run .drill turns).status.cyclesCompleted = 2 ∧
      (a.run .drill turns).status.persistenceFailures = 2 ∧
      (c.run .drill turns).status.persistenceFailures = 1 := by
  intro archive turns
  have hrun : (match make "feed" { maxAge := .null, policy := .always } (some archive) none,
        make "feed" { maxAge := .null, policy := .onChange } (some archive) none with
      | .ok a, .ok c =>
        decide ((a.run .drill turns).status.cyclesCompleted = 2 ∧
          (c.run .drill turns).status.cyclesCompleted = 2 ∧
          (a.run .drill turns).status.persistenceFailures = 2 ∧
          (c.run .drill turns).status.persistenceFailures = 1)
      | .ok _, .error _ | .error _, _ => false) = true := by
    decide +kernel
  cases ha : make "feed" { maxAge := .null, policy := .always } (some archive) none with
  | error f => rw [ha] at hrun; cases hrun
  | ok a =>
    cases hc : make "feed" { maxAge := .null, policy := .onChange } (some archive) none with
    | error f => rw [ha, hc] at hrun; cases hrun
    | ok c =>
      rw [ha, hc] at hrun
      exact ⟨a, c, rfl, rfl, of_decide_eq_true hrun⟩

end Monitor
end FeeWatch
