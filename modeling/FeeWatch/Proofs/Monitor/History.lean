import FeeWatch.Proofs.History.Recall
import FeeWatch.Proofs.Monitor.Bookkeeping
import FeeWatch.Proofs.Monitor.Keeping

/-! What the history of a monitor holds.

A cycle that makes a snapshot hands its points to the store, and then the snapshot if it
is published (`handed`). As long as the store takes all that it is handed, a run leaves
it as these calls do (`run_handed`), and no trouble is counted. Of cycles that all return
those that hand points over are the complete ones, and they report what they publish. So
a store that was empty holds the batches of the complete cycles and the snapshots that
were published, and the last of these is the current one: `history_agrees`. A database
does not take a limit beyond 64 bits (`history_limited`). -/
namespace FeeWatch

open FeeWatch.Fee (Point Snapshot)

/-! ### Stores that take all calls -/

namespace History

theorem Store.after_append (s : Store) (a b : List Call) :
    s.after (a ++ b) = (s.after a).after b := by
  induction a generalizing s with
  | nil => rfl
  | cons c rest ih => exact ih (s.perform c).2

theorem Store.answers_append (s : Store) (a b : List Call) :
    s.answers (a ++ b) = s.answers a ++ (s.after a).answers b := by
  induction a generalizing s with
  | nil => rfl
  | cons c rest ih => exact congrArg ((s.perform c).1 :: ·) (ih (s.perform c).2)

/-- Whether an open database or a store of lines holds just these points and snapshots, oldest
first. -/
def Store.Holds (ps : List Point) (ss : List Snapshot) : Store → Prop
  | .database _ isOpen t => isOpen = true ∧ t.points = ps.map PointRow.ofPoint ∧
      t.snapshots = ss.map SnapshotRow.ofSnapshot
  | .lines _ l => l = .holding ps ss

/-- A store that takes some calls, and then holds and recalls what they appended and nothing
else. Of points a store of lines recalls as many as it is asked for. -/
structure Store.TakesAll (s : Store) (calls : List Call) : Prop where
  taken : ∀ answer ∈ s.answers calls, answer = .ok ()
  holds : (s.after calls).Holds (calls.flatMap Call.newPoints) (calls.flatMap Call.newSnapshots)
  recalls : (s.after calls).Recalls (calls.flatMap Call.newPoints)
    (calls.flatMap Call.newSnapshots)
  recent : ∀ limit : Nat, s.IsLines ∨ limit < 2 ^ 63 →
    ((s.after calls).recent (.int limit)).1 = .ok ((calls.flatMap Call.newPoints).drop
      ((calls.flatMap Call.newPoints).length - limit))

section Fitting
variable {calls : List Call}
  (hfit : ∀ c ∈ calls, ∀ p ∈ c.newPoints, p.fee < 2 ^ 63 ∧ p.ledger < 2 ^ 63)
include hfit

theorem Store.takesAll_database (place : Place) (hreopen : Call.reopen ∉ calls) :
    (Store.database place true .empty).TakesAll calls := by
  have hfits : ∀ c ∈ calls, c.fits = true := fun c hc => Call.fits_of_lt (hfit c hc)
  have hempty : Table.empty.Keeps [] 0 [] := ⟨rfl, rfl, Nat.le_refl 0, rfl⟩
  have hplace : place = .memory → Call.reopen ∉ calls := fun _ => hreopen
  obtain ⟨t, n, hafter, hkeeps⟩ := Store.after_database hempty hplace
  rw [List.take_nil, ite_self, List.nil_append, List.nil_append, lasting_of_fits hfits] at hkeeps
  have hrecalls := hkeeps.recalls place
  refine ⟨fun answer hanswer => ?_, ?_, hafter ▸ hrecalls, fun limit hlimit => ?_⟩
  · rw [Store.answers_database] at hanswer
    obtain ⟨c, hc, rfl⟩ := List.mem_map.mp hanswer
    rw [if_pos (hfits c hc)]
  · rw [hafter]
    exact ⟨rfl, hkeeps.points, hkeeps.snapshots⟩
  · rw [hafter]
    exact hrecalls.recent limit (hlimit.resolve_left False.elim)

theorem Store.takesAll_lines (folder : String) :
    (Store.lines folder (.holding [] [])).TakesAll calls := by
  have hdigits := Call.lt_digitLimit hfit
  obtain ⟨htaken, hafter⟩ := Store.takes_lines folder hdigits
  refine ⟨htaken, ?_, ?_, fun limit _ => ?_⟩
  · rw [hafter]
    rfl
  · rw [hafter]
    exact Store.recalls_lines folder _ hdigits
  · rw [hafter]
    exact Store.recent_lines folder _ hdigits limit

end Fitting
end History

namespace Monitor

open FeeWatch.History (Call Place Store)

variable {α : Type}

/-! ### What is handed to a store -/

/-- The calls with which a cycle hands a store what it came to. -/
def handed (m : Monitor α) (t : Turn) : List Call :=
  match m.made t with
  | none => []
  | some _ => .points t.points :: (m.emission t).toList.map .snapshot

/-- The calls that cycles make, one after another. -/
def allHanded (K : Keeper α) (m : Monitor α) : List Turn → List Call
  | [] => []
  | t :: rest => m.handed t ++ allHanded K (m.after K t) rest

/-- A store keeps points and snapshots by calls. -/
theorem store_perform (s : Store) (points : List Point) (snapshot : Snapshot) :
    (Keeper.store.keepPoints points s).1 = (s.perform (.points points)).1.mapError .ofFault ∧
      (Keeper.store.keepPoints points s).2.1 = (s.perform (.points points)).2 ∧
      (Keeper.store.keepSnapshot snapshot s).1 =
        (s.perform (.snapshot snapshot)).1.mapError .ofFault ∧
      (Keeper.store.keepSnapshot snapshot s).2.1 = (s.perform (.snapshot snapshot)).2 :=
  ⟨rfl, rfl, rfl, rfl⟩

/-- A store that takes what it is handed is left as the calls leave it. -/
theorem keep_store {s : Store} {points : List Point} {kept : Option Snapshot}
    (h : ∀ answer ∈ s.answers (.points points :: kept.toList.map .snapshot), answer = .ok ()) :
    (keep .store points kept s).1 = .ok () ∧
      (keep .store points kept s).2.1 = s.after (.points points :: kept.toList.map .snapshot) := by
  have hpoints : (s.perform (.points points)).1 = .ok () := h _ List.mem_cons_self
  obtain ⟨hresult, hstore, -⟩ := store_perform s points default
  unfold keep
  rcases hkeep : Keeper.store.keepPoints points s with ⟨result, s', log⟩
  rw [hkeep] at hresult hstore
  obtain rfl : result = .ok () := hresult.trans (by rw [hpoints]; rfl)
  obtain rfl : s' = (s.perform (.points points)).2 := hstore
  cases kept with
  | none => exact ⟨rfl, rfl⟩
  | some snapshot =>
    have hsnapshot : ((s.perform (.points points)).2.perform (.snapshot snapshot)).1 = .ok () :=
      h _ (List.mem_cons_of_mem _ List.mem_cons_self)
    obtain ⟨-, -, hresult, hstore⟩ := store_perform (s.perform (.points points)).2 points snapshot
    exact ⟨by rw [hresult, hsnapshot]; rfl, hstore⟩

section Store
variable {m : Monitor Store} {s : Store}

/-- A cycle whose calls the store takes makes these calls and counts no trouble. -/
theorem after_handed (hm : m.archive = some s) {t : Turn}
    (h : ∀ answer ∈ s.answers (m.handed t), answer = .ok ()) :
    (m.after .store t).archive = some (s.after (m.handed t)) ∧
      (m.after .store t).status.persistenceFailures = m.status.persistenceFailures := by
  cases m.way .store t with
  | failed f fetched made after
  | stuck points f fetched digested made after =>
    rw [after, handed, made]
    exact ⟨hm, rfl⟩
  | shown points left fetched digested made emission after =>
    have hpoints : t.points = points := by rw [Turn.points, fetched]; rfl
    rw [handed, made, hpoints, emission] at h ⊢
    obtain ⟨hok, hstore⟩ := keep_store h
    rw [after]
    refine ⟨?_, ?_⟩
    · show stored .store m.archive points (m.news points t.now) = _
      rw [hm, ← hstore]
      rfl
    · show m.status.persistenceFailures +
        (isTroubled .store m.archive points (m.news points t.now)).toNat = _
      rw [hm, isTroubled, Option.any_some, hok]
      rfl

/-- **A run whose calls the store takes leaves it as they do**, and counts no trouble. -/
theorem run_handed (hm : m.archive = some s) {turns : List Turn}
    (h : ∀ answer ∈ s.answers (allHanded .store m turns), answer = .ok ()) :
    (m.run .store turns).archive = some (s.after (allHanded .store m turns)) ∧
      (m.run .store turns).status.persistenceFailures = m.status.persistenceFailures := by
  induction turns generalizing m s with
  | nil => exact ⟨hm, rfl⟩
  | cons t rest ih =>
    rw [allHanded, Store.answers_append] at h
    obtain ⟨harchive, htroubles⟩ :=
      after_handed hm fun answer hanswer => h answer (List.mem_append_left _ hanswer)
    obtain ⟨hrun, hcount⟩ := ih harchive fun answer hanswer =>
      h answer (List.mem_append_right _ hanswer)
    rw [allHanded, Store.after_append]
    exact ⟨hrun, hcount.trans htroubles⟩

end Store

/-! ### Cycles that return -/

/-- Whether all cycles of a run return. -/
def allReturn (K : Keeper α) (m : Monitor α) : List Turn → Bool
  | [] => true
  | t :: rest => (m.cycle K t.outcome t.now).result.isOk && allReturn K (m.after K t) rest

/-- The points of the complete cycles, one batch after another. -/
def batches (K : Keeper α) (m : Monitor α) : List Turn → List Point
  | [] => []
  | t :: rest => (if isComplete K m t then t.points else []) ++ batches K (m.after K t) rest

/-- The snapshots that results report as published, one after another. -/
def publications (K : Keeper α) (m : Monitor α) (turns : List Turn) : List Snapshot :=
  (reports K m turns).filterMap (·.result.published?)

theorem allReturn_cons {K : Keeper α} {m : Monitor α} {t : Turn} {rest : List Turn}
    (h : allReturn K m (t :: rest) = true) :
    (∃ r, (m.cycle K t.outcome t.now).result = .ok r) ∧ allReturn K (m.after K t) rest = true := by
  obtain ⟨hfirst, hrest⟩ := Bool.and_eq_true_iff.mp h
  refine ⟨?_, hrest⟩
  cases hresult : (m.cycle K t.outcome t.now).result with
  | error f => rw [hresult] at hfirst; cases hfirst
  | ok r => exact ⟨r, rfl⟩

/-- Of cycles that return the complete ones make a snapshot. -/
theorem made_isSome (K : Keeper α) {m : Monitor α} {t : Turn}
    (h : ∃ r, (m.cycle K t.outcome t.now).result = .ok r) :
    (m.made t).isSome = isComplete K m t := by
  obtain ⟨r, hr⟩ := h
  rw [isComplete, hr]
  rcases cycle_returned K hr with ⟨f, houtcome, rfl⟩ | ⟨points, left, houtcome, hdigest, rfl⟩
  · rw [made_failed houtcome]
    rfl
  · rw [made_digested houtcome hdigest]
    rfl

/-- Something is current after a cycle if it was before or the cycle is complete. -/
theorem current_isSome_after (K : Keeper α) {m : Monitor α} {t : Turn}
    (h : ∃ r, (m.cycle K t.outcome t.now).result = .ok r) :
    (m.after K t).current.isSome = (m.current.isSome || isComplete K m t) := by
  rw [current_after, ← made_isSome K h, emission]
  cases m.current with
  | none => cases m.made t <;> cases m.settings.policy <;> rfl
  | some p => cases (m.made t).filter _ <;> rfl

/-- **What cycles that return hand over**: the batches of the complete ones, and what they report
as published. The last of this is current. -/
theorem allHanded_of_allReturn {K : Keeper α} {m : Monitor α} {turns : List Turn}
    (h : allReturn K m turns = true) :
    (allHanded K m turns).flatMap Call.newPoints = batches K m turns ∧
      (allHanded K m turns).flatMap Call.newSnapshots = publications K m turns ∧
      (m.run K turns).current = (publications K m turns).getLast?.or m.current ∧
      (m.run K turns).current.isSome =
        (m.current.isSome || (reports K m turns).any (·.result.isComplete)) := by
  induction turns generalizing m with
  | nil => simp [allHanded, batches, publications, reports, run]
  | cons t rest ih =>
    obtain ⟨⟨r, hr⟩, hrest⟩ := allReturn_cons h
    obtain ⟨hpoints, hsnapshots, hcurrent, hsome⟩ := ih hrest
    have hreport : report? K m t = some ⟨t.now, r⟩ := by rw [report?, hr]; rfl
    have hcomplete : isComplete K m t = r.isComplete := by rw [isComplete, hr]; rfl
    have hmade := made_isSome K ⟨r, hr⟩
    have hpublications : publications K m (t :: rest) =
        (m.emission t).toList ++ publications K (m.after K t) rest := by
      rw [publications, reports, hreport, List.filterMap_append, emission_of_returned K hr]
      rfl
    refine ⟨?_, ?_, ?_, ?_⟩
    · rw [allHanded, batches, List.flatMap_append, hpoints, handed, ← hmade]
      cases m.made t <;> simp [Call.newPoints, List.flatMap_map]
    · rw [allHanded, List.flatMap_append, hsnapshots, hpublications, handed]
      cases hnone : m.made t with
      | none => rw [emission_of_made_eq_none hnone]; rfl
      | some s => cases m.emission t <;> rfl
    · show ((m.after K t).run K rest).current = _
      rw [hcurrent, current_after, hpublications, List.getLast?_append]
      cases m.emission t <;> cases (publications K (m.after K t) rest).getLast? <;> rfl
    · show ((m.after K t).run K rest).current.isSome = _
      rw [hsome, current_isSome_after K ⟨r, hr⟩, reports, hreport, List.any_append, hcomplete]
      simp [Bool.or_assoc]

/-- A cycle hands its own points over, and opens nothing again. -/
theorem allHanded_mem {K : Keeper α} {m : Monitor α} {turns : List Turn} {c : Call}
    (h : c ∈ allHanded K m turns) :
    c ≠ .reopen ∧ ∀ p ∈ c.newPoints, ∃ t ∈ turns, p ∈ t.points := by
  induction turns generalizing m with
  | nil => cases h
  | cons t rest ih =>
    rcases List.mem_append.mp h with hfirst | hrest
    · rw [handed] at hfirst
      cases hmade : m.made t with
      | none => rw [hmade] at hfirst; cases hfirst
      | some s =>
        rw [hmade] at hfirst
        rcases List.mem_cons.mp hfirst with rfl | hsnapshot
        · exact ⟨nofun, fun p hp => ⟨t, List.mem_cons_self, hp⟩⟩
        · obtain ⟨s, -, rfl⟩ := List.mem_map.mp hsnapshot
          exact ⟨nofun, nofun⟩
    · obtain ⟨hreopen, hpoints⟩ := ih hrest
      refine ⟨hreopen, fun p hp => ?_⟩
      obtain ⟨t', ht', hp'⟩ := hpoints p hp
      exact ⟨t', List.mem_cons_of_mem _ ht', hp'⟩

/-- **The history of a monitor agrees with what it published.** After cycles that all returned, a
store that was empty and met fees and places in the ledger below 2⁶³ holds the batches of the
complete cycles and the snapshots that these reported as published, in their order. It recalls
them: the number of the points, the last ones up to any limit that it takes, and as the last
snapshot the one that is current, if a cycle was complete. No trouble was counted. -/
theorem history_agrees {place : Place} {folder : String} {s : Store}
    (hs : s ∈ [Store.database place true .empty, .lines folder ⟨.text "", .text ""⟩])
    {source : String} {settings : Settings} {desk : Option Alert.Desk} {m : Monitor Store}
    (hmake : make source settings (some s) desk = .ok m) (turns : List Turn)
    (hreturn : allReturn .store m turns = true)
    (hfit : ∀ t ∈ turns, ∀ p ∈ t.points, p.fee < 2 ^ 63 ∧ p.ledger < 2 ^ 63) :
    let m' := m.run .store turns
    let ps := batches .store m turns
    let ss := publications .store m turns
    ∃ s', m'.archive = some s' ∧ s'.Holds ps ss ∧
      s'.count = .ok ps.length ∧
      (∀ limit : Nat, s.IsLines ∨ limit < 2 ^ 63 →
        (s'.recent (.int limit)).1 = .ok (ps.drop (ps.length - limit))) ∧
      s'.latest = .ok (m'.current.map Snapshot.kept) ∧
      (m'.current = none ↔ ∀ r ∈ reports .store m turns, r.result.isComplete = false) ∧
      m'.status.persistenceFailures = 0 := by
  intro m' ps ss
  let calls := allHanded .store m turns
  have hmade : m.archive = some s ∧ m.current = none ∧ m.status.persistenceFailures = 0 := by
    obtain ⟨_, _, _, _, _, rfl⟩ := make_eq_ok hmake
    exact ⟨rfl, rfl, rfl⟩
  obtain ⟨harchive, hnone, hzero⟩ := hmade
  obtain ⟨hpoints, hsnapshots, hcurrent, hsome⟩ := allHanded_of_allReturn hreturn
  rw [hnone] at hcurrent hsome
  have hcalls : ∀ c ∈ calls, ∀ p ∈ c.newPoints, p.fee < 2 ^ 63 ∧ p.ledger < 2 ^ 63 := by
    intro c hc p hp
    obtain ⟨t, ht, hp⟩ := (allHanded_mem hc).2 p hp
    exact hfit t ht p hp
  have hreopen : Call.reopen ∉ calls := fun hmem => (allHanded_mem hmem).1 rfl
  have htakes : s.TakesAll calls := by
    simp only [List.mem_cons, List.not_mem_nil, or_false] at hs
    rcases hs with rfl | rfl
    · exact Store.takesAll_database hcalls place hreopen
    · exact Store.takesAll_lines hcalls folder
  obtain ⟨htaken, hholds, hrecalls, hrecent⟩ := htakes
  rw [hpoints, hsnapshots] at hholds hrecalls
  rw [hpoints] at hrecent
  obtain ⟨hstored, htroubles⟩ := run_handed harchive htaken
  refine ⟨s.after calls, hstored, hholds, hrecalls.count, hrecent, ?_, ?_, htroubles.trans hzero⟩
  · rw [hrecalls.latest, hcurrent, Option.or_none]
  · show (m.run .store turns).current = none ↔ _
    rw [← Option.not_isSome_iff_eq_none, hsome]
    simp

/-- A cycle with two points, a failed fetch, a cycle that skips its snapshot, and one more point. -/
def fourCycles : List Turn := [.ofFees [100, 300] newYear, ⟨.error (.failure .rateLimit), newYear⟩,
  .ofFees [200] newYear, .ofFees [600] newYear]

/-- The third cycle leaves the fees as they are, so of its point no snapshot is kept. -/
theorem history_agrees_fourCycles :
    let first : Snapshot := ⟨"100", "100", "300", "200", newYear, 2, .normal⟩
    let last : Snapshot := ⟨"100", "100", "600", "300", newYear, 4, .congested⟩
    ∀ s ∈ [Store.database .memory true .empty, .lines "records" ⟨.text "", .text ""⟩],
      ∃ m s', make "feed" { policy := .onChange } (some s) none = .ok m ∧
        (m.run .store fourCycles).archive = some s' ∧
        publications .store m fourCycles = [first, last] ∧ s'.count = .ok 4 ∧
        (s'.recent (.int (2 : Nat))).1 =
          .ok [⟨200, newYear, "", 0⟩, ⟨600, newYear, "", 0⟩] ∧
        s'.latest = .ok (some last.kept) := by
  intro first last s hs
  have hrun : (make "feed" { policy := .onChange } (some s) none).toOption.any (fun m => decide
      (allReturn .store m fourCycles = true ∧
        batches .store m fourCycles = [100, 300, 200, 600].map (⟨·, newYear, "", 0⟩) ∧
        publications .store m fourCycles = [first, last] ∧
        (m.run .store fourCycles).current = some last)) = true := by
    simp only [List.mem_cons, List.not_mem_nil, or_false] at hs
    rcases hs with rfl | rfl <;> decide +kernel
  have hfit : ∀ t ∈ fourCycles, ∀ p ∈ t.points, p.fee < 2 ^ 63 ∧ p.ledger < 2 ^ 63 := by
    decide +kernel
  obtain ⟨m, hmake, hrun⟩ := exists_ok_of_any hrun
  obtain ⟨hreturn, hbatches, hpublications, hcurrent⟩ := of_decide_eq_true hrun
  obtain ⟨s', harchive, -, hcount, hrecent, hlatest, -⟩ :=
    history_agrees hs hmake fourCycles hreturn hfit
  have hlast := hrecent 2 (.inr (by decide))
  rw [hbatches] at hcount hlast
  rw [hcurrent] at hlatest
  exact ⟨m, s', hmake, harchive, hpublications, hcount, hlast, hlatest⟩

/-- **A database cannot be asked for 2⁶³ points.** The history of one complete cycle is its point,
which is refused for the limit. -/
theorem history_limited :
    ∃ m s', make "feed" {} (some (.database .memory true .empty)) none = .ok m ∧
      allReturn .store m [.ofFees [100] newYear] = true ∧
      batches .store m [.ofFees [100] newYear] = [⟨100, newYear, "", 0⟩] ∧
      (m.run .store [.ofFees [100] newYear]).archive = some s' ∧ s'.count = .ok 1 ∧
      (s'.recent (.int (2 ^ 63 : Nat))).1 = .error .tooLarge := by
  have hrun : (make "feed" {} (some (Store.database .memory true .empty)) none).toOption.any
      (fun m => (m.run .store [.ofFees [100] newYear]).archive.any fun s' => decide
        (allReturn .store m [.ofFees [100] newYear] = true ∧
          batches .store m [.ofFees [100] newYear] = [⟨100, newYear, "", 0⟩] ∧
          s'.count = .ok 1 ∧ (s'.recent (.int (2 ^ 63 : Nat))).1 = .error .tooLarge)) = true := by
    decide +kernel
  obtain ⟨m, hmake, hrun⟩ := exists_ok_of_any hrun
  cases harchive : (m.run .store [.ofFees [100] newYear]).archive with
  | none => rw [harchive] at hrun; cases hrun
  | some s' =>
    rw [harchive] at hrun
    obtain ⟨hreturn, hbatches, hcount, hrecent⟩ := of_decide_eq_true hrun
    exact ⟨m, s', hmake, hreturn, hbatches, harchive, hcount, hrecent⟩

end Monitor
end FeeWatch
