import FeeWatch.Proofs.History.Framing

/-! What calls leave in a store.

A store is changed by calls that append points, append a snapshot, or close it and open it
again. A database takes the points of a call up to the first that does not fit, and what it
took lasts once a call commits; until then it is visible, and lost when the database is
opened again. So whether the points of a call outlast the calls after it can be read off
these (`outlasts`), and the rows of a database after any calls are the points that last
(`after_database`). Where all points fit, these are all points.

A store of lines takes the points of a call up to the first that cannot be written, and what it
took lasts (`after_lines`). -/
namespace FeeWatch.History

open FeeWatch.Fee (Point Snapshot)

/-- A call that changes a store, or closes it and opens it again. -/
inductive Call where
  | points (ps : List Point)
  | snapshot (s : Snapshot)
  | reopen
deriving DecidableEq, Repr

namespace Call

def newPoints : Call → List Point
  | .points ps => ps
  | _ => []

def newSnapshots : Call → List Snapshot
  | .snapshot s => [s]
  | _ => []

/-- Whether the whole numbers of a point fit a row. -/
def isFit (p : Point) : Bool := (PointRow.ofPoint p).fits

def fits (c : Call) : Bool := c.newPoints.all isFit

/-- The points of a call before the first that does not fit. -/
def taken (c : Call) : List Point := c.newPoints.takeWhile isFit

/-- Whether a point can be written as a line. -/
def isWritable (p : Point) : Bool := !p.record.isOverlong

/-- The points of a call before the first that cannot be written. -/
def written (c : Call) : List Point := c.newPoints.takeWhile isWritable

/-- Whether a call makes all rows lasting. A call without points does nothing. -/
def commits : Call → Bool
  | .points ps => !ps.isEmpty && ps.all isFit
  | .snapshot _ => true
  | .reopen => false

theorem isWritable_of_lt {p : Point} (hfee : p.fee < 10 ^ Number.digitLimit)
    (hledger : p.ledger < 10 ^ Number.digitLimit) : isWritable p = true := by
  rw [isWritable, (Json.isFlatRecord_point hfee hledger).isOverlong]
  rfl

theorem taken_of_fits {c : Call} (h : c.fits = true) : c.taken = c.newPoints :=
  List.takeWhile_eq_self_iff.mpr fun p hp => List.all_eq_true.mp h p hp

/-- A call that fits and does not commit has no points. -/
theorem newPoints_of_commits_eq_false {c : Call} (h : c.fits = true) (hc : c.commits = false) :
    c.newPoints = [] := by
  cases c with
  | points ps =>
    have hall : ps.all isFit = true := h
    simp only [commits, hall, Bool.and_true, Bool.not_eq_false', List.isEmpty_iff] at hc
    exact hc
  | snapshot s => rfl
  | reopen => rfl

end Call

/-- Whether rows that no call committed outlast some calls: a call commits them before the
database is opened again, or it is not opened again. -/
def outlasts : List Call → Bool
  | [] => true
  | .reopen :: _ => false
  | c :: rest => c.commits || outlasts rest

/-- The points of some calls that are left when all of them were made. -/
def lasting : List Call → List Point
  | [] => []
  | c :: rest => (if c.commits || outlasts rest then c.taken else []) ++ lasting rest

/-- Points that all fit last. -/
theorem lasting_of_fits {calls : List Call} (h : ∀ c ∈ calls, c.fits = true) :
    lasting calls = calls.flatMap Call.newPoints := by
  induction calls with
  | nil => rfl
  | cons c rest ih =>
    have hc := h c List.mem_cons_self
    rw [lasting, ih fun c hc => h c (List.mem_cons_of_mem _ hc), Call.taken_of_fits hc,
      List.flatMap_cons]
    cases hcommits : c.commits with
    | true => rfl
    | false => simp [Call.newPoints_of_commits_eq_false hc hcommits]

namespace Store

/-- A store after a call, and how the call ended. -/
def perform (s : Store) : Call → Except Fault Unit × Store
  | .points ps =>
    let (answer, s, _) := s.appendPoints ps
    (answer.map fun _ => (), s)
  | .snapshot snapshot =>
    let (answer, s, _) := s.appendSnapshot snapshot
    (answer, s)
  | .reopen => (.ok (), s.close.1.reopen.1)

def after (s : Store) : List Call → Store
  | [] => s
  | c :: rest => (s.perform c).2.after rest

def answers (s : Store) : List Call → List (Except Fault Unit)
  | [] => []
  | c :: rest => (s.perform c).1 :: (s.perform c).2.answers rest

end Store

/-! ### Databases -/

/-- A table after a call that does not open it again: it has the points that were taken, which
last if the call commits. -/
structure Table.Took (t t' : Table) (c : Call) : Prop where
  points : t'.points = t.points ++ c.taken.map PointRow.ofPoint
  committed : t'.committed = if c.commits then t'.points.length else t.committed
  snapshots : t'.snapshots = t.snapshots ++ c.newSnapshots.map SnapshotRow.ofSnapshot

/-- The points of a call become rows up to the first that does not fit. -/
theorem rows_takeWhile (ps : List Point) :
    (ps.map PointRow.ofPoint).takeWhile PointRow.fits =
      (ps.takeWhile Call.isFit).map PointRow.ofPoint := List.takeWhile_map ..

theorem rows_all (ps : List Point) :
    (ps.map PointRow.ofPoint).all PointRow.fits = ps.all Call.isFit := List.all_map ..

theorem Table.appendPoints_took (t : Table) {ps : List Point} (hps : ps ≠ []) :
    ((t.appendPoints ps).1.map fun _ => ()) =
        (if (Call.points ps).fits then .ok () else .error .tooLarge) ∧
      t.Took (t.appendPoints ps).2 (.points ps) := by
  have hrows := rows_takeWhile ps
  have hall := rows_all ps
  unfold Table.appendPoints
  cases hfits : ps.all Call.isFit with
  | true =>
    have hfit : (Call.points ps).fits = true := hfits
    have hcommits : (Call.points ps).commits = true := by simp [Call.commits, hps, hfits]
    rw [hfits] at hall
    dsimp only
    rw [if_pos hall, if_pos hfit]
    refine ⟨rfl, ?_, ?_, (List.append_nil _).symm⟩
    · exact congrArg (t.points ++ ·) hrows
    · rw [if_pos hcommits]
      rfl
  | false =>
    have hfit : (Call.points ps).fits = false := hfits
    have hcommits : (Call.points ps).commits = false := by simp [Call.commits, hfits]
    rw [hfits] at hall
    dsimp only
    rw [if_neg (by simp [hall]), if_neg (by simp [hfit])]
    refine ⟨rfl, ?_, ?_, (List.append_nil _).symm⟩
    · exact congrArg (t.points ++ ·) hrows
    · rw [hcommits]
      rfl

/-- A database answers a call by whether its points fit. -/
theorem Store.perform_database (place : Place) (t : Table) {c : Call} (h : c ≠ .reopen) :
    ∃ t', Store.perform (.database place true t) c =
        (if c.fits then .ok () else .error .tooLarge, .database place true t') ∧ t.Took t' c := by
  cases c with
  | reopen => exact absurd rfl h
  | snapshot s => exact ⟨t.appendSnapshot s, rfl, (List.append_nil t.points).symm, rfl, rfl⟩
  | points ps =>
    cases ps with
    | nil => exact ⟨t, rfl, (List.append_nil _).symm, rfl, (List.append_nil _).symm⟩
    | cons p ps =>
      obtain ⟨hanswer, htook⟩ := t.appendPoints_took (List.cons_ne_nil p ps)
      refine ⟨(t.appendPoints (p :: ps)).2, ?_, htook⟩
      rw [Store.perform, Store.appendPoints, if_neg (by simp), ← hanswer]
      dsimp only
      rcases t.appendPoints (p :: ps) with ⟨answer, t'⟩
      cases answer <;> rfl

/-- The rows of a table, oldest first, of which the first `n` rows of points are committed. -/
structure Table.Keeps (t : Table) (ps : List Point) (n : Nat) (ss : List Snapshot) : Prop where
  points : t.points = ps.map PointRow.ofPoint
  committed : t.committed = n
  within : n ≤ ps.length
  snapshots : t.snapshots = ss.map SnapshotRow.ofSnapshot

section Keeps
variable {t : Table} {ps : List Point} {n : Nat} {ss : List Snapshot}

theorem Table.Keeps.took {t' : Table} {c : Call} (h : t.Keeps ps n ss) (ht : t.Took t' c) :
    t'.Keeps (ps ++ c.taken) (if c.commits then (ps ++ c.taken).length else n)
      (ss ++ c.newSnapshots) := by
  have hpoints : t'.points = (ps ++ c.taken).map PointRow.ofPoint := by
    rw [ht.points, h.points, List.map_append]
  refine ⟨hpoints, ?_, ?_, ?_⟩
  · rw [ht.committed, h.committed, hpoints, List.length_map]
  · have hwithin := h.within
    rw [List.length_append]
    split <;> omega
  · rw [ht.snapshots, h.snapshots, List.map_append]

/-- A database that is closed and opened again has the rows that were committed. -/
theorem Table.Keeps.rollback (h : t.Keeps ps n ss) : t.rollback.rollback.Keeps (ps.take n) n ss := by
  have hwithin := h.within
  refine ⟨?_, h.committed, ?_, h.snapshots⟩
  · show (t.points.take t.committed).take t.committed = _
    rw [List.take_take, Nat.min_self, h.points, h.committed, List.map_take]
  · rw [List.length_take]
    omega

/-- **The rows of a database after any calls are the points that last.** What it had before lasts
as rows that no call committed do. A database in memory is not opened again. -/
theorem Store.after_database {place : Place} {calls : List Call} (h : t.Keeps ps n ss)
    (hplace : place = .memory → Call.reopen ∉ calls) :
    ∃ t' n', (Store.database place true t).after calls = .database place true t' ∧
      t'.Keeps ((if outlasts calls then ps else ps.take n) ++ lasting calls) n'
        (ss ++ calls.flatMap Call.newSnapshots) := by
  induction calls generalizing t ps n ss with
  | nil =>
    refine ⟨t, n, rfl, ?_⟩
    simpa [outlasts, lasting] using h
  | cons c rest ih =>
    have hrest : place = .memory → Call.reopen ∉ rest := fun hmemory hmem =>
      hplace hmemory (List.mem_cons_of_mem _ hmem)
    by_cases hreopen : c = .reopen
    · subst hreopen
      cases place with
      | memory => exact absurd List.mem_cons_self (hplace rfl)
      | file path =>
        obtain ⟨t', n', hafter, hkeeps⟩ := ih h.rollback hrest
        refine ⟨t', n', hafter, ?_⟩
        simpa [outlasts, lasting, Call.commits, Call.taken, Call.newPoints, Call.newSnapshots,
          List.take_take] using hkeeps
    · obtain ⟨t', hperform, htook⟩ := Store.perform_database place t hreopen
      obtain ⟨t'', n', hafter, hkeeps⟩ := ih (h.took htook) hrest
      refine ⟨t'', n', by rw [after, hperform, hafter], ?_⟩
      have houtlasts : outlasts (c :: rest) = (c.commits || outlasts rest) := by
        cases c with
        | reopen => exact absurd rfl hreopen
        | points ps => rfl
        | snapshot s => rfl
      have hleft : (if outlasts rest then ps ++ c.taken
          else (ps ++ c.taken).take (if c.commits then (ps ++ c.taken).length else n)) =
            (if c.commits || outlasts rest then ps else ps.take n) ++
              if c.commits || outlasts rest then c.taken else [] := by
        cases c.commits with
        | true => simp only [Bool.true_or, if_true, List.take_length, ite_self]
        | false =>
          cases outlasts rest with
          | true => rfl
          | false =>
            have htake : (ps ++ c.taken).take n = ps.take n :=
              List.take_append_of_le_length h.within
            simpa using htake
      rw [lasting, houtlasts, List.flatMap_cons, ← List.append_assoc, ← hleft, ← List.append_assoc]
      exact hkeeps

end Keeps

/-- A database answers calls by whether their points fit. -/
theorem Store.answers_database (place : Place) (t : Table) (calls : List Call) :
    (Store.database place true t).answers calls =
      calls.map fun c => if c.fits then .ok () else .error .tooLarge := by
  induction calls generalizing t with
  | nil => rfl
  | cons c rest ih =>
    by_cases hreopen : c = .reopen
    · subst hreopen
      cases place with
      | memory => exact congrArg (Except.ok () :: ·) (ih .empty)
      | file path => exact congrArg (Except.ok () :: ·) (ih t.rollback.rollback)
    · obtain ⟨t', hperform, -⟩ := Store.perform_database place t hreopen
      rw [answers, hperform, List.map_cons]
      exact congrArg (_ :: ·) (ih t')

/-! ### Lines -/

/-- Sheets with the records of points and snapshots. -/
def Lines.holding (ps : List Point) (ss : List Snapshot) : Lines :=
  ⟨sheet (ps.map Point.record), sheet (ss.map Snapshot.record)⟩

/-- A store of lines answers a call by whether its points can be written. -/
theorem Store.perform_lines (folder : String) (ps : List Point) (ss : List Snapshot) (c : Call) :
    Store.perform (.lines folder (.holding ps ss)) c =
      (if c.newPoints.all Call.isWritable then .ok () else .error (.misfit (.number .unwritable)),
        .lines folder (.holding (ps ++ c.written) (ss ++ c.newSnapshots))) := by
  cases c with
  | reopen => simp [perform, close, reopen, Call.newPoints, Call.newSnapshots, Call.written]
  | snapshot s =>
    have hput := Lines.put_sheet (ss.map Snapshot.record) [s.record]
    rw [List.any_cons, List.any_nil, isOverlong_snapshot,
      List.takeWhile_cons_of_pos (by rw [isOverlong_snapshot]; rfl)] at hput
    rw [perform, appendSnapshot]
    dsimp only [Lines.appendSnapshot, Lines.holding]
    rw [hput]
    simp [Call.newPoints, Call.newSnapshots, Call.written]
  | points new =>
    have hput := Lines.put_sheet (ps.map Point.record) (new.map Point.record)
    have hany : (new.map Point.record).any Datum.isOverlong = !new.all Call.isWritable := by
      rw [List.any_map, List.all_eq_not_any_not, Bool.not_not]
      simp [Call.isWritable, Function.comp_def]
    have hwritten : ((new.map Point.record).takeWhile fun r => !r.isOverlong) =
        (new.takeWhile Call.isWritable).map Point.record := List.takeWhile_map ..
    rw [hany, hwritten, ← List.map_append] at hput
    cases new with
    | nil =>
      simp [perform, appendPoints, Call.newPoints, Call.newSnapshots, Call.written, Except.map]
    | cons p new =>
      rw [perform, appendPoints, if_neg (by simp)]
      dsimp only [Lines.appendPoints, Lines.holding]
      rw [hput]
      cases hall : (p :: new).all Call.isWritable <;>
        simp [Call.newPoints, Call.newSnapshots, Call.written, hall, Except.map]

/-- **The lines of a store after any calls are their points that could be written, and all their
snapshots.** -/
theorem Store.after_lines (folder : String) (ps : List Point) (ss : List Snapshot)
    (calls : List Call) :
    (Store.lines folder (.holding ps ss)).after calls =
        .lines folder (.holding (ps ++ calls.flatMap Call.written)
          (ss ++ calls.flatMap Call.newSnapshots)) ∧
      (Store.lines folder (.holding ps ss)).answers calls = calls.map fun c =>
        if c.newPoints.all Call.isWritable then .ok () else .error (.misfit (.number .unwritable)) := by
  induction calls generalizing ps ss with
  | nil => simp [after, answers]
  | cons c rest ih =>
    obtain ⟨hafter, hanswers⟩ := ih (ps ++ c.written) (ss ++ c.newSnapshots)
    rw [after, answers, perform_lines, hafter, hanswers, List.flatMap_cons, List.flatMap_cons,
      List.append_assoc, List.append_assoc]
    exact ⟨rfl, rfl⟩

/-- Calls whose points have few enough digits are all taken by a store of lines. -/
theorem Store.takes_lines (folder : String) {calls : List Call}
    (h : ∀ p ∈ calls.flatMap Call.newPoints,
      p.fee < 10 ^ Number.digitLimit ∧ p.ledger < 10 ^ Number.digitLimit) :
    (∀ answer ∈ (Store.lines folder (.holding [] [])).answers calls, answer = .ok ()) ∧
      (Store.lines folder (.holding [] [])).after calls =
        .lines folder (.holding (calls.flatMap Call.newPoints) (calls.flatMap Call.newSnapshots)) := by
  have hall : ∀ c ∈ calls, c.newPoints.all Call.isWritable = true := by
    intro c hc
    refine List.all_eq_true.mpr fun p hp => ?_
    obtain ⟨hfee, hledger⟩ := h p (List.mem_flatMap.mpr ⟨c, hc, hp⟩)
    exact Call.isWritable_of_lt hfee hledger
  have hwritten : calls.flatMap Call.written = calls.flatMap Call.newPoints :=
    List.flatMap_congr fun c hc => List.takeWhile_eq_self_iff.mpr (List.all_eq_true.mp (hall c hc))
  obtain ⟨hafter, hanswers⟩ := after_lines folder [] [] calls
  refine ⟨fun answer hanswer => ?_, ?_⟩
  · rw [hanswers] at hanswer
    obtain ⟨c, hc, rfl⟩ := List.mem_map.mp hanswer
    rw [if_pos (hall c hc)]
  · rw [hafter, hwritten]
    rfl

end FeeWatch.History
