import FeeWatch.Proofs.History.Calls

/-! What a store recalls.

Whether a history lives in a database or in lines, its store recalls the points and
snapshots that were appended (`Store.Recalls`): their number, the last few points, the last
snapshot, and the snapshots between two instants by their times, those of one time in the
order in which they were appended (`within_inOrder`). The stores answer alike because both
read records back as what they were made of, and compare times as texts, which have the
order of the instants. -/
namespace FeeWatch.History

open FeeWatch.Calendar (Instant)
open FeeWatch.Fee (Point Snapshot)

/-! ### Snapshots between instants -/

/-- Whether a snapshot was made between two instants, ends included. -/
def isInside (start finish : Instant) (s : Snapshot) : Bool :=
  decide (start ≤ s.time) && decide (s.time ≤ finish)

/-- The snapshots between two instants by their times; those of one time keep their order. -/
def within (start finish : Instant) (ss : List Snapshot) : List Snapshot :=
  (ss.filter (isInside start finish)).mergeSort fun a b => decide (a.time ≤ b.time)

/-- Whether snapshots are found in the order of their times, those of one time in the order in
which they were given. -/
structure InOrder (given found : List Snapshot) : Prop where
  same : found.Perm given
  sorted : found.Pairwise fun a b => a.time ≤ b.time
  ties : ∀ t, found.filter (fun s => s.time = t) = given.filter fun s => s.time = t

theorem within_inOrder (start finish : Instant) (ss : List Snapshot) :
    InOrder (ss.filter (isInside start finish)) (within start finish ss) := by
  have htrans : ∀ a b c : Snapshot, decide (a.time ≤ b.time) = true → decide (b.time ≤ c.time) = true →
      decide (a.time ≤ c.time) = true := by
    intro a b c hab hbc
    rw [decide_eq_true_eq, Calendar.Instant.le_iff] at *
    exact Nat.le_trans hab hbc
  have htotal : ∀ a b : Snapshot, (decide (a.time ≤ b.time) || decide (b.time ≤ a.time)) = true := by
    intro a b
    rw [Bool.or_eq_true, decide_eq_true_eq, decide_eq_true_eq]
    exact Nat.le_total _ _
  have hsame : (within start finish ss).Perm (ss.filter (isInside start finish)) :=
    List.mergeSort_perm _ _
  refine ⟨hsame, ?_, fun t => ?_⟩
  · exact (List.pairwise_mergeSort htrans htotal _).imp of_decide_eq_true
  · -- Snapshots of one time are sorted as they are, so sorting keeps them in their order.
    have hties : ((ss.filter (isInside start finish)).filter fun s => s.time = t).Pairwise
        fun a b => decide (a.time ≤ b.time) = true := by
      refine List.pairwise_filter.mpr (List.pairwise_iff_forall_sublist.mpr fun _ ha hb => ?_)
      rw [of_decide_eq_true ha, of_decide_eq_true hb]
      exact decide_eq_true (Nat.le_refl t.ticks)
    have hkept := (List.sublist_mergeSort htrans htotal hties List.filter_sublist).filter
      fun s => s.time = t
    rw [List.filter_filter] at hkept
    simp only [Bool.and_self] at hkept
    exact (hkept.eq_of_length (hsame.filter _).length_eq.symm).symm

/-- The record of a snapshot with the text of its time. -/
def dated (s : Snapshot) : String × Datum := (s.time.text, s.record)

theorem not_text_lt (a b : Instant) : (!decide (b.text < a.text)) = decide (a ≤ b) := by
  rw [Bool.eq_iff_iff, Bool.not_eq_true', decide_eq_false_iff_not, decide_eq_true_eq,
    Calendar.text_lt_text_iff]
  exact Nat.not_lt

/-- Snapshots are sorted as their records are. -/
theorem map_dated_mergeSort (ss : List Snapshot) :
    (ss.mergeSort fun a b => decide (a.time ≤ b.time)).map dated =
      (ss.map dated).mergeSort fun a b => !decide (b.1 < a.1) := by
  refine List.map_mergeSort fun a _ b _ => ?_
  rw [dated, dated]
  exact (not_text_lt a.time b.time).symm

/-- Records between two times are those of the snapshots between the instants. -/
theorem between_dated (start finish : Instant) (ss : List Snapshot) :
    between start.text finish.text (ss.map dated) = (within start finish ss).map Snapshot.record := by
  have hinside : ((fun r : String × Datum => !(decide (r.1 < start.text) ||
      decide (finish.text < r.1))) ∘ dated) = isInside start finish := by
    funext s
    rw [Function.comp, Bool.not_or, dated, not_text_lt, not_text_lt, isInside]
  calc between start.text finish.text (ss.map dated)
      = (((ss.map dated).filter fun r => !(decide (r.1 < start.text) ||
          decide (finish.text < r.1))).mergeSort fun a b => !decide (b.1 < a.1)).map (·.2) := rfl
    _ = (((ss.filter (isInside start finish)).map dated).mergeSort
          fun a b => !decide (b.1 < a.1)).map (·.2) := by rw [List.filter_map, hinside]
    _ = ((within start finish ss).map dated).map (·.2) := by rw [within, map_dated_mergeSort]
    _ = (within start finish ss).map Snapshot.record := by
        rw [List.map_map]
        exact List.map_congr_left fun s _ => rfl

/-! ### Questions -/

/-- Whether a store recalls points and snapshots, oldest first. -/
structure Store.Recalls (s : Store) (ps : List Point) (ss : List Snapshot) : Prop where
  count : s.count = .ok ps.length
  recent : ∀ limit : Nat, limit < Number.twoTo 63 →
    (s.recent (.int limit)).1 = .ok (ps.drop (ps.length - limit))
  latest : s.latest = .ok (ss.getLast?.map Snapshot.kept)
  between : ∀ start finish,
    s.between start finish = .ok ((within start finish ss).map Snapshot.kept)

theorem isGreater_natCast (n : Nat) :
    (Datum.int n).isGreater (.int 0) = .ok (decide (0 < n)) := by
  show Except.ok (Number.lt (.int 0) (.int n)) = _
  rw [Number.lt_int]
  exact congrArg Except.ok (decide_eq_decide.mpr Int.natCast_pos)

/-- Records of points are read back as the points. -/
theorem mapM_points (ps : List Point) :
    (ps.map Point.record).mapM (fun d => (Point.ofRecord d).mapError Fault.point) = .ok ps := by
  refine (mapM_map_of_ok fun p _ => ?_).trans (congrArg Except.ok (List.map_id' ps))
  rw [Point.ofRecord_record]
  rfl

/-- Rows of points are read back as the points. -/
theorem mapM_rows (ps : List Point) :
    (ps.map PointRow.ofPoint).mapM (fun r => (Point.ofRecord r.record).mapError Fault.point) =
      .ok ps := by
  refine (mapM_map_of_ok fun p _ => ?_).trans (congrArg Except.ok (List.map_id' ps))
  show (Point.ofRecord p.record).mapError Fault.point = _
  rw [Point.ofRecord_record]
  rfl

/-- Records of snapshots are read back as what a history keeps of the snapshots. -/
theorem mapM_snapshots (ss : List Snapshot) :
    (ss.map Snapshot.record).mapM (fun d => (Snapshot.ofRecord d).mapError Fault.misfit) =
      .ok (ss.map Snapshot.kept) := by
  refine mapM_map_of_ok fun s _ => ?_
  rw [Snapshot.ofRecord_record]
  rfl

/-- A limit below 2⁶³ is taken as it is. -/
theorem read_limit {limit : Nat} (h : limit < Number.twoTo 63) :
    Limit.read (.int limit) = .ok limit := by
  have hfits : Number.fitsWord limit = true := by
    rw [Number.fitsWord, Bool.and_eq_true, decide_eq_true_eq, decide_eq_true_eq]
    generalize Number.twoTo 63 = bound at h ⊢
    omega
  rw [Datum.int, Limit.read, if_pos hfits]

/-- **An open database recalls its rows.** -/
theorem Table.Keeps.recalls {t : Table} {ps : List Point} {n : Nat} {ss : List Snapshot}
    (h : t.Keeps ps n ss) (place : Place) : (Store.database place true t).Recalls ps ss := by
  refine ⟨?_, fun limit hlimit => ?_, ?_, fun start finish => ?_⟩
  · show Except.ok t.points.length = _
    rw [h.points, List.length_map]
  · have hnonneg : ¬ (limit : Int) < 0 := by omega
    rw [Store.recent, Table.recent, read_limit hlimit]
    show t.last limit = _
    rw [Table.last, if_neg hnonneg, h.points, List.length_map, ← List.map_drop, mapM_rows]
    rfl
  · show t.latest = _
    rw [Table.latest, h.snapshots, List.getLast?_map]
    cases ss.getLast? with
    | none => rfl
    | some s =>
      show ((Snapshot.ofRecord s.record).map some).mapError Fault.misfit = _
      rw [Snapshot.ofRecord_record]
      rfl
  · have hrows : t.snapshots.map (fun r => (r.time, r.record)) = ss.map dated := by
      rw [h.snapshots, List.map_map]
      exact List.map_congr_left fun s _ => rfl
    show t.between start.text finish.text = _
    rw [Table.between, hrows, between_dated, mapM_snapshots]

/-- The sheet of some points is read as their records. -/
theorem Lines.read_points {ps : List Point}
    (h : ∀ p ∈ ps, p.fee < 10 ^ Number.digitLimit ∧ p.ledger < 10 ^ Number.digitLimit) :
    Lines.read (Lines.sheet (ps.map Point.record)) = .ok (ps.map Point.record) := by
  refine Lines.read_sheet fun r hr => ?_
  obtain ⟨p, hp, rfl⟩ := List.mem_map.mp hr
  exact Json.isFlatRecord_point (h p hp).1 (h p hp).2

/-- A store of lines recalls points up to any limit. -/
theorem Store.recent_lines (folder : String) {ps : List Point} (ss : List Snapshot)
    (h : ∀ p ∈ ps, p.fee < 10 ^ Number.digitLimit ∧ p.ledger < 10 ^ Number.digitLimit)
    (limit : Nat) :
    ((Store.lines folder (.holding ps ss)).recent (.int limit)).1 =
      .ok (ps.drop (ps.length - limit)) := by
  show (Lines.holding ps ss).recent (.int limit) = _
  rw [Lines.recent, isGreater_natCast]
  by_cases hnone : limit = 0
  · rw [hnone, Nat.sub_zero, List.drop_length]
    rfl
  · have hsome : decide (0 < limit) = true := decide_eq_true (Nat.pos_of_ne_zero hnone)
    rw [hsome]
    show (Lines.read (Lines.sheet (ps.map Point.record)) >>= _) = _
    rw [Lines.read_points h]
    show ((ps.map Point.record).drop ((ps.map Point.record).length - (limit : Int).toNat)).mapM _ = _
    rw [List.length_map, ← List.map_drop]
    exact mapM_points _

/-- **A store of lines recalls its lines.** -/
theorem Store.recalls_lines (folder : String) {ps : List Point} (ss : List Snapshot)
    (h : ∀ p ∈ ps, p.fee < 10 ^ Number.digitLimit ∧ p.ledger < 10 ^ Number.digitLimit) :
    (Store.lines folder (.holding ps ss)).Recalls ps ss := by
  have hsnapshots : Lines.read (Lines.sheet (ss.map Snapshot.record)) =
      .ok (ss.map Snapshot.record) := by
    refine Lines.read_sheet fun r hr => ?_
    obtain ⟨s, -, rfl⟩ := List.mem_map.mp hr
    exact Json.isFlatRecord_snapshot s
  refine ⟨?_, fun limit _ => Store.recent_lines folder ss h limit, ?_, fun start finish => ?_⟩
  · show (Lines.read (Lines.sheet (ps.map Point.record))).map List.length = _
    rw [Lines.read_points h]
    simp [Except.map]
  · show (Lines.holding ps ss).latest = _
    rw [Lines.latest]
    show (Lines.read (Lines.sheet (ss.map Snapshot.record)) >>= _) = _
    simp only [hsnapshots, bind, Except.bind, List.getLast?_map]
    cases ss.getLast? with
    | none => rfl
    | some s =>
      show ((Snapshot.ofRecord s.record).map some).mapError Fault.misfit = _
      rw [Snapshot.ofRecord_record]
      rfl
  · show (Lines.holding ps ss).between start.text finish.text = _
    have htimed : (ss.map Snapshot.record).mapM (Lines.timed start.text) = .ok (ss.map dated) :=
      mapM_map_of_ok fun s _ => rfl
    rw [Lines.between]
    show (Lines.read (Lines.sheet (ss.map Snapshot.record)) >>= _) = _
    rw [hsnapshots]
    show ((ss.map Snapshot.record).mapM (Lines.timed start.text) >>= _) = _
    rw [htimed]
    show (History.between start.text finish.text (ss.map dated)).mapM _ = _
    rw [between_dated]
    exact mapM_snapshots _

/-! ### Histories -/

/-- A database that was empty recalls the points that last. -/
theorem Store.recalls_lasting {place : Place} {calls : List Call}
    (hplace : place = .memory → Call.reopen ∉ calls) :
    ((Store.database place true .empty).after calls).Recalls (lasting calls)
      (calls.flatMap Call.newSnapshots) := by
  have hempty : Table.empty.Keeps [] 0 [] := ⟨rfl, rfl, Nat.le_refl 0, rfl⟩
  obtain ⟨t, n, hafter, hkeeps⟩ := Store.after_database hempty hplace
  rw [List.take_nil, ite_self, List.nil_append, List.nil_append] at hkeeps
  rw [hafter]
  exact hkeeps.recalls place

theorem Call.fits_of_lt {c : Call} (h : ∀ p ∈ c.newPoints, p.fee < 2 ^ 63 ∧ p.ledger < 2 ^ 63) :
    c.fits = true := by
  refine List.all_eq_true.mpr fun p hp => ?_
  obtain ⟨hfee, hledger⟩ := h p hp
  show (decide (p.fee ≤ 2 ^ 63 - 1) && decide (p.ledger ≤ 2 ^ 63 - 1)) = true
  rw [Bool.and_eq_true, decide_eq_true_eq, decide_eq_true_eq]
  omega

/-- Whole numbers that fit 64 bits can be written. -/
theorem Call.lt_digitLimit {calls : List Call}
    (h : ∀ c ∈ calls, ∀ p ∈ c.newPoints, p.fee < 2 ^ 63 ∧ p.ledger < 2 ^ 63) :
    ∀ p ∈ calls.flatMap Call.newPoints,
      p.fee < 10 ^ Number.digitLimit ∧ p.ledger < 10 ^ Number.digitLimit := by
  intro p hp
  obtain ⟨c, hc, hp⟩ := List.mem_flatMap.mp hp
  obtain ⟨hfee, hledger⟩ := h c hc p hp
  have hdigits : 10 ^ 19 ≤ 10 ^ Number.digitLimit := Nat.pow_le_pow_right (by decide) (by decide)
  omega

/-- **Databases and lines keep one history.** Calls whose whole numbers fit 64 bits all return, and
after them an empty database and an empty store of lines recall the same: all points and snapshots
of the calls, and between two instants the snapshots in the order of their times. A store of lines
and a database in a file may be closed and opened again after any call, the last one too. -/
theorem stores_recall (calls : List Call)
    (hfit : ∀ c ∈ calls, ∀ p ∈ c.newPoints, p.fee < 2 ^ 63 ∧ p.ledger < 2 ^ 63)
    (place : Place) (hplace : place = .memory → Call.reopen ∉ calls) (folder : String) :
    (∀ s ∈ [Store.database place true .empty, .lines folder ⟨.text "", .text ""⟩],
        (∀ answer ∈ s.answers calls, answer = .ok ()) ∧
          (s.after calls).Recalls (calls.flatMap Call.newPoints)
            (calls.flatMap Call.newSnapshots)) ∧
      ∀ start finish ss,
        InOrder (ss.filter (isInside start finish)) (within start finish ss) := by
  have hfits : ∀ c ∈ calls, c.fits = true := fun c hc => Call.fits_of_lt (hfit c hc)
  refine ⟨fun s hs => ?_, within_inOrder⟩
  simp only [List.mem_cons, List.not_mem_nil, or_false] at hs
  rcases hs with rfl | rfl
  · refine ⟨fun answer hanswer => ?_, ?_⟩
    · rw [Store.answers_database] at hanswer
      obtain ⟨c, hc, rfl⟩ := List.mem_map.mp hanswer
      rw [if_pos (hfits c hc)]
    · rw [← lasting_of_fits hfits]
      exact Store.recalls_lasting hplace
  · have hdigits := Call.lt_digitLimit hfit
    obtain ⟨htaken, hafter⟩ := Store.takes_lines folder hdigits
    refine ⟨htaken, ?_⟩
    change ((Store.lines folder (.holding [] [])).after calls).Recalls _ _
    rw [hafter]
    exact Store.recalls_lines folder _ hdigits

/-- Two points, the one with a hash of two lines and an empty place, a snapshot, and a third point
after the store was opened again. -/
def threePoints : List Call := [
  .points [⟨900, .earliest, "a\n\u2028\x00", 1⟩, ⟨100, .earliest, "", 2⟩],
  .snapshot ⟨"100", "100", "900", "\"500\"", .earliest, 2, .congested⟩, .reopen,
  .points [⟨7, .earliest, "\\", 2 ^ 63 - 1⟩]]

theorem stores_recall_threePoints :
    (∀ c ∈ threePoints, ∀ p ∈ c.newPoints, p.fee < 2 ^ 63 ∧ p.ledger < 2 ^ 63) ∧
      (Place.file "history.db" = .memory → Call.reopen ∉ threePoints) ∧
        ∀ s ∈ [Store.database (.file "history.db") true .empty,
            .lines "records" ⟨.text "", .text ""⟩],
          (s.after threePoints).count = .ok 3 ∧
          ((s.after threePoints).recent (.int (2 : Nat))).1 =
            .ok [⟨100, .earliest, "", 2⟩, ⟨7, .earliest, "\\", 2 ^ 63 - 1⟩] ∧
          (s.after threePoints).latest =
            .ok (some ⟨"100", "100", "900", "\"500\"", .earliest, 0, .normal⟩) := by
  have hfit : ∀ c ∈ threePoints, ∀ p ∈ c.newPoints, p.fee < 2 ^ 63 ∧ p.ledger < 2 ^ 63 := by
    decide
  have hplace : Place.file "history.db" = .memory → Call.reopen ∉ threePoints := nofun
  refine ⟨hfit, hplace, fun s hs => ?_⟩
  obtain ⟨-, hrecalls⟩ := (stores_recall threePoints hfit (.file "history.db") hplace "records").1 s hs
  exact ⟨hrecalls.count, hrecalls.recent 2 (by decide), hrecalls.latest⟩

end FeeWatch.History
