import FeeWatch.History.Store
import FeeWatch.Proofs.Setting
import Mathlib.Data.List.TakeWhile

/-! The snapshots of a store.

An open database keeps them as rows, a store of lines in the lines of a text, to which
records are added up to the first that cannot be written (`Lines.put_text`). Points
leave both as they are, and every snapshot is taken and added at the end. -/
namespace FeeWatch.History

open FeeWatch.Fee (Point Snapshot)

theorem Table.appendPoints_eq (t : Table) (points : List Point) :
    (t.appendPoints points).2.snapshots = t.snapshots ∧
      (t.appendPoints points).1.isOk = points.all fun p => (PointRow.ofPoint p).fits := by
  unfold appendPoints
  dsimp only
  rw [List.all_map]
  split <;> rename_i h
  · exact ⟨rfl, h.symm⟩
  · exact ⟨rfl, (Bool.not_eq_true _ |>.mp h).symm⟩

namespace Lines

/-- Records that can all be written are added to a text. -/
theorem append_text (s : String) {records : List Datum} (h : ∀ r ∈ records, r.isOverlong = false) :
    append (.text s) records = .ok (.text (s ++ String.join (records.map line))) := by
  have hany : records.any Datum.isOverlong = false :=
    List.any_eq_false.mpr fun r hr => by simp [h r hr]
  show (if records.any Datum.isOverlong then _ else _) = _
  rw [hany, if_neg Bool.false_ne_true]

/-- **Records are added to a text up to the first that cannot be written.** -/
theorem put_text (s : String) (records : List Datum) : put (.text s) records =
    (if records.any Datum.isOverlong then .error (.misfit (.number .unwritable)) else .ok (),
      .text (s ++ String.join ((records.takeWhile fun r => !r.isOverlong).map line))) := by
  cases hany : records.any Datum.isOverlong with
  | false =>
    have hrecords : ∀ r ∈ records, r.isOverlong = false := fun r hr =>
      Bool.not_eq_true _ |>.mp (List.any_eq_false.mp hany r hr)
    have hall : (records.takeWhile fun r => !r.isOverlong) = records :=
      List.takeWhile_eq_self_iff.mpr fun r hr => by simp [hrecords r hr]
    rw [put, append_text s hrecords, hall]
    rfl
  | true =>
    have hstop : append (.text s) records = .error (.misfit (.number .unwritable)) := by
      show (if records.any Datum.isOverlong then _ else _) = _
      rw [hany]
      rfl
    have hbefore : ∀ r ∈ records.takeWhile fun r => !r.isOverlong, r.isOverlong = false := by
      intro r hr
      have hshort := List.mem_takeWhile_imp (p := fun r : Datum => !r.isOverlong) hr
      rwa [Bool.not_eq_true'] at hshort
    rw [put, hstop]
    dsimp only
    rw [append_text s hbefore]
    rfl

end Lines

namespace Store

def IsDatabase : Store → Prop
  | .database _ isOpen _ => isOpen = true
  | .lines .. => False

def rows : Store → List SnapshotRow
  | .database _ _ t => t.snapshots
  | .lines .. => []

/-- Whether a store is two texts of lines. -/
def IsLines : Store → Prop
  | .database .. => False
  | .lines _ l => ∃ p s, l = ⟨.text p, .text s⟩

/-- The text of the snapshots of a store of lines. -/
def text : Store → List Char
  | .lines _ ⟨_, .text s⟩ => s.toList
  | _ => []

theorem appendPoints_rows {s : Store} (h : s.IsDatabase) (points : List Point) :
    (s.appendPoints points).2.1.IsDatabase ∧
      (s.appendPoints points).1.isOk = (points.all fun p => (PointRow.ofPoint p).fits) ∧
      (s.appendPoints points).2.1.rows = s.rows := by
  cases s with
  | lines folder l => exact h.elim
  | database place isOpen t =>
    cases h
    unfold appendPoints
    cases points with
    | nil => exact ⟨rfl, rfl, rfl⟩
    | cons p points =>
      obtain ⟨hsnapshots, hok⟩ := t.appendPoints_eq (p :: points)
      rw [if_neg (by simp)]
      dsimp only
      rcases happend : t.appendPoints (p :: points) with ⟨result, t'⟩
      rw [happend] at hsnapshots hok
      cases result <;> exact ⟨rfl, hok, hsnapshots⟩

theorem appendSnapshot_rows {s : Store} (h : s.IsDatabase) (snapshot : Snapshot) :
    (s.appendSnapshot snapshot).2.1.IsDatabase ∧ (s.appendSnapshot snapshot).1.isOk = true ∧
      (s.appendSnapshot snapshot).2.1.rows = s.rows ++ [.ofSnapshot snapshot] := by
  cases s with
  | lines folder l => exact h.elim
  | database place isOpen t =>
    cases h
    exact ⟨rfl, rfl, rfl⟩

theorem appendPoints_text {s : Store} (h : s.IsLines) (points : List Point) :
    (s.appendPoints points).2.1.IsLines ∧
      (s.appendPoints points).1.isOk = (points.all fun p => !p.record.isOverlong) ∧
      (s.appendPoints points).2.1.text = s.text := by
  cases s with
  | database place isOpen t => exact h.elim
  | lines folder l =>
    obtain ⟨p, s, rfl⟩ := h
    unfold appendPoints
    cases points with
    | nil => exact ⟨⟨p, s, rfl⟩, rfl, rfl⟩
    | cons point points =>
      have hall : ((point :: points).all fun p => !p.record.isOverlong) =
          !(((point :: points).map Point.record).any Datum.isOverlong) := by
        rw [List.any_map, List.all_eq_not_any_not]
        simp [Function.comp_def]
      rw [if_neg (by simp), hall]
      dsimp only [Lines.appendPoints]
      rw [Lines.put_text]
      cases ((point :: points).map Point.record).any Datum.isOverlong <;>
        exact ⟨⟨_, s, rfl⟩, rfl, rfl⟩

theorem isOverlong_snapshot (snapshot : Snapshot) : snapshot.record.isOverlong = false := by
  rw [Snapshot.record, Datum.isOverlong_record]
  simp [Snapshot.fields, Datum.isOverlong_text]

theorem appendSnapshot_text {s : Store} (h : s.IsLines) (snapshot : Snapshot) :
    (s.appendSnapshot snapshot).2.1.IsLines ∧ (s.appendSnapshot snapshot).1.isOk = true ∧
      (s.appendSnapshot snapshot).2.1.text =
        s.text ++ (Lines.line snapshot.record).toList := by
  cases s with
  | database place isOpen t => exact h.elim
  | lines folder l =>
    obtain ⟨p, s, rfl⟩ := h
    have htaken : ([snapshot.record].takeWhile fun r => !r.isOverlong) = [snapshot.record] := by
      rw [List.takeWhile_cons_of_pos (by rw [isOverlong_snapshot]; rfl)]
      rfl
    have hput : Lines.put (.text s) [snapshot.record] =
        (.ok (), .text (s ++ String.join [Lines.line snapshot.record])) := by
      rw [Lines.put_text, htaken, List.any_cons, isOverlong_snapshot]
      rfl
    rw [appendSnapshot]
    dsimp only [Lines.appendSnapshot]
    rw [hput]
    refine ⟨⟨p, _, rfl⟩, rfl, ?_⟩
    show (s ++ String.join [Lines.line snapshot.record]).toList = _
    rw [String.toList_append]
    simp [String.join, text]

end Store
end FeeWatch.History
