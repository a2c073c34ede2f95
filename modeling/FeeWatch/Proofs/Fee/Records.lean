import FeeWatch.Fee.Point
import FeeWatch.Fee.Snapshot
import FeeWatch.Proofs.Calendar.Stamp
import FeeWatch.Proofs.Json.RoundTrip
import FeeWatch.Proofs.Setting

/-! Records of points and snapshots.

A record gives back the point it was made from (`Point.ofRecord_record`), and of a snapshot
the four fees and the time (`Snapshot.ofRecord_record`): the number of points and the
market's state are not kept. Both hold their time as a text, and no time is lost in it or changes
places with another (`times_lossless`). Both kinds of record are flat, so a line of JSON holds
either. -/
namespace FeeWatch.Fee

theorem instant_text (a : Calendar.Instant) : Datum.instant (.text a.text) = .ok a := by
  rw [Datum.text, Datum.instant, Calendar.readInstant_text]
  rfl

/-- **A point is read back from its record.** -/
theorem Point.ofRecord_record (p : Point) : ofRecord p.record = .ok p := by
  have hfee : p.record.part "fee_amount" = .ok (.int p.fee) := rfl
  have htime : p.record.part "timestamp" = .ok (.text p.time.text) := rfl
  have hhash : p.record.part "transaction_hash" = .ok (.text p.hash) := rfl
  have hledger : p.record.part "ledger_sequence" = .ok (.int p.ledger) := rfl
  rw [ofRecord, ofParts, hfee, htime, hhash, hledger, Except.bind, Except.bind, Except.bind,
    instant_text]
  exact p.make_natCast

namespace Snapshot

/-- What a history keeps of a snapshot: the four fees and the time. -/
def kept (s : Snapshot) : Snapshot := { s with count := 0, market := .normal }

/-- **The fees and the time of a snapshot are read back from its record.** -/
theorem ofRecord_record (s : Snapshot) : ofRecord s.record = .ok s.kept := by
  have hbase : s.record.part "base_fee" = .ok (.text s.base) := rfl
  have hmin : s.record.part "min_fee" = .ok (.text s.min) := rfl
  have hmax : s.record.part "max_fee" = .ok (.text s.max) := rfl
  have havg : s.record.part "avg_fee" = .ok (.text s.avg) := rfl
  have htime : s.record.part "captured_at" = .ok (.text s.time.text) := rfl
  rw [ofRecord, hbase, hmin, hmax, havg, htime, Except.bind, instant_text]
  rfl

end Snapshot

open Calendar (Instant Stamp HasShape readInstant)

/-- **Times are kept in texts without loss.** A stamp that lies in the years 1 to 9999 of universal
time, by whatever clock, has an instant, whose text has the fixed shape and is read back as the
instant; the text is what a clock in universal time shows then. Texts have the order of the stamps
they were made from. So records give back points, and of snapshots what a history keeps; and a text
that was read and written again changes no more. -/
theorem times_lossless :
    (∀ m : Stamp, m.InRange → ∃ a, m.universal = .ok a ∧ m.ticks = a.ticks ∧ HasShape a.text ∧
      readInstant a.text = .ok a ∧
      ∀ n : Stamp, n.lead = 0 → n.ticks = m.ticks → a.text = n.shown) ∧
    (∀ (m n : Stamp) (a b : Instant), m.universal = .ok a → n.universal = .ok b →
      (a.text < b.text ↔ m.ticks < n.ticks) ∧ (a.text = b.text ↔ m.ticks = n.ticks)) ∧
    (∀ p : Point, Point.ofRecord p.record = .ok p) ∧
    (∀ s : Snapshot, Snapshot.ofRecord s.record = .ok s.kept) ∧
    ∀ s u : String, (readInstant s).map Instant.text = .ok u →
      (readInstant u).map Instant.text = .ok u := by
  refine ⟨fun m hm => ?_, fun m n a b => Calendar.text_order, Point.ofRecord_record,
    Snapshot.ofRecord_record, fun s u => Calendar.text_settled⟩
  obtain ⟨a, ha⟩ := hm.universal
  have hticks := Stamp.universal_eq_ok.mp ha
  refine ⟨a, ha, hticks, Calendar.text_hasShape a, Calendar.readInstant_text a, ?_⟩
  intro n hlead hn
  exact Stamp.text_eq_shown hlead (hn.trans hticks)

/-- A clock two hours ahead already shows March when universal time has the last second of a leap
day. -/
theorem times_lossless_leapDay :
    let m : Stamp := ⟨⟨2024, 3, 1⟩, ⟨1, 59, 59, 123456⟩, some 7200000000,
      ⟨by decide, by decide, by decide⟩, by decide, ⟨by decide, by decide, by decide, by decide⟩,
      by decide⟩
    let n : Stamp := ⟨⟨2024, 2, 29⟩, ⟨23, 59, 59, 123456⟩, none,
      ⟨by decide, by decide, by decide⟩, by decide, ⟨by decide, by decide, by decide, by decide⟩,
      by decide⟩
    m.InRange ∧ ∃ a, m.universal = .ok a ∧ readInstant a.text = .ok a ∧
      a.text = "2024-02-29T23:59:59.123456Z" ∧ a.text = n.shown := by
  intro m n
  have hrange : m.InRange := ⟨by decide, by decide⟩
  obtain ⟨a, ha, _, _, hread, hshown⟩ := times_lossless.1 m hrange
  have htext : a.text = n.shown := hshown n rfl (by decide)
  have hliteral : n.shown = "2024-02-29T23:59:59.123456Z" := by decide
  exact ⟨hrange, a, ha, hread, htext.trans hliteral, htext⟩

end FeeWatch.Fee

namespace FeeWatch.Json

open Fee (Point Snapshot)

/-- Whether a datum is a flat record, with a key for each field. -/
def IsFlatRecord (d : Datum) : Prop :=
  ∃ fields, d = .record fields ∧ (∀ f ∈ fields, IsFlat f.2) ∧ (fields.map Prod.fst).Nodup

/-- A flat record can be written. -/
theorem IsFlatRecord.isOverlong {d : Datum} (h : IsFlatRecord d) : d.isOverlong = false := by
  obtain ⟨fields, rfl, hflat, -⟩ := h
  rw [Datum.isOverlong_record, List.any_eq_false]
  intro ⟨key, value⟩ hf
  have hvalue : IsFlat value := hflat _ hf
  cases hvalue with
  | text s => rw [Datum.isOverlong_text]; exact Bool.false_ne_true
  | whole n h =>
    have hpow : ∀ k, Number.tenTo k = 10 ^ k := fun _ => rfl
    rw [Datum.isOverlong_int, Number.isOverlong, hpow, decide_eq_true_eq, Nat.not_le]
    exact h

/-- The record of a point is flat, unless a whole number in it has too many digits. -/
theorem isFlatRecord_point {p : Point} (hfee : p.fee < 10 ^ Number.digitLimit)
    (hledger : p.ledger < 10 ^ Number.digitLimit) : IsFlatRecord p.record := by
  refine ⟨_, rfl, ?_, by simp⟩
  intro f hf
  simp only [List.mem_cons, List.not_mem_nil, or_false] at hf
  rcases hf with rfl | rfl | rfl | rfl
  · exact .whole p.fee hfee
  · exact .text p.time.text
  · exact .text p.hash
  · exact .whole p.ledger hledger

theorem isFlatRecord_snapshot (s : Snapshot) : IsFlatRecord s.record := by
  refine ⟨_, rfl, ?_, by simp [Snapshot.fields]⟩
  intro f hf
  simp only [Snapshot.fields, List.mem_cons, List.not_mem_nil, or_false] at hf
  rcases hf with rfl | rfl | rfl | rfl | rfl <;> exact .text _

end FeeWatch.Json
