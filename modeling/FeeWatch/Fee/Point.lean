import FeeWatch.Datum.Access

/-! Fee points: one charged fee at the moment its ledger closed. -/
namespace FeeWatch.Fee

/-- One observed transaction fee. -/
structure Point where
  /-- The fee in the network's smallest unit. -/
  fee : Nat
  /-- When the ledger closed. -/
  time : Calendar.Instant
  /-- The transaction's hash. -/
  hash : String
  /-- The ledger's sequence number. -/
  ledger : Nat
deriving DecidableEq, Repr, Inhabited

namespace Point

/-- Why there is no such point. -/
inductive Fault where
  | negativeFee (n : Int)
  | negativeLedger (n : Int)
  | misfit (m : Datum.Misfit)
deriving DecidableEq, Repr, Inhabited

def Fault.message : Fault → String
  | .negativeFee n => s!"fee_amount must be non-negative, got {n}"
  | .negativeLedger n => s!"ledger_sequence must be non-negative, got {n}"
  | .misfit m => m.message

def Fault.family : Fault → Datum.Misfit.Family
  | .misfit m => m.family
  | _ => .value

/-- A point of a fee and a ledger that may be negative; neither is accepted, the fee first. -/
def make (fee : Int) (time : Calendar.Instant) (hash : String) (ledger : Int) :
    Except Fault Point :=
  if fee < 0 then .error (.negativeFee fee)
  else if ledger < 0 then .error (.negativeLedger ledger)
  else .ok ⟨fee.toNat, time, hash, ledger.toNat⟩

/-- Reads a point from the parts of a record, under the names that the record uses. -/
def ofParts (feeKey timeKey hashKey ledgerKey : String) (d : Datum) : Except Fault Point := do
  let fee ← ((d.part feeKey).bind Datum.whole).mapError .misfit
  let time ← ((d.part timeKey).bind Datum.instant).mapError .misfit
  let hash ← (d.part hashKey).mapError .misfit
  let ledger ← ((d.part ledgerKey).bind Datum.whole).mapError .misfit
  make fee time hash.written ledger

/-- Reads a stored record. -/
def ofRecord (d : Datum) : Except Fault Point :=
  ofParts "fee_amount" "timestamp" "transaction_hash" "ledger_sequence" d

def row (p : Point) : Datum := .list [.int p.fee, .text p.time.text, .text p.hash, .int p.ledger]

/-- Reads the values of a point in a row, the time first. -/
def ofRow : Datum → Except Fault Point
  | .list [fee, time, hash, ledger] => do
    let time ← time.instant.mapError .misfit
    let fee ← fee.whole.mapError .misfit
    let ledger ← ledger.whole.mapError .misfit
    make fee time hash.written ledger
  | d => .error (.misfit (.partless d.kind))

def record (p : Point) : Datum :=
  .record [("fee_amount", .int p.fee), ("timestamp", .text p.time.text),
    ("transaction_hash", .text p.hash), ("ledger_sequence", .int p.ledger)]

theorem make_natCast (p : Point) : make p.fee p.time p.hash p.ledger = .ok p := by
  have hf : ¬ ((p.fee : Int) < 0) := by omega
  have hl : ¬ ((p.ledger : Int) < 0) := by omega
  simp [make, hf, hl]

end Point
end FeeWatch.Fee
