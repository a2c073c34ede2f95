import FeeWatch.Number.Decimal
import FeeWatch.Setting

/-! Decimals from data, without rounding.

Numbers have their exact values and texts the values that they write. A list gives a
decimal by its parts: one for the negative sign or zero, the digits, and the power of
ten or a letter for one of the special values. -/
namespace FeeWatch.Congestion

open FeeWatch.Datum (Misfit)
open FeeWatch.Number (Decimal)

/-- Why a threshold has no value. -/
inductive Fault where
  | setting (f : Setting.Fault)
  | decimal (f : Decimal.Fault)
  | misfit (m : Misfit)
deriving DecidableEq, Repr, Inhabited

/-- What is wrong with decimal operands, in words. -/
def decimalMessage : Decimal.Fault → String
  | .invalid => s!"[<class {Datum.named operation}>]"
  | .overflow => s!"[<class {Datum.named range}>]"
  | .form => s!"[<class {Datum.named form}>]"
where
  operation : String := "decimal.InvalidOperation"
  range : String := "decimal.Overflow"
  form : String := "decimal.ConversionSyntax"

def Fault.message : Fault → String
  | .setting f => f.message
  | .decimal f => decimalMessage f
  | .misfit m => m.message

def Fault.ofRefusal : Setting.Refusal → Fault
  | .fault f => .setting f
  | .misfit m => .misfit m

/-! ### Parts of a decimal -/

/-- A whole number that must lie within 64 bits; the kind of word names it where it does not. -/
def wordOf (kind : String) (problem : String) (d : Datum) : Except Misfit Int :=
  match d.number? with
  | some (.int n) => if Number.fitsWord n then .ok n else .error (.tooWide kind)
  | _ => .error (.decimalParts problem)

def signPart (d : Datum) : Except Misfit Bool := do
  let n ← wordOf "long" problem d
  if n = 0 then .ok false else if n = 1 then .ok true else .error (.decimalParts problem)
where
  problem : String := "sign must be an integer with the value 0 or 1"

def digitPart (d : Datum) : Except Misfit Nat := do
  let n ← wordOf "long" digitsProblem d
  if 0 ≤ n ∧ n ≤ 9 then .ok n.toNat else .error (.decimalParts digitsProblem)
where
  /-- What is wrong with digits. -/
  digitsProblem : String := "coefficient must be a tuple of digits"

/-- The digits of a decimal, as the number that they write. -/
def digitParts : Datum → Except Misfit Nat
  | .list ds => do
    let digits ← ds.mapM digitPart
    .ok (digits.foldl (fun n digit => n * 10 + digit) 0)
  | _ => .error (.decimalParts digitPart.digitsProblem)

/-- The last part of a decimal. -/
inductive Scale where
  | power (e : Int)
  | infinite
  | nan (signaling : Bool)
deriving DecidableEq, Repr, Inhabited

/-- The power of ten of a decimal, or the special value that a letter stands for. -/
def scalePart (d : Datum) : Except Misfit Scale :=
  match d with
  | .scalar (.text name) =>
    if name = "F" then .ok .infinite
    else if name = "n" then .ok (.nan false)
    else if name = "N" then .ok (.nan true)
    else .error (.decimalParts s!"string argument in the third position must be {letters}")
  | d => (wordOf "ssize_t" "exponent must be an integer" d).map .power
where
  /-- The letters for special values. -/
  letters : String :=
    Datum.named "F" ++ ", " ++ Datum.named "n" ++ " or " ++ Datum.named "N"

def ofParts (sign digits scale : Datum) : Except Fault Decimal := do
  let negative ← (signPart sign).mapError .misfit
  let scale ← (scalePart scale).mapError .misfit
  let digits ← (digitParts digits).mapError .misfit
  match scale with
  | .infinite => .ok (.infinite negative)
  | .nan signaling => .ok (.nan negative signaling digits)
  | .power e => (Decimal.literal negative digits e).mapError .decimal

def exact (d : Datum) : Except Fault Decimal :=
  match d.number? with
  | some x => .ok (Decimal.ofNumber x)
  | none =>
    match d with
    | .scalar (.text s) => (Decimal.read s).mapError .decimal
    | .list [sign, digits, scale] => ofParts sign digits scale
    | .list _ => .error (.misfit (.decimalParts "argument must be a sequence of length 3"))
    | d => .error (.misfit (.noDecimal d.kind))

@[simp] theorem exact_int (n : Int) : exact (.int n) = .ok (Decimal.ofInt n) := by
  simp [exact, Datum.int, Datum.number?, Scalar.number?, Decimal.ofNumber]

end FeeWatch.Congestion
