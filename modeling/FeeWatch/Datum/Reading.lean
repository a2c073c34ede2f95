import FeeWatch.Datum.Text
import FeeWatch.Number.Reading

/-! Numbers read from data.

Numbers stand for themselves, truth values count as one and zero, and texts are
read; other data are no numbers. -/
namespace FeeWatch.Datum

open FeeWatch.Number (Fault Binary)

/-- Octets as the text of the characters with these codes. -/
def octetText (octets : List Nat) : String := String.ofList (octets.map Char.ofNat)

/-- Names octets, not text, in a fault. -/
def showOctets (octets : List Nat) : Fault → Fault
  | .integerText base _ => .integerText base (shownBytes octets)
  | .floatText _ => .floatText (shownBytes octets)
  | f => f

/-- Reads octets, all of which must be ASCII, as a text is read. -/
def ofOctets {α : Type} (read : String → Except Fault α) (unread : String → Fault)
    (octets : List Nat) : Except Fault α :=
  if octets.all (· < 0x80) then (read (octetText octets)).mapError (showOctets octets)
  else .error (unread (shownBytes octets))

/-- The whole number that a datum gives; a double loses its fraction. -/
def toInt : Datum → Except Fault Int
  | .scalar (.bool b) => .ok (if b then 1 else 0)
  | .scalar (.int n) => .ok n
  | .scalar (.float x) => x.toInt
  | .scalar (.text s) => Number.readInt s
  | .scalar (.bytes octets) => ofOctets Number.readInt (.integerText 10) octets
  | d => .error (.integerKind d.kind)

/-- The double that a datum gives. -/
def toFloat : Datum → Except Fault Binary
  | .scalar (.bool b) => .ok (Binary.ofInt (if b then 1 else 0))
  | .scalar (.int n) => Binary.ofInt? n
  | .scalar (.float x) => .ok x
  | .scalar (.text s) => Number.readFloat s
  | .scalar (.bytes octets) => ofOctets Number.readFloat .floatText octets
  | d => .error (.floatKind d.kind)

end FeeWatch.Datum
