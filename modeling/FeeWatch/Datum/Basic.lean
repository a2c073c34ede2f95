import FeeWatch.Calendar.Reading
import FeeWatch.Number.Basic

/-! Data of no fixed shape: what a settings file or a server's answer holds.

A datum is a scalar, a list, a map from scalars that keeps the order of its
entries, or one of two rarer collections that settings files can spell: a set,
and a pair from an ordered list of pairs. A settings file can also put a list or a
map into itself; what stands inside is then only a sign for the collection again. -/
namespace FeeWatch

/-- A day and a time of day, with an offset in seconds if one was given. -/
structure Moment where
  date : Calendar.Date
  clock : Calendar.Clock
  offset : Option Int
deriving DecidableEq, Repr

/-- The seconds and microseconds from the first day to a moment, if it has an offset. -/
def Moment.utc? (m : Moment) : Option (Int × Nat) :=
  m.offset.map fun offset =>
    let days := Calendar.dayNumber m.date
    ((days * 86400 + m.clock.hour * 3600 + m.clock.minute * 60 + m.clock.second : Nat) - offset,
      m.clock.micros)

/-- A datum without parts. -/
inductive Scalar where
  | null
  | bool (b : Bool)
  | int (n : Int)
  | float (x : Number.Binary)
  | text (s : String)
  | bytes (octets : List Nat)
  | date (d : Calendar.Date)
  | moment (m : Moment)
deriving DecidableEq, Repr, Inhabited

/-- Data of no fixed shape. -/
inductive Datum where
  | scalar (s : Scalar)
  | list (items : List Datum)
  | map (entries : List (Scalar × Datum))
  | set (members : List Scalar)
  | pair (first second : Datum)
  /-- A list or a map around this place, once more. -/
  | again (isMap : Bool)
deriving Repr, Inhabited

namespace Scalar

/-- The number that a scalar counts as; truth values count as one and zero. -/
def number? : Scalar → Option Number
  | .bool b => some (.int (if b then 1 else 0))
  | .int n => some (.int n)
  | .float x => some (.float x)
  | _ => none

/-- Whether two scalars are the same key: equal numbers are, whatever their kinds, and so are
moments with offsets that name one instant. -/
def sameKey (a b : Scalar) : Bool :=
  a == b ||
    match a, b with
    | .moment m, .moment n => m.utc?.isSome && m.utc? == n.utc?
    | a, b =>
      match a.number?, b.number? with
      | some x, some y => Number.compare? x y == some .eq
      | _, _ => false

/-- The name of a scalar's kind. -/
def kind : Scalar → String
  | .null => "NoneType"
  | .bool _ => "bool"
  | .int _ => "int"
  | .float _ => "float"
  | .text _ => "str"
  | .bytes _ => "bytes"
  | .date _ => "datetime.date"
  | .moment _ => "datetime.datetime"

/-- Whether a scalar counts as something: zero, empty text and null do not. -/
def isSome : Scalar → Bool
  | .null => false
  | .bool b => b
  | .int n => n != 0
  | .float x => !x.isZero
  | .text s => s != ""
  | .bytes octets => !octets.isEmpty
  | _ => true

theorem sameKey_self (a : Scalar) : sameKey a a = true := by simp [sameKey]

end Scalar

namespace Datum

def null : Datum := .scalar .null
def bool (b : Bool) : Datum := .scalar (.bool b)
def int (n : Int) : Datum := .scalar (.int n)
def float (x : Number.Binary) : Datum := .scalar (.float x)
def text (s : String) : Datum := .scalar (.text s)

def ofNumber : Number → Datum
  | .int n => int n
  | .float x => float x

/-- A map whose keys are texts. -/
def record (fields : List (String × Datum)) : Datum :=
  .map (fields.map fun (k, v) => (.text k, v))

def ofText? : Option String → Datum
  | some s => text s
  | none => null

/-- The name of a datum's kind. -/
def kind : Datum → String
  | .scalar s => s.kind
  | .list _ => "list"
  | .map _ => "dict"
  | .set _ => "set"
  | .pair .. => "tuple"
  | .again isMap => if isMap then "dict" else "list"

/-- Whether a datum counts as something: empty collections do not. -/
def isSome : Datum → Bool
  | .scalar s => s.isSome
  | .list items => !items.isEmpty
  | .map entries => !entries.isEmpty
  | .set members => !members.isEmpty
  | .pair .. => true
  | .again _ => true

def isNull : Datum → Bool
  | .scalar .null => true
  | _ => false

end Datum

/-! ### Entries of maps -/

namespace Entries
variable {α : Type}

def find? (key : Scalar) : List (Scalar × α) → Option α
  | [] => none
  | (k, v) :: rest => if k.sameKey key then some v else find? key rest

/-- Sets the value of a key, in its place if it has one and at the end otherwise. -/
def insert (key : Scalar) (value : α) : List (Scalar × α) → List (Scalar × α)
  | [] => [(key, value)]
  | (k, v) :: rest => if k.sameKey key then (k, value) :: rest else (k, v) :: insert key value rest

/-- Entries from first to last; a later value of a key replaces an earlier one. -/
def ofList (entries : List (Scalar × α)) : List (Scalar × α) :=
  entries.foldl (fun acc (k, v) => insert k v acc) []

@[simp] theorem find?_insert_self (key : Scalar) (value : α) (es : List (Scalar × α)) :
    find? key (insert key value es) = some value := by
  induction es with
  | nil => simp [insert, find?, Scalar.sameKey_self]
  | cons e rest ih =>
    obtain ⟨k, v⟩ := e
    by_cases h : k.sameKey key <;> simp [insert, find?, h, ih]

end Entries
end FeeWatch
