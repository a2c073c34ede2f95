import FeeWatch.Calendar.Reading
import FeeWatch.Datum.Reading

/-! Taking data apart.

Data that come from outside may have any shape, so each way to take a datum apart
names what is wrong with a datum that does not fit: a missing key, or a kind of
datum that has no such parts. -/
namespace FeeWatch.Datum

/-- Why a datum could not be used. -/
inductive Misfit where
  | number (f : Number.Fault)
  | calendar (f : Calendar.Fault)
  /-- A map has no such key. -/
  | missing (key : Scalar)
  /-- A datum of a kind does not have a feature. -/
  | lacks (kind feature : String)
  /-- A datum of a kind has no parts. -/
  | partless (kind : String)
  /-- A list was asked for a part by a name. -/
  | listIndex
  /-- A text was asked for a part by a name. -/
  | textIndex
  /-- The parts of a datum of a kind cannot be set. -/
  | fixed (kind : String)
  /-- Two kinds have no order between them. -/
  | unordered (relation left right : String)
  /-- A datum of a kind is no path. -/
  | noPath (kind : String)
  /-- A path is given in octets. -/
  | octetPath
  /-- A name is given in octets. -/
  | octetName
  /-- An address is given in octets where characters are looked for. -/
  | octetAddress
  /-- Octets were asked to lose a character. -/
  | octetTrim
  /-- A name, as it is shown, stands for no level. -/
  | noLevel (shown : String)
  /-- A datum of a kind is no decimal. -/
  | noDecimal (kind : String)
  /-- The parts of a decimal do not fit together. -/
  | decimalParts (problem : String)
  /-- A whole number is too wide for a word. -/
  | tooWide (word : String)
  /-- A number that is not whole cannot count. -/
  | noCount
  /-- A value, as it is shown, is no word of a kind. -/
  | noWord (shown kind : String)
  /-- Records of a name have no such field. -/
  | extraField (record field : String)
  /-- A record of a name must have a field. -/
  | lacksField (record field : String)
deriving DecidableEq, Repr, Inhabited

/-- A name between apostrophes. -/
def named (s : String) : String := String.ofList (Text.apostrophe :: s.toList ++ [Text.apostrophe])

def Misfit.message : Misfit → String
  | .number f => f.message
  | .calendar f => f.message
  | .missing key => key.shown
  | .lacks kind feature => s!"{named kind} object has no attribute {named feature}"
  | .partless kind => s!"{named kind} object is not subscriptable"
  | .listIndex => "list indices must be integers or slices, not str"
  | .textIndex => s!"string indices must be integers, not {named textKind}"
  | .fixed kind => s!"{named kind} object does not support item assignment"
  | .unordered relation left right =>
    s!"{named relation} not supported between instances of {named left} and {named right}"
  | .noPath kind => s!"expected str, bytes or os.PathLike object, not {kind}"
  | .octetPath =>
    s!"argument should be a str object or an os.PathLike object returning str, not <class {named octetKind}>"
  | .octetName => s!"attribute name must be string, not {named octetKind}"
  | .octetAddress => "cannot use a string pattern on a bytes-like object"
  | .octetTrim => s!"a bytes-like object is required, not {named textKind}"
  | .noLevel shown => s!"Unknown level: {shown}"
  | .noDecimal kind => s!"conversion from {kind} to Decimal is not supported"
  | .decimalParts problem => problem
  | .tooWide word => s!"Python int too large to convert to C {word}"
  | .noCount => "slice indices must be integers or None or have an __index__ method"
  | .noWord shown kind => s!"{shown} is not a valid {kind}"
  | .extraField record field =>
    s!"{record}.__init__() got an unexpected keyword argument {named field}"
  | .lacksField record field =>
    s!"{record}.__init__() missing 1 required positional argument: {named field}"
where
  /-- The kind of texts. -/
  textKind : String := Scalar.kind (.text "")
  /-- The kind of octets. -/
  octetKind : String := Scalar.kind (.bytes [])

/-- What part of a datum a misfit is about. -/
inductive Misfit.Family where
  /-- The datum has a fitting kind but not a fitting value. -/
  | value
  /-- The datum is of the wrong kind. -/
  | kind
  | key
  /-- The datum lacks a feature of the kind that was expected. -/
  | feature
  /-- The value is too great for where it goes. -/
  | range
deriving DecidableEq, Repr

def numberFamily : Number.Fault → Misfit.Family
  | .integerKind _ => .kind
  | .floatKind _ => .kind
  | .infinityToInteger => .range
  | .integerToFloat => .range
  | _ => .value

def Misfit.family : Misfit → Misfit.Family
  | .number f => numberFamily f
  | .calendar .outOfRange => .range
  | .calendar _ => .value
  | .missing _ => .key
  | .lacks .. => .feature
  | .noLevel _ => .value
  | .noWord .. => .value
  | .decimalParts _ => .value
  | .tooWide _ => .range
  | _ => .kind

/-- The value of a key of a map. -/
def get? (d : Datum) (key : String) : Option Datum :=
  match d with
  | .map entries => Entries.find? (.text key) entries
  | _ => none

/-- The number that a datum counts as. -/
def number? : Datum → Option Number
  | .scalar s => s.number?
  | _ => none

/-- The number that a datum counts as, zero for one that is no number. -/
def amount (d : Datum) : Number := d.number?.getD 0

/-- The number of a datum that is not null. -/
def limit? (d : Datum) : Option Number := if d.isNull then none else some d.amount

/-- The value of a key, or a default. -/
def given (d : Datum) (key : String) (default : Datum) : Datum := (d.get? key).getD default

/-- The value of a key, null where there is none. -/
def field (d : Datum) (key : String) : Datum := d.given key .null

def text? : Datum → Option String
  | .scalar (.text s) => some s
  | _ => none

/-- The whole number of a datum that is one. -/
def int? : Datum → Option Int
  | .scalar (.int n) => some n
  | _ => none

/-- Whether a datum is the truth value of truth. -/
def isTrue : Datum → Bool
  | .scalar (.bool b) => b
  | _ => false

def items : Datum → List Datum
  | .list ds => ds
  | _ => []

/-- The entries of a map whose keys are texts. -/
def fields : Datum → List (String × Datum)
  | .map entries => entries.filterMap fun (k, v) => (text? (.scalar k)).map (·, v)
  | _ => []

/-- Checks that a record has no fields but the known ones, and has those it must have. -/
def checkFields (record : String) (known needed : List String) (d : Datum) : Except Misfit Unit :=
  match d.fields.find? fun (key, _) => !known.contains key with
  | some (key, _) => .error (.extraField record key)
  | none =>
    match needed.find? fun key => (d.get? key).isNone with
    | some key => .error (.lacksField record key)
    | none => .ok ()

mutual

/-- Replaces the parts of a datum that a function has something else for. -/
def replace (f : Datum → Option Datum) (d : Datum) : Datum :=
  match f d with
  | some e => e
  | none =>
    match d with
    | .map entries => .map (replaceValues f entries)
    | .list items => .list (replaceAll f items)
    | d => d

def replaceAll (f : Datum → Option Datum) : List Datum → List Datum
  | [] => []
  | d :: rest => replace f d :: replaceAll f rest

def replaceValues (f : Datum → Option Datum) : List (Scalar × Datum) → List (Scalar × Datum)
  | [] => []
  | (k, v) :: rest => (k, replace f v) :: replaceValues f rest

end

def part (key : String) : Datum → Except Misfit Datum
  | .map entries =>
    match Entries.find? (.text key) entries with
    | some d => .ok d
    | none => .error (.missing (.text key))
  | .list _ => .error .listIndex
  | .pair .. => .error .listIndex
  | .scalar (.text _) => .error .textIndex
  | d => .error (.partless d.kind)

/-- The value of a key of a map, or a default. -/
def getD (d : Datum) (key : String) (default : Datum) : Except Misfit Datum :=
  match d with
  | .map entries => .ok ((Entries.find? (.text key) entries).getD default)
  | d => .error (.lacks d.kind "get")

def whole (d : Datum) : Except Misfit Int := d.toInt.mapError .number

/-- The double of a datum. -/
def real (d : Datum) : Except Misfit Number.Binary := d.toFloat.mapError .number

/-! ### Order -/

/-- Whether two data stand in a relation of numbers. Data that are no numbers have no order. -/
def relate (relation : String) (holds : Number → Number → Bool) (a b : Datum) :
    Except Misfit Bool :=
  match a.number?, b.number? with
  | some x, some y => .ok (holds x y)
  | _, _ => .error (.unordered relation a.kind b.kind)

def isLess (a b : Datum) : Except Misfit Bool := relate "<" Number.lt a b

def isAtMost (a b : Datum) : Except Misfit Bool := relate "<=" Number.le a b

def isGreater (a b : Datum) : Except Misfit Bool := relate ">" (fun x y => Number.lt y x) a b

@[simp] theorem isLess_int (a b : Int) : isLess (.int a) (.int b) = .ok (decide (a < b)) := by
  simp [isLess, relate, number?, Scalar.number?, Datum.int]

@[simp] theorem isAtMost_int (a b : Int) : isAtMost (.int a) (.int b) = .ok (decide (a ≤ b)) := by
  simp [isAtMost, relate, number?, Scalar.number?, Datum.int]

/-! ### Writing -/

mutual

/-- Whether some whole number of a datum has too many digits to be written. -/
def isOverlong : Datum → Bool
  | .scalar (.int n) => Number.isOverlong n
  | .scalar _ => false
  | .list items => anyOverlong items
  | .map entries => anyOverlongEntry entries
  | .set members => members.any fun s => match s with
    | .int n => Number.isOverlong n
    | _ => false
  | .pair first second => first.isOverlong || second.isOverlong
  | .again _ => false

def anyOverlong : List Datum → Bool
  | [] => false
  | d :: rest => d.isOverlong || anyOverlong rest

def anyOverlongEntry : List (Scalar × Datum) → Bool
  | [] => false
  | (k, v) :: rest => isOverlong (.scalar k) || v.isOverlong || anyOverlongEntry rest

end

/-- A datum as it is written alone, if it can be written. -/
def written? (d : Datum) : Except Misfit String :=
  if d.isOverlong then .error (.number .unwritable) else .ok d.written

/-- What the word under a key stands for, or a default where there is none. -/
def wordAt {α : Type} (d : Datum) (key kind : String) (read : String → Option α) (default : α) :
    Except Misfit α :=
  match d.get? key with
  | none => .ok default
  | some word =>
    match word.text?.bind read with
    | some a => .ok a
    | none => .error (.noWord word.shown kind)

def path : Datum → Except Misfit String
  | .scalar (.text s) => .ok s
  | .scalar (.bytes _) => .error .octetPath
  | .scalar (.date _) => .error (.noPath "date")
  | .scalar (.moment _) => .error (.noPath "datetime")
  | d => .error (.noPath d.kind)

/-- The instant that a datum names. -/
def instant : Datum → Except Misfit Calendar.Instant
  | .scalar (.text s) => (Calendar.readInstant s).mapError .calendar
  | d => .error (.lacks d.kind "endswith")

end FeeWatch.Datum
