import FeeWatch.Json.Writer
import FeeWatch.Yaml.Kind

/-! Writing data as YAML.

Maps and lists have one entry or item a line. A map that a map holds stands two
blanks deeper than its key, a list that a map holds stands under its key, and empty
ones are written in brackets. A text is written as it is when it reads as itself,
between apostrophes when it is printable, and else between quotes with escapes.
What settings never hold is written in the nearest form that they can: bytes as a
text, sets and pairs as lists, a collection inside itself as null. -/
namespace FeeWatch.Yaml

/-! ### Scalars -/

/-- A character that a plain text may hold. -/
def isPlainChar (c : Char) : Bool :=
  c.isAlphanum || c == '_' || c == '-' || c == '.' || c == '/' || c == ':'

/-- Whether a text reads as itself when it is written as it is. -/
def isPlain (s : String) : Bool :=
  let cs := s.toList
  cs.head?.any Char.isAlpha && cs.all isPlainChar && cs.getLast? != some ':' &&
    Kind.ofPlain s == .text

/-- Whether a character is printable ASCII. -/
def isVisible (c : Char) : Bool := 0x20 ≤ c.toNat && c.toNat < 0x7f

/-- A text between apostrophes, in which an apostrophe is doubled. -/
def apostrophed (cs : List Char) : List Char :=
  let mark := Text.apostrophe
  mark :: (cs.flatMap fun c => if c == mark then [mark, mark] else [c]) ++ [mark]

/-- One character between quotes. -/
def escapeChar (c : Char) : List Char :=
  if c == '"' || c == '\\' then ['\\', c]
  else if isVisible c then [c]
  else Text.escapeCode c

def writeText (s : String) : List Char :=
  let cs := s.toList
  if isPlain s then cs
  else if cs.all isVisible then apostrophed cs
  else '"' :: cs.flatMap escapeChar ++ ['"']

/-- A double; its text needs a point to be read back as one. -/
def writeFloat : Number.Binary → List Char
  | .nan => ".nan".toList
  | .infinite s => (if s then "-.inf" else ".inf").toList
  | x =>
    let cs := x.text.toList
    let digits := cs.takeWhile (· != 'e')
    (if digits.contains '.' then digits else digits ++ ['.', '0']) ++ cs.drop digits.length

def writeScalar : Scalar → List Char
  | .null => "null".toList
  | .bool b => (if b then "true" else "false").toList
  | .int n => (toString n).toList
  | .float x => writeFloat x
  | .text s => writeText s
  | .date d => Calendar.Instant.dateText d
  | .moment m => m.text.toList
  | s => writeText s.written

/-! ### Collections -/

/-- Lines two blanks deeper. -/
def deeper (lines : List (List Char)) : List (List Char) := lines.map fun line => ' ' :: ' ' :: line

def itemLines : List (List Char) → List (List Char)
  | [] => []
  | first :: rest => ('-' :: ' ' :: first) :: deeper rest

mutual

def lines : Datum → List (List Char)
  | .scalar s => [writeScalar s]
  | .list [] => [['[', ']']]
  | .list items => listLines items
  | .map [] => [['{', '}']]
  | .map entries => mapLines entries
  | .set members => members.map fun s => '-' :: ' ' :: writeScalar s
  | .pair first second => itemLines (lines first) ++ itemLines (lines second)
  | .again _ => [writeScalar .null]

def listLines : List Datum → List (List Char)
  | [] => []
  | d :: rest => itemLines (lines d) ++ listLines rest

def mapLines : List (Scalar × Datum) → List (List Char)
  | [] => []
  | (k, v) :: rest => entryLines (writeScalar k ++ [':']) v ++ mapLines rest

def entryLines (key : List Char) : Datum → List (List Char)
  | .scalar s => [key ++ ' ' :: writeScalar s]
  | .list [] => [key ++ [' ', '[', ']']]
  | .list items => key :: listLines items
  | .map [] => [key ++ [' ', '{', '}']]
  | .map entries => key :: deeper (mapLines entries)
  | .set members => key :: members.map fun s => '-' :: ' ' :: writeScalar s
  | .pair first second => key :: itemLines (lines first) ++ itemLines (lines second)
  | .again _ => [key ++ ' ' :: writeScalar .null]

end

/-- A datum as YAML, each line with its end. -/
def write (d : Datum) : String := String.ofList ((lines d).flatMap fun line => line ++ ['\n'])

end FeeWatch.Yaml
