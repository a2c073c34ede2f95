import FeeWatch.Files
import FeeWatch.Text.Compose
import FeeWatch.Text.Direction
import FeeWatch.Text.Punycode
import FeeWatch.Text.Quoted

/-! Names of hosts outside ASCII.

Such a name is sent with each of its labels in letters and digits, after a mark that
says so. A label is prepared first: silent characters are left out, small letters are
taken for their variants, and letters are joined with their marks. It must have fewer
than sixty-four characters in the end, but at least one. -/
namespace FeeWatch.Alert.Name

/-- Why a name cannot be sent. -/
inductive Fault where
  /-- A label has no characters, or too many. -/
  | size
  /-- A character must not stand in a name. -/
  | reserved (c : Char)
  /-- Letters of both directions stand in a label. -/
  | directions
  /-- A label has letters from right to left, but not at both of its ends. -/
  | ends
  /-- A label outside ASCII starts with the mark of one that was encoded. -/
  | mark
deriving DecidableEq, Repr, Inhabited

def Fault.message : Fault → String
  | .size => "label empty or too long"
  | .reserved c => s!"Invalid character {Text.quoted c.toString}"
  | .directions => "Violation of BIDI requirement 2"
  | .ends => "Violation of BIDI requirement 3"
  | .mark => "Label starts with ACE prefix"

/-- The mark of a label that was encoded. -/
def mark : List Char := "xn--".toList

/-- The characters between which labels stand. -/
def isDot (c : Char) : Bool := c == '.' || [0x3002, 0xff0e, 0xff61].contains c.toNat

/-- Checks the directions of the letters of a label. -/
def checkDirections (label : List Char) : Except Fault Unit :=
  if label.any Text.isLeftward then
    if label.any Text.isRightward then .error .directions
    else if label.head?.all Text.isLeftward && label.getLast?.all Text.isLeftward then .ok ()
    else .error .ends
  else .ok ()

/-- A label that is prepared. -/
def prepare (label : List Char) : Except Fault (List Char) := do
  let label := Text.unify (label.filter fun c => !Text.isSilent c)
  match label.find? Text.isReserved with
  | some c => .error (.reserved c)
  | none => (checkDirections label).map fun _ => label

/-- Checks the size of a label in ASCII. -/
def checkSize (label : List Char) : Except Fault Unit :=
  if 0 < label.length ∧ label.length < 64 then .ok () else .error .size

/-- Whether all characters of a text are ASCII. -/
def isAscii (cs : List Char) : Bool := cs.all (·.toNat < 0x80)

/-- Checks that a label can be sent. -/
def checkLabel (label : List Char) : Except Fault Unit := do
  if isAscii label then checkSize label
  else
    let label ← prepare label
    if isAscii label then checkSize label
    else if mark.isPrefixOf label then .error .mark
    else checkSize (mark ++ Text.Punycode.encode label)

/-- Checks that a name can be sent. The label after the last dot may be empty. -/
def check (name : String) : Except Fault Unit :=
  let cs := name.toList
  if isAscii cs then .ok ()
  else
    let labels := Files.splitAt '.' (cs.map fun c => if isDot c then '.' else c)
    let labels := if labels.getLast? = some [] then labels.dropLast else labels
    labels.forM checkLabel

end FeeWatch.Alert.Name
