import FeeWatch.Yaml.Block
import FeeWatch.Yaml.Token

/-! Names in a YAML text: anchors, tags and directives. -/
namespace FeeWatch.Yaml

/-- Whether a character may stand in an address. -/
def isAddressChar (c : Char) : Bool :=
  c.isAlphanum || "-;/?:@&=+$,_.!~*()[]%".toList.contains c || c == Text.apostrophe

/-- The name of an anchor or an alias, after its mark. -/
def anchorName (c : Cursor) : Except Fault (String × Cursor) :=
  let (name, c) := c.run isWordChar
  let fits := isSpace c.peek ||
    c.peek.any fun x => "?:,]\x7d%@".toList.contains x || x.toNat == 0x60
  if name.isEmpty || !fits then .error .malformed else .ok (String.ofList name, c)

/-- The octets of escapes of the form `%XX`. -/
def addressOctets : Nat → Cursor → Except Fault (List UInt8 × Cursor)
  | 0, _ => .error .malformed
  | fuel + 1, c =>
    if c.peek = some '%' then
      match c.peekAt 1, c.peekAt 2 with
      | some a, some b =>
        match hexCode? [a, b] with
        | some n =>
          (addressOctets fuel (c.forward 3)).map fun (more, c) => (UInt8.ofNat n :: more, c)
        | none => .error .malformed
      | _, _ => .error .malformed
    else .ok ([], c)

/-- An address up to a character that cannot stand in one. -/
def addressFrom : Nat → Cursor → List Char → Except Fault (List Char × Cursor)
  | 0, _, _ => .error .malformed
  | fuel + 1, c, text =>
    if c.peek = some '%' then
      match addressOctets (c.rest.length + 1) c with
      | .error f => .error f
      | .ok (octets, c) =>
        match String.fromUTF8? ⟨octets.toArray⟩ with
        | some s => addressFrom fuel c (text ++ s.toList)
        | none => .error .malformed
    else
      let (run, c) := c.run fun x => isAddressChar x && x != '%'
      if run.isEmpty then
        if text.isEmpty then .error .malformed else .ok (text, c)
      else if c.peek = some '%' then addressFrom fuel c (text ++ run)
      else .ok (text ++ run, c)

/-- An address of at least one character. -/
def address (c : Cursor) : Except Fault (String × Cursor) :=
  (addressFrom (c.rest.length + 1) c []).map fun (cs, c) => (String.ofList cs, c)

/-- The handle of a tag: `!`, or a word between two of them. -/
def tagHandle (c : Cursor) : Except Fault (String × Cursor) :=
  if c.peek = some '!' then
    let c := c.step
    if c.peek = some ' ' then .ok ("!", c)
    else
      let (word, c) := c.run isWordChar
      if c.peek = some '!' then
        .ok (String.ofList ('!' :: word ++ ['!']), c.step)
      else .error .malformed
  else .error .malformed

/-- Whether a second `!` comes before the next gap. -/
def hasHandle (c : Cursor) : Bool :=
  (c.rest.drop 1).takeWhile (fun x => !isGap (some x)) |>.contains '!'

def tag (c : Cursor) : Except Fault (Token × Cursor) := do
  let (token, c) : Token × Cursor ←
    if c.peekAt 1 = some '<' then do
      let (suffix, c) ← address (c.forward 2)
      if c.peek = some '>' then .ok (.tag none suffix, c.step) else .error .malformed
    else if isSpace (c.peekAt 1) then .ok (.tag none "!", c.step)
    else if hasHandle c then do
      let (handle, c) ← tagHandle c
      let (suffix, c) ← address c
      .ok (.tag (some handle) suffix, c)
    else do
      let (suffix, c) ← address c.step
      .ok (.tag (some "!") suffix, c)
  if isGap c.peek then .ok (token, c) else .error .malformed

def versionNumber (c : Cursor) : Except Fault (Nat × Cursor) :=
  let (digits, c) := c.run Char.isDigit
  if digits.isEmpty then .error .malformed
  else if Number.digitLimit < digits.length then .error (.number (.tooLong digits.length))
  else .ok (Text.digitsValue digits, c)

/-- The version after the name of its directive. -/
def version (c : Cursor) : Except Fault (Token × Cursor) := do
  let (major, c) ← versionNumber (c.skip (· == ' '))
  if c.peek != some '.' then .error .malformed
  let (_, c) ← versionNumber c.step
  if isGap c.peek then .ok (.version major, c) else .error .malformed

/-- Handle and beginning after the name of a directive for tags. -/
def tagDirective (c : Cursor) : Except Fault (Token × Cursor) := do
  let (handle, c) ← tagHandle (c.skip (· == ' '))
  if c.peek != some ' ' then .error .malformed
  let (lead, c) ← address (c.skip (· == ' '))
  if isGap c.peek then .ok (.tagHandle handle lead, c) else .error .malformed

/-- A directive after its mark, with the rest of its line. -/
def directive (c : Cursor) : Except Fault (Token × Cursor) := do
  let (name, c) := c.run isWordChar
  if name.isEmpty || !isGap c.peek then .error .malformed
  let (token, c) ←
    if name == "YAML".toList then version c
    else if name == "TAG".toList then tagDirective c
    else .ok (.reserved, c.skip fun x => !isBreak x)
  let c ← restOfLine c
  .ok (token, c)

end FeeWatch.Yaml
