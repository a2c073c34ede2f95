import FeeWatch.Yaml.Cursor
import FeeWatch.Yaml.Fault

/-! Scalars between quotes.

Between apostrophes only a doubled apostrophe is special; between double quotes a
backslash starts an escape. The ends of lines are folded: one becomes a space, and
of several the first is dropped. -/
namespace FeeWatch.Yaml

/-- The character that a letter after a backslash stands for. -/
def escapeLetter? (c : Char) : Option Char :=
  match c with
  | '0' => some (Char.ofNat 0)
  | 'a' => some (Char.ofNat 0x07)
  | 'b' => some (Char.ofNat 0x08)
  | 't' => some '\t'
  | '\t' => some '\t'
  | 'n' => some '\n'
  | 'v' => some (Char.ofNat 0x0b)
  | 'f' => some (Char.ofNat 0x0c)
  | 'r' => some '\r'
  | 'e' => some (Char.ofNat 0x1b)
  | ' ' => some ' '
  | '"' => some '"'
  | '\\' => some '\\'
  | '/' => some '/'
  | 'N' => some (Char.ofNat 0x85)
  | '_' => some (Char.ofNat 0xa0)
  | 'L' => some (Char.ofNat 0x2028)
  | 'P' => some (Char.ofNat 0x2029)
  | _ => none

/-- The number of hexadecimal digits after a letter. -/
def escapeWidth? (c : Char) : Option Nat :=
  match c with
  | 'x' => some 2
  | 'u' => some 4
  | 'U' => some 8
  | _ => none

/-- The code that hexadecimal digits write. -/
def hexCode? (cs : List Char) : Option Nat :=
  cs.foldlM (fun n c => (Json.hexValue? c).map (n * 16 + ·)) 0

/-- Blank lines inside quotes, and the blanks before the next text. -/
def quotedBreaks : Nat → Cursor → Except Fault (List Char × Cursor)
  | 0, _ => .error .malformed
  | fuel + 1, c =>
    if c.isSeparator then .error .malformed
    else
      let c := c.skip fun x => x == ' ' || x == '\t'
      match c.lineBreak with
      | ([], c) => .ok ([], c)
      | (b, c) => (quotedBreaks fuel c).map fun (more, c) => (b ++ more, c)

/-- Blanks inside quotes, and the ends of lines after them. -/
def quotedSpaces (c : Cursor) : Except Fault (List Char × Cursor) :=
  let (blanks, c) := c.run fun x => x == ' ' || x == '\t'
  if c.peek.isNone then .error .malformed
  else
    match c.lineBreak with
    | ([], c) => .ok (blanks, c)
    | (b, c) =>
      (quotedBreaks (c.rest.length + 1) c).map fun (breaks, c) =>
        (if b != ['\n'] then b ++ breaks else if breaks.isEmpty then [' '] else breaks, c)

/-- The character of a code. Half of a pair, which no text here can hold, becomes the replacement
character. -/
def charOf (n : Nat) : Char := if n.isValidChar then Char.ofNat n else Char.ofNat 0xfffd

/-- An escape after its backslash. -/
def quotedEscape (c : Cursor) : Except Fault (List Char × Cursor) :=
  match c.peek with
  | none => .error .malformed
  | some x =>
    match escapeLetter? x, escapeWidth? x with
    | some y, _ => .ok ([y], c.step)
    | none, some width =>
      let c := c.step
      let digits := c.rest.take width
      match hexCode? digits with
      | none => .error .malformed
      | some n =>
        if digits.length < width then .error .malformed
        else if 0x80000000 ≤ n then .error .farCharacter
        else if 0x110000 ≤ n then .error .character
        else .ok ([charOf n], c.forward width)
    | none, none =>
      match c.lineBreak with
      | ([], _) => .error .malformed
      | (_, c) => quotedBreaks (c.rest.length + 1) c

/-- The rest of a scalar after its opening quote. `text` holds what was read so far. -/
def quotedFrom (double : Bool) : Nat → Cursor → List Char → Except Fault (List Char × Cursor)
  | 0, _, _ => .error .malformed
  | fuel + 1, c, text =>
    let quote := if double then '"' else Text.apostrophe
    match c.peek with
    | none => .error .malformed
    | some x =>
      if !double && x == quote && c.peekAt 1 == some quote then
        quotedFrom double fuel (c.forward 2) (text ++ [quote])
      else if x == quote then .ok (text, c.step)
      else if double && x == '\\' then
        match quotedEscape c.step with
        | .error f => .error f
        | .ok (more, c) => quotedFrom double fuel c (text ++ more)
      else if x == ' ' || x == '\t' || isBreak x then
        match quotedSpaces c with
        | .error f => .error f
        | .ok (more, c) => quotedFrom double fuel c (text ++ more)
      else
        let special (y : Char) : Bool :=
          y == '"' || y == '\\' || y == Text.apostrophe || isSpace (some y)
        let (run, after) := c.step.run fun y => !special y
        quotedFrom double fuel after (text ++ x :: run)

/-- A scalar between quotes, from its opening quote on. -/
def quotedScalar (double : Bool) (c : Cursor) : Except Fault (List Char × Cursor) :=
  quotedFrom double (c.rest.length + 1) c.step []

end FeeWatch.Yaml
