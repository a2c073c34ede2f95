import FeeWatch.Yaml.Fault
import FeeWatch.Yaml.Cursor

/-! Plain scalars, which stand without quotes.

A plain scalar goes on over the ends of lines as long as its lines are indented, and
ends at a comment, at a colon with a blank after it and, inside brackets, at marks of
the collection. -/
namespace FeeWatch.Yaml

/-- Marks of collections in brackets. -/
def isFlowMark (c : Char) : Bool := c == ',' || c == '[' || c == ']' || c == '{' || c == '}'

/-- Whether a plain scalar ends before the character at the front. -/
def endsPlain (flow : Bool) : List Char → Bool
  | [] => true
  | x :: rest =>
    isSpace (some x) ||
      (x == ':' && (isSpace rest.head? || (flow && rest.head?.any isFlowMark))) ||
      (flow && (isFlowMark x || x == '?'))

/-- The length of the text of a plain scalar on this line. -/
def plainLength (flow : Bool) : List Char → Nat
  | [] => 0
  | x :: rest => if endsPlain flow (x :: rest) then 0 else plainLength flow rest + 1

/-- Whether a character starts a plain scalar. -/
def startsPlain (flow : Bool) (c : Cursor) : Bool :=
  match c.peek with
  | none => false
  | some x =>
    let marks := "-?:,[]\x7b\x7d#&*!|>\"%@".toList ++ [Text.apostrophe, Char.ofNat 0x60]
    !(isSpace (some x) || marks.contains x) ||
      (!isSpace (c.peekAt 1) && (x == '-' || (!flow && (x == '?' || x == ':'))))

/-- Ends of lines and spaces before the next text of a plain scalar; none when documents are
separated here. -/
def plainBreaks : Nat → Cursor → Option (List Char) × Cursor
  | 0, c => (some [], c)
  | fuel + 1, c =>
    let c := c.skip (· == ' ')
    match c.lineBreak with
    | ([], c) => (some [], c)
    | (b, c) =>
      if c.isSeparator then (none, c)
      else
        let (more, c) := plainBreaks fuel c
        (more.map (b ++ ·), c)

/-- What joins the texts of a plain scalar, and whether a line ends; nothing when it ends here. -/
def plainSpaces (c : Cursor) : List Char × Bool × Cursor :=
  let (blanks, c) := c.run (· == ' ')
  match c.lineBreak with
  | ([], c) => (blanks, false, c)
  | (b, c) =>
    if c.isSeparator then ([], true, c)
    else
      let (breaks, c) := plainBreaks (c.rest.length + 1) c
      match breaks with
      | none => ([], true, c)
      | some breaks =>
        (if b != ['\n'] then b ++ breaks else if breaks.isEmpty then [' '] else breaks, true, c)

/-- A plain scalar from the next text on: the text, and whether a line ended after the last of
it. `spaces` joins it to what was read before. -/
def plainFrom (flow : Bool) (indent : Int) :
    Nat → Cursor → List Char → List Char → Bool → List Char × Bool × Cursor
  | 0, c, text, _, ended => (text, ended, c)
  | fuel + 1, c, text, spaces, ended =>
    let n := if c.peek = some '#' then 0 else plainLength flow c.rest
    if n = 0 then (text, ended, c)
    else
      let text := text ++ spaces ++ c.rest.take n
      let (spaces, ended, c) := plainSpaces (c.forward n)
      if spaces.isEmpty || c.peek == some '#' || (!flow && (c.column : Int) < indent) then
        (text, ended, c)
      else plainFrom flow indent fuel c text spaces ended

/-- A plain scalar, and whether a line ended after it. -/
def plainScalar (flow : Bool) (parent : Int) (c : Cursor) : List Char × Bool × Cursor :=
  plainFrom flow (parent + 1) (c.rest.length + 1) c [] [] false

end FeeWatch.Yaml
