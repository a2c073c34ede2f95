import FeeWatch.Yaml.Quoted

/-! Block scalars: the lines below a mark, with the indentation that they share taken
away. After `|` lines stay lines; after `>` they are folded, but for lines that
start with a blank. -/
namespace FeeWatch.Yaml

/-- What happens to the ends of lines after the last text. -/
inductive Chomp where
  /-- All are dropped. -/
  | strip
  /-- The first is kept. -/
  | clip
  /-- All are kept. -/
  | keep
deriving DecidableEq, Repr

/-- The sign that chooses what happens to the last ends of lines. -/
def Chomp.ofSign? (c : Option Char) : Option Chomp :=
  if c = some '+' then some .keep else if c = some '-' then some .strip else none

/-- A digit that states the indentation; zero is refused. -/
def blockDigit (c : Cursor) : Except Fault (Option Nat × Cursor) :=
  match c.peek with
  | some x =>
    if x.isDigit then
      if x == '0' then .error .malformed else .ok (some (Text.digit x), c.step)
    else .ok (none, c)
  | none => .ok (none, c)

/-- A sign that chooses what happens to the last ends of lines. -/
def blockSign (c : Cursor) : Option Chomp × Cursor :=
  match Chomp.ofSign? c.peek with
  | some chomp => (some chomp, c.step)
  | none => (none, c)

/-- Sign and digit after the mark, in either order. -/
def blockHeader (c : Cursor) : Except Fault (Chomp × Option Nat × Cursor) := do
  let (first, c) := blockSign c
  let (digit, c) ← blockDigit c
  let (last, c) := if first.isNone && digit.isSome then blockSign c else (none, c)
  if isGap c.peek then .ok ((first.or last).getD .clip, digit, c) else .error .malformed

/-- The rest of the line of a mark or a directive, which may be a comment. -/
def restOfLine (c : Cursor) : Except Fault Cursor :=
  let c := (c.skip (· == ' ')).skipComment
  if endsLine c.peek then .ok c.lineBreak.2 else .error .malformed

/-- The place after spaces, up to a column. -/
def skipTo (column : Nat) (c : Cursor) : Cursor :=
  c.forward (min (column - c.column) (c.rest.takeWhile (· == ' ')).length)

/-- Empty lines before a line of the block. -/
def blockBreaks (indent : Nat) : Nat → Cursor → List Char × Cursor
  | 0, c => ([], c)
  | fuel + 1, c =>
    let c := skipTo indent c
    match c.lineBreak with
    | ([], c) => ([], c)
    | (b, c) =>
      let (more, c) := blockBreaks indent fuel c
      (b ++ more, c)

/-- Empty lines before the first line of a block that states no indentation, and the greatest
column of their blanks. -/
def blockStart : Nat → Nat → Cursor → List Char × Nat × Cursor
  | 0, widest, c => ([], widest, c)
  | fuel + 1, widest, c =>
    let c := c.skip (· == ' ')
    let widest := max widest c.column
    match c.lineBreak with
    | ([], c) => ([], widest, c)
    | (b, c) =>
      let (more, widest, c) := blockStart fuel widest c
      (b ++ more, widest, c)

def startsBlank (c : Cursor) : Bool := c.peek == some ' ' || c.peek == some '\t'

/-- The lines of a block: the text, the end of its last line, and the empty lines after it. -/
def blockLines (folded : Bool) (indent : Nat) :
    Nat → Cursor → List Char → List Char → List Char × List Char × List Char × Cursor
  | 0, c, text, breaks => (text, [], breaks, c)
  | fuel + 1, c, text, breaks =>
    let blank := startsBlank c
    let (line, c) := c.run fun x => !isBreak x
    let text := text ++ breaks ++ line
    let (b, c) := c.lineBreak
    let (breaks, c) := blockBreaks indent (c.rest.length + 1) c
    if c.column == indent && c.peek.isSome then
      let join :=
        if folded && b == ['\n'] && !blank && !startsBlank c then
          if breaks.isEmpty then [' '] else []
        else b
      blockLines folded indent fuel c (text ++ join) breaks
    else (text, b, breaks, c)

/-- A block scalar from its mark on, below a parent of an indentation. -/
def blockScalar (folded : Bool) (parent : Int) (c : Cursor) :
    Except Fault (List Char × Cursor) := do
  let (chomp, digit, c) ← blockHeader c.step
  let c ← restOfLine c
  let least := (max (parent + 1) 1).toNat
  let fuel := c.rest.length + 1
  let (breaks, indent, c) : List Char × Nat × Cursor := match digit with
    | none =>
      let (breaks, widest, c) := blockStart fuel 0 c
      (breaks, max least widest, c)
    | some n =>
      let indent := least + n - 1
      let (breaks, c) := blockBreaks indent fuel c
      (breaks, indent, c)
  let (text, last, breaks, c) :=
    if c.column == indent && c.peek.isSome then blockLines folded indent fuel c [] breaks
    else ([], [], breaks, c)
  let tail := match chomp with
    | .strip => []
    | .clip => last
    | .keep => last ++ breaks
  .ok (text ++ tail, c)

end FeeWatch.Yaml
