import FeeWatch.Json.Reader

/-! A place in a YAML text.

Lines end at line feeds and at three rarer characters; a byte order mark takes no
column. -/
namespace FeeWatch.Yaml

/-- Whether a line ends at a character. -/
def isBreak (c : Char) : Bool :=
  c == '\n' || c.toNat == 0x85 || c.toNat == 0x2028 || c.toNat == 0x2029

/-- Whether a line ends at a character or at the end of the text. -/
def endsLine (c : Option Char) : Bool := c.all isBreak

/-- A blank, the end of a line or the end of the text. -/
def isSpace (c : Option Char) : Bool := c.all fun c => c == ' ' || c == '\t' || isBreak c

/-- A space, the end of a line or the end of the text. -/
def isGap (c : Option Char) : Bool := c.all fun c => c == ' ' || isBreak c

/-- ASCII letters and digits, the hyphen and the underscore. -/
def isWordChar (c : Char) : Bool := c.isAlphanum || c == '-' || c == '_'

/-- The characters from a place on, and where the place is. -/
structure Cursor where
  rest : List Char
  index : Nat
  line : Nat
  column : Nat
deriving Repr, Inhabited

namespace Cursor

/-- The first place of a text. -/
def start (cs : List Char) : Cursor := ⟨cs, 0, 0, 0⟩

/-- The next character. -/
def peek (c : Cursor) : Option Char := c.rest.head?

/-- The character at a distance. -/
def peekAt (c : Cursor) (n : Nat) : Option Char := c.rest[n]?

/-- The place after the next character. -/
def step (c : Cursor) : Cursor :=
  match c.rest with
  | [] => c
  | x :: rest =>
    if isBreak x then ⟨rest, c.index + 1, c.line + 1, 0⟩
    else ⟨rest, c.index + 1, c.line, if x.toNat == 0xfeff then c.column else c.column + 1⟩

/-- The place after a number of characters. -/
def forward : Nat → Cursor → Cursor
  | 0, c => c
  | n + 1, c => forward n c.step

/-- The characters of a class, and the place after them. -/
def run (p : Char → Bool) (c : Cursor) : List Char × Cursor :=
  let cs := c.rest.takeWhile p
  (cs, c.forward cs.length)

/-- The place after the characters of a class. -/
def skip (p : Char → Bool) (c : Cursor) : Cursor := (c.run p).2

/-- The end of a line as it counts in a text, if a line ends here, and the place after it. -/
def lineBreak (c : Cursor) : List Char × Cursor :=
  match c.peek with
  | some x =>
    if isBreak x then ([if x.toNat < 0x100 then '\n' else x], c.step) else ([], c)
  | none => ([], c)

/-- The place after the rest of a comment. -/
def skipComment (c : Cursor) : Cursor :=
  if c.peek = some '#' then c.skip fun x => !isBreak x else c

/-- Whether a mark of three characters between documents stands here. -/
def isMark (mark : Char) (c : Cursor) : Bool :=
  c.rest.take 3 == [mark, mark, mark] && isSpace (c.peekAt 3)

/-- Whether documents are separated here. -/
def isSeparator (c : Cursor) : Bool := c.isMark '-' || c.isMark '.'

end Cursor
end FeeWatch.Yaml
