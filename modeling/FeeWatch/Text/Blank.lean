/-! White space and trimming.

Two notions of blank are in use: the ASCII blanks that separate number texts
(`isPlainBlank`), and white space of any script (`isBlank`). `trim` removes a
class of characters from both ends. -/
namespace FeeWatch.Text

/-- Tab, line feed, vertical tab, form feed, carriage return and space. -/
def isPlainBlank (c : Char) : Bool :=
  let n := c.toNat
  n == 0x20 || (0x9 ≤ n && n ≤ 0xd)

/-- White space of any script (Unicode 14), the separators 0x1c to 0x1f included. -/
def isBlank (c : Char) : Bool :=
  let n := c.toNat
  isPlainBlank c || (0x1c ≤ n && n ≤ 0x1f) || n == 0x85 || n == 0xa0 || n == 0x1680 ||
    (0x2000 ≤ n && n ≤ 0x200a) || n == 0x2028 || n == 0x2029 || n == 0x202f || n == 0x205f ||
    n == 0x3000

/-- Blanks around a number: the plain ones, and white space outside ASCII. -/
def isNumberBlank (c : Char) : Bool :=
  isPlainBlank c || (0x80 ≤ c.toNat && isBlank c)

/-- Removes the characters of a class from both ends. -/
def trim (drop : Char → Bool) (cs : List Char) : List Char :=
  ((cs.dropWhile drop).reverse.dropWhile drop).reverse

theorem isBlank_of_isPlainBlank {c : Char} (h : isPlainBlank c = true) : isBlank c = true := by
  simp [isBlank, h]

end FeeWatch.Text
