/-! Names in letters and digits (RFC 3492).

A text of any characters is written with the characters of ASCII alone: first those
of its own, then, after a hyphen, where the others go. These are taken in the order
of their codes; each is written as the number of places that are passed over since
the one before it, in base thirty-six with thresholds that follow the numbers so far. -/
namespace FeeWatch.Text.Punycode

/-- The character of a digit below thirty-six. -/
def digit (n : Nat) : Char := Char.ofNat (if n < 26 then 0x61 + n else 0x30 + n - 26)

/-- The threshold of a place of a number. -/
def threshold (place bias : Nat) : Nat := min 26 (max 1 (place - bias))

/-- The digits of a number, from a place on; the fuel bounds how many. -/
def digits (bias : Nat) : Nat → Nat → Nat → List Char
  | 0, _, _ => []
  | fuel + 1, place, n =>
    let t := threshold place bias
    if n < t then [digit n]
    else digit (t + (n - t) % (36 - t)) :: digits bias fuel (place + 36) ((n - t) / (36 - t))

/-- The bias that a number asks for. -/
def settle : Nat → Nat → Nat → Nat
  | 0, place, _ => place
  | fuel + 1, place, n =>
    if 455 < n then settle fuel (place + 36) (n / 35) else place + 36 * n / (n + 38)

/-- The bias after a number, which is the first one or a later one; `count` characters are written
then. -/
def adapt (n count : Nat) (first : Bool) : Nat :=
  let n := if first then n / 700 else n / 2
  settle (n + 1) 0 (n + n / count)

/-- What is known between two characters that are written. -/
structure State where
  /-- The places passed over so far. -/
  passed : Nat
  bias : Nat
  /-- How many characters are written. -/
  count : Nat
  written : List Char
deriving Repr, Inhabited

/-- Goes through a text once, and writes where the character of a code goes. -/
def place (basic code : Nat) (s : State) (c : Char) : State :=
  if c.toNat < code then { s with passed := s.passed + 1 }
  else if c.toNat = code then
    ⟨0, adapt s.passed (s.count + 1) (s.count == basic), s.count + 1,
      s.written ++ digits s.bias (s.passed + 1) 36 s.passed⟩
  else s

/-- Writes where the characters of some codes go, the least code first. -/
def placeAll (cs : List Char) (basic : Nat) : Nat → List Nat → State → State
  | _, [], s => s
  | last, code :: codes, s =>
    let s := { s with passed := s.passed + (code - last) * (s.count + 1) }
    let s := cs.foldl (place basic code) s
    placeAll cs basic (code + 1) codes { s with passed := s.passed + 1 }

/-- A text in letters and digits. -/
def encode (cs : List Char) : List Char :=
  let basic := cs.filter (·.toNat < 0x80)
  let others := ((cs.map Char.toNat).filter (0x80 ≤ ·)).mergeSort.eraseDups
  let start : State := ⟨0, 72, basic.length, if basic.isEmpty then [] else basic ++ ['-']⟩
  (placeAll cs basic.length 0x80 others start).written

end FeeWatch.Text.Punycode
