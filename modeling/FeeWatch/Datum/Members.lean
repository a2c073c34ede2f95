import FeeWatch.Datum.Basic

/-! The order in which the members of a set stand.

A set keeps its members in a table whose size is a power of two. The rank of a member
says where it is looked for first; when that slot is taken, the slots after it are
tried, and then others that the rank chooses. The members stand in the order of their
slots. Only numbers have ranks that are the same in every run: sets with other members
keep the order in which these came. -/
namespace FeeWatch.Datum.Members

/-- The prime to which numbers are reduced for their ranks. -/
def modulus : Nat := Number.twoTo 61 - 1

/-- The rank of a whole number that is reduced already. -/
def wrap (negative : Bool) (residue : Nat) : Nat :=
  if !negative then residue
  else if residue = 1 then Number.twoTo 64 - 2
  else (Number.twoTo 64 - residue) % Number.twoTo 64

def infinityResidue : Nat := 314159

/-- The rank of a number. Equal numbers have one rank, whatever their kinds. -/
def rank? : Number → Option Nat
  | .int n => some (wrap (decide (n < 0)) (n.natAbs % modulus))
  | .float (.finite negative m e) =>
    some (wrap negative (m * Number.twoTo (e % 61).toNat % modulus))
  | .float (.infinite negative) => some (wrap negative infinityResidue)
  | .float .nan => none

/-- A table with a slot for each member or nothing. -/
abbrev Slots := List (Option Scalar)

/-- The size of the table of a number of members: eight for up to four, else more than twice as many
as there are members. -/
def size (count : Nat) : Nat := if count ≤ 4 then 8 else grow count 8
where
  /-- Doubles a size until it is more than twice a number. -/
  grow : Nat → Nat → Nat
    | 0, size => size
    | fuel + 1, size => if 2 * count < size then size else grow fuel (2 * size)

/-- How many slots after the first one are tried, where the table has that many. -/
def neighbours : Nat := 9

/-- The slot of a member: the first free one of those that are tried from a slot on. -/
def slot (slots : Slots) : Nat → Nat → Nat → Nat
  | 0, i, _ => i
  | fuel + 1, i, rank =>
    let tried := if i + neighbours < slots.length then neighbours + 1 else 1
    match ((slots.drop i).take tried).findIdx? Option.isNone with
    | some k => i + k
    | none =>
      let rank := rank / 32
      slot slots fuel ((i * 5 + 1 + rank) % slots.length) rank

/-- A table with one more member. -/
def insert (slots : Slots) (member : Scalar × Nat) : Slots :=
  let (s, rank) := member
  slots.set (slot slots (slots.length + 64) (rank % slots.length) rank) (some s)

/-- The members of a set in the order in which they stand, by the order in which they came. -/
def inOrder (members : List Scalar) : List Scalar :=
  let ranked := members.mapM fun s => (s.number?.bind rank?).map fun rank => (s, rank)
  match ranked with
  | some ranked =>
    (ranked.foldl insert (List.replicate (size members.length) none)).filterMap id
  | none => members

end FeeWatch.Datum.Members
