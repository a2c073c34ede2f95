import FeeWatch.Files
import FeeWatch.Json.Reader

/-! Numeric addresses of hosts.

A host between brackets must be a version 6 address, or a later one that starts
with `v`. A version 6 address is eight groups of up to four hexadecimal digits;
one run of zero groups may be left out between two colons, and the last two groups
may be written as a version 4 address, four numbers up to 255 without leading
zeros. -/
namespace FeeWatch.Alert.Host

/-- One of the four numbers of a version 4 address. -/
def isOctet (cs : List Char) : Bool :=
  !cs.isEmpty && cs.length ≤ 3 && cs.all Char.isDigit &&
    (cs == ['0'] || cs.head? != some '0') && Text.digitsValue cs ≤ 255

/-- A version 4 address. -/
def isFour (cs : List Char) : Bool :=
  let parts := Files.splitAt '.' cs
  parts.length == 4 && parts.all isOctet

/-- A group of a version 6 address. -/
def isGroup (cs : List Char) : Bool :=
  !cs.isEmpty && cs.length ≤ 4 && cs.all fun c => (Json.hexValue? c).isSome

/-- Groups at one end of an address, of which only an empty one alone may be missing. -/
def sideCount (parts : List (List Char)) (outer : Option (List Char)) : Option Nat :=
  if outer == some [] then if parts.length = 1 then some 0 else none
  else if parts.all isGroup then some parts.length else none

/-- The groups of a version 6 address, split at the colons. -/
def areGroups (parts : List (List Char)) : Bool :=
  let inner := (parts.drop 1).dropLast
  match inner.idxOf? [] with
  | none => parts.length == 8 && parts.all isGroup
  | some i =>
    let high := parts.take (i + 1)
    let low := parts.drop (i + 2)
    !(inner.drop (i + 1)).contains [] && parts.length ≤ 9 &&
      match sideCount high high.head?, sideCount low low.getLast? with
      | some m, some n => m + n < 8
      | _, _ => false

/-- A version 6 address, without a zone. -/
def isSixPlain (cs : List Char) : Bool :=
  let parts := Files.splitAt ':' cs
  if parts.length < 3 then false
  else
    let last := parts.getLast?.getD []
    if last.contains '.' then
      isFour last && areGroups (parts.dropLast ++ [['0'], ['0']])
    else areGroups parts

/-- A version 6 address; a zone may follow after a percent sign. -/
def isSix (cs : List Char) : Bool :=
  if cs.contains '/' then false
  else
    let zone := cs.dropWhile (· != '%')
    let address := cs.take (cs.length - zone.length)
    isSixPlain address && (zone.isEmpty || (1 < zone.length && !(zone.drop 1).contains '%'))

/-- An address of a later version: `v`, hexadecimal digits, a point, and more. -/
def isLater (cs : List Char) : Bool :=
  match cs with
  | 'v' :: rest =>
    let digits := rest.takeWhile fun c => (Json.hexValue? c).isSome
    match rest.drop digits.length with
    | '.' :: more => !digits.isEmpty && !more.isEmpty && !more.contains '\n'
    | _ => false
  | _ => false

end FeeWatch.Alert.Host
