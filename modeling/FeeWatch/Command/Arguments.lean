import FeeWatch.Text.Digit

/-! The arguments of the command line.

A switch may be written by any beginning of its name that no other switch shares.
The value of a switch that takes one is the next argument, or follows an equals sign;
an argument that looks like a switch is no value, unless it is a negative number or
holds a blank. After a bare `--` every argument is a value. -/
namespace FeeWatch.Command

inductive Switch where
  | help
  | config
  | once
  | checkProvider
  | verbose
deriving DecidableEq, Repr, Inhabited

def Switch.named : List (String × Switch) :=
  [("-h", .help), ("--help", .help), ("--config", .config), ("--once", .once),
    ("--check-provider", .checkProvider), ("--verbose", .verbose)]

/-- What a run is asked to do. -/
structure Arguments where
  /-- The path of the settings document. -/
  config : Option String := none
  /-- Run one cycle. -/
  once : Bool := false
  /-- Check the provider. -/
  checkProvider : Bool := false
  /-- Print on several lines. -/
  verbose : Bool := false
deriving DecidableEq, Repr, Inhabited

namespace Arguments

inductive Request where
  | run (a : Arguments)
  | help
deriving DecidableEq, Repr, Inhabited

/-- Why arguments are refused. -/
inductive Fault where
  /-- The beginning of several switches. -/
  | ambiguous (word : String)
  /-- A switch that needs a value has none. -/
  | missingValue
  /-- A switch that takes no value has one. -/
  | needlessValue
  /-- An argument that belongs to no switch. -/
  | unexpected
deriving DecidableEq, Repr, Inhabited

/-! ### Words -/

inductive Word where
  | value (s : String)
  | switch (s : Switch) (given : Option String)
  /-- The short switch for help, with letters after it that should be short switches too. -/
  | letters (rest : List Char)
  | unknown
  /-- A bare `--`. -/
  | dashes
deriving DecidableEq, Repr, Inhabited

/-- The part of an argument before the first equals sign, and the part after it. -/
def splitGiven (cs : List Char) : String × Option String :=
  let name := cs.takeWhile (· != '=')
  match cs.drop name.length with
  | [] => (String.ofList name, none)
  | _ :: given => (String.ofList name, some (String.ofList given))

/-- Characters without the line feed that ends them. -/
def chomp (cs : List Char) : List Char := if cs.getLast? = some '\n' then cs.dropLast else cs

/-- Whether characters after a dash are a number, with or without a point. -/
def isNumber (cs : List Char) : Bool :=
  let cs := chomp cs
  let isDigit (c : Char) : Bool := (Text.digitValue? c).isSome
  let whole := cs.takeWhile isDigit
  match cs.drop whole.length with
  | [] => !whole.isEmpty
  | '.' :: fraction => !fraction.isEmpty && fraction.all isDigit
  | _ => false

/-- What an argument is that is not a switch and starts with a dash. -/
def plainWord (s : String) : Word :=
  let cs := s.toList
  if isNumber (cs.drop 1) || cs.contains ' ' then .value s else .unknown

/-- The switches whose names begin with a text. -/
def beginning (text : String) : List Switch :=
  (Switch.named.filter fun (name, _) => name.startsWith text).map (·.2)

/-- What an argument that starts with two dashes is, by the beginning of a switch. -/
def longWord (s : String) : Except Fault Word :=
  let (text, given) := splitGiven s.toList
  match beginning text with
  | [] => .ok (plainWord s)
  | [switch] => .ok (.switch switch given)
  | _ => .error (.ambiguous s)

/-- What an argument before a bare `--` is. -/
def word (s : String) : Except Fault Word :=
  match s.toList with
  | '-' :: next :: rest =>
    let (text, given) := splitGiven s.toList
    match Switch.named.lookup s, Switch.named.lookup text with
    | some switch, _ => .ok (.switch switch none)
    | none, some switch =>
      if next = 'h' then .ok (.letters (given.getD "").toList) else .ok (.switch switch given)
    | none, none =>
      if next = '-' then longWord s
      else if next = 'h' then .ok (.letters rest)
      else .ok (plainWord s)
  | _ => .ok (.value s)

def words : List String → Except Fault (List Word)
  | [] => .ok []
  | "--" :: rest => .ok (.dashes :: rest.map .value)
  | s :: rest => do
    let w ← word s
    let ws ← words rest
    .ok (w :: ws)

/-! ### Reading -/

/-- Whether letters after the short switch for help are that switch again. -/
def areHelp (letters : List Char) : Bool := !letters.isEmpty && letters.all (· == 'h')

/-- What words ask for. The flag tells that a word before them belongs to no switch. -/
def ofWords (a : Arguments) (stray : Bool) : List Word → Except Fault Request
  | [] => if stray then .error .unexpected else .ok (.run a)
  | .switch .help none :: _ => .ok .help
  | .letters rest :: _ => if areHelp rest then .ok .help else .error .needlessValue
  | .switch .config (some path) :: rest => ofWords { a with config := some path } stray rest
  | .switch .config none :: .value path :: rest =>
    ofWords { a with config := some path } stray rest
  | .switch .config none :: _ => .error .missingValue
  | .switch .once none :: rest => ofWords { a with once := true } stray rest
  | .switch .checkProvider none :: rest => ofWords { a with checkProvider := true } stray rest
  | .switch .verbose none :: rest => ofWords { a with verbose := true } stray rest
  | .switch _ (some _) :: _ => .error .needlessValue
  | _ :: rest => ofWords a true rest

def read (args : List String) : Except Fault Request := (words args).bind (ofWords {} false)

end Arguments
end FeeWatch.Command
