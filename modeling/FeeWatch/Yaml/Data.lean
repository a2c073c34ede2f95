import FeeWatch.Datum.Members
import FeeWatch.Datum.Shared
import FeeWatch.Text.Lines
import FeeWatch.Yaml.Node
import FeeWatch.Yaml.Value

/-! The data of YAML texts.

The nodes of a document become shared data: an alias stands for the very collection
that its anchor named. A collection is filled after the collections around it, so it
may stand inside itself. Maps take in the maps that their merge keys name, and their
own entries go before those. -/
namespace FeeWatch.Yaml

open FeeWatch.Datum (Part Cell)

namespace Graph

/-- The text of a node: its own, or that of the value under the key that marks the value of a
map. -/
def text (g : Graph) : Nat → Nat → Except Fault String
  | 0, _ => .error .tooDeep
  | fuel + 1, n =>
    match (g.node n).content with
    | .scalar s => .ok s
    | .list _ => .error .malformed
    | .map entries =>
      match entries.find? fun (key, _) => (g.node key).kind == .value with
      | some (_, value) => g.text fuel value
      | none => .error .malformed

def scalar (g : Graph) (n : Nat) : Except Fault Scalar := do
  let text ← g.text (g.size + 1) n
  match g.node n with
  | ⟨.time, .map _⟩ => .error .mapTime
  | node => readScalar node.kind text

end Graph

/-! ### Building -/

/-- Data that are being built from nodes. The collection of a node has the node's number; those of
pairs come after the nodes. -/
structure Builder where
  nodes : Graph
  cells : Array Cell
  /-- What nodes have become. -/
  parts : Array (Option Part)
  /-- Collections that are yet to be filled, the last one first. -/
  pending : List Nat
deriving Repr, Inhabited

namespace Builder

/-- A part of the building of a document's data. -/
abbrev Build := StateT Builder (Except Fault)

def node (n : Nat) : Build Node := do pure ((← get).nodes.node n)

/-- The entries of a node that must be a map. -/
def entries (n : Nat) : Build (List (Nat × Nat)) := do
  match (← node n).content with
  | .map es => pure es
  | _ => throw .malformed

def change (n : Nat) (f : Node → Node) : Build Unit :=
  modify fun b => { b with nodes := b.nodes.change n f }

/-- Takes into the map of a node the maps that its merge keys name, from an entry on. `merged` holds
the entries that were taken in. The first of several maps goes before the later ones. -/
def flatten : Nat → Nat → Nat → List (Nat × Nat) → Build Unit
  | 0, _, _, _ => throw .tooDeep
  | fuel + 1, n, index, merged => do
    let es ← entries n
    match es[index]? with
    | none => unless merged.isEmpty do change n ({ · with content := .map (merged ++ es) })
    | some (key, value) =>
      match (← node key).kind with
      | .merge =>
        change n ({ · with content := .map (es.eraseIdx index) })
        let maps ← match (← node value).content with
          | .map _ => pure [value]
          | .list items => pure items
          | .scalar _ => throw .malformed
        let taken ← maps.mapM fun m => do
          let _ ← entries m
          flatten fuel m 0 []
          entries m
        flatten fuel n index (merged ++ taken.reverse.flatten)
      | .value =>
        change key ({ · with kind := .text })
        flatten fuel n (index + 1) merged
      | _ => flatten fuel n (index + 1) merged

/-- The number of entries of all maps. -/
def entryCount (g : Graph) : Nat :=
  g.foldl (fun n node => match node.content with
    | .map es => n + es.length
    | _ => n) 0

/-- The entries of a node with merge keys resolved. -/
def flatEntries (n : Nat) : Build (List (Nat × Nat)) := do
  let _ ← entries n
  let count := entryCount (← get).nodes + 4
  flatten (count * count) n 0 []
  entries n

/-- The collection of a kind before it is filled, if the kind is one of collections. -/
def empty? : Kind → Option Cell
  | .list => some (.list [])
  | .orderedMap => some (.list [])
  | .pairs => some (.list [])
  | .map => some (.map [])
  | .set => some (.set [])
  | _ => none

/-- Whether data can be of a kind. -/
def isBuilt : Kind → Bool
  | .merge => false
  | .value => false
  | .other _ => false
  | _ => true

/-- What a node becomes. -/
def part (n : Nat) : Build Part := do
  let b ← get
  match b.parts[n]?.join with
  | some p => pure p
  | none =>
    let node := b.nodes.node n
    let p ← match empty? node.kind with
      | some cell =>
        modify fun b => { b with cells := b.cells.set! n cell, pending := n :: b.pending }
        pure (Part.place n)
      | none =>
        if isBuilt node.kind then Part.scalar <$> b.nodes.scalar n else throw .malformed
    modify fun b => { b with parts := b.parts.set! n (some p) }
    pure p

/-- The key that a node becomes; a collection is none. -/
def key (n : Nat) : Build Scalar := do
  match ← part n with
  | .scalar s => pure s
  | .place _ => throw .malformed

def entry : Nat × Nat → Build (Scalar × Part)
  | (k, value) => do
    let k ← key k
    pure (k, ← part value)

/-- A pair, from a map with one entry. -/
def pair (n : Nat) : Build Part := do
  match ← entries n with
  | [(first, second)] =>
    let first ← part first
    let cell : Cell := .pair first (← part second)
    let number := (← get).cells.size
    modify fun b => { b with cells := b.cells.push cell }
    pure (.place number)
  | _ => throw .malformed

def collection (n : Nat) : Build Cell := do
  let node ← node n
  match node.kind, node.content with
  | .list, .list items => .list <$> items.mapM part
  | .map, _ => do pure (.map (Entries.ofList (← (← flatEntries n).mapM entry)))
  | .set, _ => do
    let entries := Entries.ofList (← (← flatEntries n).mapM entry)
    pure (.set (Datum.Members.inOrder (entries.map (·.1))))
  | .orderedMap, .list items => .list <$> items.mapM pair
  | .pairs, .list items => .list <$> items.mapM pair
  | _, _ => throw .malformed

/-- Fills the collections that are yet to be filled, the first one first, and then those that came
up with them. -/
def fillAll : Nat → Build Unit
  | 0 => pure ()
  | fuel + 1 => do
    match (← get).pending.reverse with
    | [] => pure ()
    | pending =>
      modify ({ · with pending := [] })
      for n in pending do
        let cell ← collection n
        modify fun b => { b with cells := b.cells.set! n cell }
      fillAll fuel

end Builder

def Graph.data (g : Graph) (root : Nat) : Except Fault Shared := do
  let start : Builder := ⟨g, .replicate g.size (.map []), .replicate g.size none, []⟩
  let build : Builder.Build Part := do
    let root ← Builder.part root
    Builder.fillAll (g.size + 1)
    pure root
  let (root, b) ← build.run start
  .ok ⟨b.cells, root⟩

/-- The data of a text; nothing is null. Line ends of all kinds are taken as line feeds. -/
def read (s : String) : Except Fault Shared := do
  match ← Graph.ofText (Text.unifyEnds s.toList) with
  | (none, _) => .ok ⟨#[], .scalar .null⟩
  | (some root, g) => g.data root

end FeeWatch.Yaml
