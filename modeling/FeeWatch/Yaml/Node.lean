import FeeWatch.Yaml.Kind
import FeeWatch.Yaml.Lexer

/-! YAML nodes: the structure of a document before its data are built.

A node is a scalar, a list or a map, and has a kind from its tag or its form. Nodes
are known by their numbers, for an alias is the very node that its anchor named: a
node may stand at several places, and even inside itself. -/
namespace FeeWatch.Yaml

/-- What a node holds. Its parts are nodes, given by their numbers. -/
inductive Content where
  | scalar (text : String)
  | list (items : List Nat)
  | map (entries : List (Nat × Nat))
deriving Repr, Inhabited

structure Node where
  kind : Kind
  content : Content
deriving Repr, Inhabited

/-- The nodes of a document by their numbers. -/
abbrev Graph := Array Node

namespace Graph

def node (g : Graph) (n : Nat) : Node := g[n]?.getD ⟨.null, .scalar ""⟩

def change (g : Graph) (n : Nat) (f : Node → Node) : Graph := g.modify n f

end Graph

/-! ### Reading -/

/-- A document that is being read. -/
structure Reader where
  lexer : Lexer
  nodes : Graph
  /-- The nodes that anchors name. -/
  anchors : List (String × Nat)
  /-- How many collections are open. -/
  depth : Nat
  /-- The beginnings of tags by their handles. -/
  handles : List (String × String)
deriving Repr, Inhabited

namespace Reader

/-- A part of the reading of a document. -/
abbrev Part := StateT Reader (Except Fault)

def peek : Part Token := do
  let (t, lexer) ← (← get).lexer.peek
  modify fun r => { r with lexer }
  pure t

/-- Goes on after the next token. -/
def skip : Part Unit := modify fun r => { r with lexer := r.lexer.drop }

/-- Whether a token comes next. -/
def faces (t : Token) : Part Bool := (· == t) <$> peek

/-- Takes a token if it comes next. -/
def take? (t : Token) : Part Bool := do
  if ← faces t then
    skip
    pure true
  else pure false

def add (anchor : Option String) (n : Node) : Part Nat := do
  let number := (← get).nodes.size
  let names := anchor.toList.map (·, number)
  modify fun r => { r with nodes := r.nodes.push n, anchors := names ++ r.anchors }
  pure number

def addEmpty : Part Nat := add none ⟨.null, .scalar ""⟩

/-- Sets what a node holds. -/
def fill (n : Nat) (content : Content) : Part Nat := do
  modify fun r => { r with nodes := r.nodes.change n ({ · with content }) }
  pure n

/-! ### What stands before a node -/

/-- What stands before a node. -/
structure Properties where
  anchor : Option String
  /-- The tag in full; `!` states that the form decides. -/
  tag : Option String
deriving Repr, Inhabited

namespace Properties

/-- Whether nothing stands before the node. -/
def isEmpty (p : Properties) : Bool := p.anchor.isNone && p.tag.isNone

/-- The tag, if it decides the kind. -/
def deciding (p : Properties) : Option String := if p.tag = some "!" then none else p.tag

/-- The kind of a collection that is a list or a map by its form. -/
def kindOr (p : Properties) (k : Kind) : Kind := (p.deciding.map Kind.ofTag).getD k

def scalarKind (p : Properties) (plain : Bool) (text : String) : Kind :=
  match p.deciding with
  | some tag => .ofTag tag
  | none => if plain || p.tag.isSome then .ofPlain text else .text

def scalar (p : Properties) (plain : Bool) (text : String) : Node :=
  ⟨p.scalarKind plain text, .scalar text⟩

end Properties

/-- An anchor, if one comes next. -/
def anchor? : Part (Option String) := do
  match ← peek with
  | .anchor name =>
    skip
    pure (some name)
  | _ => pure none

/-- A tag, if one comes next: its handle and the rest. -/
def tag? : Part (Option (Option String × String)) := do
  match ← peek with
  | .tag handle suffix =>
    skip
    pure (some (handle, suffix))
  | _ => pure none

/-- A tag in full, if its handle is known. -/
def fullTag (tag : Option String × String) : Part String := do
  match tag with
  | (none, suffix) => pure suffix
  | (some handle, suffix) =>
    match (← get).handles.lookup handle with
    | some lead => pure (lead ++ suffix)
    | none => throw .malformed

/-- Anchor and tag before a node, in either order. -/
def properties : Part Properties := do
  match ← anchor? with
  | some anchor => pure ⟨some anchor, ← (← tag?).mapM fullTag⟩
  | none =>
    match ← tag? with
    | none => pure ⟨none, none⟩
    | some tag =>
      let anchor ← anchor?
      pure ⟨anchor, some (← fullTag tag)⟩

/-- Refuses an anchor that names a node already. -/
def checkNew (p : Properties) : Part Unit := do
  let names := (← get).anchors
  if p.anchor.any fun a => (names.lookup a).isSome then throw .malformed

/-! ### Collections -/

/-- The most collections that may lie in each other. -/
def depthLimit : Nat := 480

/-- Opens a collection; what is read in it fills the node. -/
def inside (p : Properties) (k : Kind) (read : Part Content) : Part Nat := do
  checkNew p
  let n ← add p.anchor ⟨k, .list []⟩
  if depthLimit < (← get).depth then throw .tooDeep
  modify fun r => { r with depth := r.depth + 1 }
  let content ← read
  modify fun r => { r with depth := r.depth - 1 }
  fill n content

/-- A collection that starts with a token. -/
def opened (p : Properties) (k : Kind) (read : Part Content) : Part Nat :=
  inside p k do
    skip
    read

/-- A node for a scalar that is left out after its properties. -/
def leftOut (p : Properties) : Part Nat := do
  if p.isEmpty then throw .malformed
  checkNew p
  add p.anchor (p.scalar true "")

/-- Whether a token ends a value in a block. -/
def endsValue (t : Token) : Bool := t == .key || t == .value || t == .blockEnd

mutual

/-- The node that starts here. Lists and maps by indentation need `block`; a list that is not
indented needs `flush`. -/
def read : Nat → Bool → Bool → Part Nat
  | 0, _, _ => throw .malformed
  | fuel + 1, block, flush => do
    match ← peek with
    | .alias name =>
      skip
      match (← get).anchors.lookup name with
      | some n => pure n
      | none => throw .malformed
    | _ =>
      let p ← properties
      match ← peek with
      | .blockEntry =>
        if flush then inside p (p.kindOr .list) (readFlush fuel []) else leftOut p
      | .scalar plain text =>
        skip
        checkNew p
        add p.anchor (p.scalar plain text)
      | .flowListStart => opened p (p.kindOr .list) (readFlowList fuel true [])
      | .flowMapStart => opened p (p.kindOr .map) (readFlowMap fuel true [])
      | .listStart =>
        if block then opened p (p.kindOr .list) (readList fuel []) else leftOut p
      | .mapStart => if block then opened p (p.kindOr .map) (readMap fuel []) else leftOut p
      | _ => leftOut p

/-- The items of an indented list. -/
def readList : Nat → List Nat → Part Content
  | 0, _ => throw .malformed
  | fuel + 1, done => do
    if ← take? .blockEntry then
      let t ← peek
      if t == .blockEntry || t == .blockEnd then readList fuel ((← addEmpty) :: done)
      else readList fuel ((← read fuel true false) :: done)
    else if ← take? .blockEnd then pure (.list done.reverse)
    else throw .malformed

/-- The items of a list that is not indented more than the key before it. -/
def readFlush : Nat → List Nat → Part Content
  | 0, _ => throw .malformed
  | fuel + 1, done => do
    if ← take? .blockEntry then
      let t ← peek
      if t == .blockEntry || endsValue t then readFlush fuel ((← addEmpty) :: done)
      else readFlush fuel ((← read fuel true false) :: done)
    else pure (.list done.reverse)

/-- A key or a value in a block, after its mark. -/
def readPart : Nat → Part Nat
  | 0 => throw .malformed
  | fuel + 1 => do if endsValue (← peek) then addEmpty else read fuel true true

/-- The entries of an indented map. -/
def readMap : Nat → List (Nat × Nat) → Part Content
  | 0, _ => throw .malformed
  | fuel + 1, done => do
    if ← take? .key then
      let key ← readPart fuel
      let value ← if ← take? .value then readPart fuel else addEmpty
      readMap fuel ((key, value) :: done)
    else if ← take? .blockEnd then pure (.map done.reverse)
    else throw .malformed

/-- A key in brackets after its mark. `close` ends the collection. -/
def readFlowKey : Nat → Token → Part Nat
  | 0, _ => throw .malformed
  | fuel + 1, close => do
    let t ← peek
    if t == .value || t == .flowEntry || t == close then addEmpty else read fuel false false

/-- A value in brackets, if its mark comes next. -/
def readFlowValue : Nat → Token → Part Nat
  | 0, _ => throw .malformed
  | fuel + 1, close => do
    if ← take? .value then
      let t ← peek
      if t == .flowEntry || t == close then addEmpty else read fuel false false
    else addEmpty

/-- The items of a list in brackets; a key makes a map of one entry. -/
def readFlowList : Nat → Bool → List Nat → Part Content
  | 0, _, _ => throw .malformed
  | fuel + 1, first, done => do
    if ← take? .flowListEnd then pure (.list done.reverse)
    else
      if !first then
        if !(← take? .flowEntry) then throw .malformed
      if ← faces .key then
        let n ← opened ⟨none, none⟩ .map do
          let key ← readFlowKey fuel .flowListEnd
          let value ← readFlowValue fuel .flowListEnd
          pure (.map [(key, value)])
        readFlowList fuel false (n :: done)
      else if ← take? .flowListEnd then pure (.list done.reverse)
      else readFlowList fuel false ((← read fuel false false) :: done)

/-- The entries of a map in brackets. -/
def readFlowMap : Nat → Bool → List (Nat × Nat) → Part Content
  | 0, _, _ => throw .malformed
  | fuel + 1, first, done => do
    if ← take? .flowMapEnd then pure (.map done.reverse)
    else
      if !first then
        if !(← take? .flowEntry) then throw .malformed
      if ← take? .key then
        let key ← readFlowKey fuel .flowMapEnd
        let value ← readFlowValue fuel .flowMapEnd
        readFlowMap fuel false ((key, value) :: done)
      else if ← take? .flowMapEnd then pure (.map done.reverse)
      else
        let key ← read fuel false false
        readFlowMap fuel false ((key, ← addEmpty) :: done)

end

/-! ### Documents -/

/-- The handles of tags when no directive names them. -/
def defaultHandles : List (String × String) := [("!", "!"), ("!!", Kind.lead)]

def isDirective (t : Token) : Bool :=
  match t with
  | .version _ => true
  | .tagHandle .. => true
  | .reserved => true
  | _ => false

/-- Whether a token cannot belong to a document's node. -/
def isOutside (t : Token) : Bool :=
  isDirective t || t == .documentStart || t == .documentEnd || t == .streamEnd

/-- The directives before a document: at most one version, of the first kind, and handles that
are named once. -/
def directives : Nat → Bool → List (String × String) → Part (List (String × String))
  | 0, _, handles => pure handles
  | fuel + 1, versioned, handles => do
    match ← peek with
    | .version major =>
      skip
      if versioned || major != 1 then throw .malformed
      directives fuel true handles
    | .tagHandle handle lead =>
      skip
      if (handles.lookup handle).isSome then throw .malformed
      directives fuel versioned ((handle, lead) :: handles)
    | .reserved =>
      skip
      directives fuel versioned handles
    | _ => pure handles

/-- Passes over marks of ends. -/
def skipEnds : Nat → Part Unit
  | 0 => pure ()
  | fuel + 1 => do if ← take? .documentEnd then skipEnds fuel

/-- The start of a document that is marked, with its directives; none at the end of the text. -/
def startMarked (fuel : Nat) : Part Bool := do
  skipEnds fuel
  if ← faces .streamEnd then pure false
  else
    let handles ← directives fuel false []
    if !(← take? .documentStart) then throw .malformed
    modify fun r => { r with handles := handles ++ defaultHandles }
    pure true

/-- The end of a document, after which there must be no other. -/
def finish (fuel : Nat) : Part Unit := do
  let _ ← take? .documentEnd
  if ← startMarked fuel then throw .malformed

/-- The only document of a text, by the number of its node; none if the text has no document. -/
def document (fuel : Nat) : Part (Option Nat) := do
  let t ← peek
  if isDirective t || t == .documentStart || t == .streamEnd then
    if ← startMarked fuel then
      let n ← if isOutside (← peek) then addEmpty else read fuel true false
      finish fuel
      pure (some n)
    else pure none
  else
    let n ← read fuel true false
    finish fuel
    pure (some n)

end Reader

/-- The nodes of a text's only document, and the number of the document's own node, if there is
one. -/
def Graph.ofText (cs : List Char) : Except Fault (Option Nat × Graph) :=
  let start : Reader := ⟨.ofText cs, #[], [], 0, Reader.defaultHandles⟩
  ((Reader.document (8 * cs.length + 16)).run start).map fun (n, r) => (n, r.nodes)

end FeeWatch.Yaml
