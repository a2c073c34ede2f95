import FeeWatch.Text.Quoted

/-! A tree of files.

The program works on a tree of folders and texts below one root, from a working
folder in it. Paths are texts: names joined by slashes, where `.` stands for the
same folder and `..` for the one above, and a path that starts with the root's own
text starts there. Other absolute paths lie outside the tree.

A path is followed name by name, and what it leads through must be folders: `a/../b`
leads nowhere unless there is a folder `a`. -/
namespace FeeWatch

/-- What stands at a path. -/
inductive Node where
  | folder
  | text (s : String)
deriving DecidableEq, Repr, Inhabited

structure Files where
  /-- The absolute path of the root. -/
  root : String
  /-- The names that lead from the root to the working folder. -/
  here : List String
  /-- What stands in the tree, by the names that lead there from the root. -/
  nodes : List (List String × Node)
deriving Repr, Inhabited

namespace Files

/-- Why a path cannot be used. Most faults name the path. -/
inductive Fault where
  | absent (path : String)
  /-- Something stands where a folder was to be made. -/
  | taken (path : String)
  /-- A part of the path is a text, not a folder. -/
  | noFolder (path : String)
  /-- A folder stands where a text was expected. -/
  | isFolder (path : String)
  /-- The path, or a name in it, is longer than the system takes. -/
  | tooLong (path : String)
  /-- The path holds the character of code zero. -/
  | hasZero
deriving DecidableEq, Repr, Inhabited

/-- What is wrong, in words, with the number that the system gives it. -/
def Fault.message : Fault → String
  | .absent path => s!"[Errno 2] No such file or directory: {Text.quoted path}"
  | .taken path => s!"[Errno 17] File exists: {Text.quoted path}"
  | .noFolder path => s!"[Errno 20] Not a directory: {Text.quoted path}"
  | .isFolder path => s!"[Errno 21] Is a directory: {Text.quoted path}"
  | .tooLong path => s!"[Errno 36] File name too long: {Text.quoted path}"
  | .hasZero => "embedded null byte"

/-! ### Paths -/

/-- The parts of a text between the occurrences of a character. -/
def splitAt (mark : Char) : List Char → List (List Char)
  | [] => [[]]
  | c :: rest =>
    match splitAt mark rest with
    | [] => [[c]]
    | part :: parts => if c = mark then [] :: part :: parts else (c :: part) :: parts

/-- The names in a path; empty ones and `.` do not count. -/
def names (path : List Char) : List String :=
  ((splitAt '/' path).map String.ofList).filter fun name => name != "" && name != "."

/-- The place outside the tree that is nearest to its root. -/
def outside : List String := ["/"]

/-- One name on from a place. The root lies in a folder outside the tree. -/
def step (at_ : List String) (name : String) : List String :=
  if name = "." then at_
  else if name = ".." then if at_.isEmpty || at_ == outside then outside else at_.dropLast
  else at_ ++ [name]

/-- The place where a path starts, and the rest of the path. -/
def origin (f : Files) (path : String) : List String × List Char :=
  let cs := path.toList
  let root := f.root.toList
  if root.isPrefixOf cs then ([], cs.drop root.length)
  else if cs.head? = some '/' then (outside, cs)
  else (f.here, cs)

/-- Where a path leads by its names alone. -/
def locate (f : Files) (path : String) : List String :=
  let (from_, rest) := f.origin path
  (names rest).foldl step from_

/-- The slashes at the front of an absolute path; two of them are kept. -/
def lead (cs : List Char) : String :=
  match (cs.takeWhile (· == '/')).length with
  | 0 => ""
  | 2 => "//"
  | _ => "/"

/-- The path of names after a lead. -/
def joined (lead : String) (names : List String) : String :=
  let path := lead ++ "/".intercalate names
  if path = "" then "." else path

def plain (path : String) : String := joined (lead path.toList) (names path.toList)

/-- The path of the folder that holds a path. -/
def parent (path : String) : String := joined (lead path.toList) (names path.toList).dropLast

/-- A name below a path; the empty name is the path itself. -/
def below (path name : String) : String :=
  if name = "" then plain path
  else if plain path = "." then name
  else if (names path.toList).isEmpty then plain path ++ name
  else plain path ++ "/" ++ name

/-- The absolute path of names from the root. -/
def absolute (f : Files) (at_ : List String) : String := "/".intercalate (f.root :: at_)

/-! ### The tree -/

/-- What stands at names from the root, which itself is a folder, as is what holds it. -/
def node? (f : Files) (at_ : List String) : Option Node :=
  if at_.isEmpty || at_ == outside then some .folder else (f.nodes.find? (·.1 == at_)).map (·.2)

/-- Sets what stands at names from the root. -/
def set (f : Files) (at_ : List String) (n : Node) : Files :=
  { f with nodes := f.nodes.filter (·.1 != at_) ++ [(at_, n)] }

/-- Takes away what stands at names from the root. -/
def erase (f : Files) (at_ : List String) : Files :=
  { f with nodes := f.nodes.filter (·.1 != at_) }

/-- The proper beginnings of a list of names, the shortest first, without the empty one. -/
def ancestors (at_ : List String) : List (List String) :=
  (List.range at_.length).drop 1 |>.map at_.take

/-- Adds folders where nothing stands yet. -/
def addFolders (f : Files) (folders : List (List String)) : Files :=
  folders.foldl (fun f a => if (f.node? a).isSome then f else f.set a .folder) f

/-! ### Following paths -/

def nameLimit : Nat := 255

def pathLimit : Nat := 4095

/-- All names in a path; a slash at the end asks for a folder, as a name `.` there does. -/
def allNames (path : List Char) : List String :=
  let names := ((splitAt '/' path).map String.ofList).filter (· != "")
  if path.getLast? = some '/' then names ++ ["."] else names

/-- Follows names from a place. Whatever they lead through must be a folder; at the last place
nothing need stand. -/
def walk (f : Files) (path : String) : List String → List String → Except Fault (List String)
  | at_, [] => .ok at_
  | at_, name :: rest =>
    match f.node? at_ with
    | none => .error (.absent path)
    | some (.text _) => .error (.noFolder path)
    | some .folder =>
      if nameLimit < name.utf8ByteSize then .error (.tooLong path)
      else walk f path (step at_ name) rest

/-- The place that a path leads to. The empty path leads nowhere. -/
def find (f : Files) (path : String) : Except Fault (List String) :=
  if path.toList.any (·.toNat == 0) then .error .hasZero
  else if path = "" then .error (.absent path)
  else if pathLimit < path.utf8ByteSize then .error (.tooLong path)
  else
    let (from_, rest) := f.origin path
    f.walk path from_ (allNames rest)

/-- What stands at a path in its plain form. Nothing stands where a path leads nowhere, but a path
that is too long is a fault. -/
def stands (f : Files) (path : String) : Except Fault (Option Node) :=
  match f.find (plain path) with
  | .ok at_ => .ok (f.node? at_)
  | .error (.tooLong path) => .error (.tooLong path)
  | .error _ => .ok none

/-- Whether something stands at a path. -/
def contains (f : Files) (path : String) : Bool := f.stands path matches .ok (some _)

/-! ### Making and reading -/

/-- Makes the folder of a name in a folder that stands. -/
def makeOne (f : Files) (path : String) : Except Fault Files :=
  match (names path.toList).getLast? with
  | none => .error (.taken path)
  | some name => do
    let at_ ← f.find path
    if name = ".." || (f.node? at_).isSome then .error (.taken path)
    else .ok (f.set at_ .folder)

/-- Takes a folder that is there for one that was to be made. -/
def settle (f : Files) (path : String) : Except Fault Files → Except Fault Files
  | .ok g => .ok g
  | .error .hasZero => .error .hasZero
  | .error fault => do
    match ← f.stands path with
    | some .folder => .ok f
    | _ => .error fault

/-- Makes a folder, and before it those that hold it; `depth` bounds their number. -/
def makeAll : Nat → Files → String → Except Fault Files
  | 0, f, path => f.settle path (f.makeOne path)
  | depth + 1, f, path =>
    match f.makeOne path with
    | .error (.absent at_) =>
      if at_ = path && parent path != path then do
        let f ← makeAll depth f (parent path)
        f.settle path (f.makeOne path)
      else .error (.absent at_)
    | made => f.settle path made

/-- Makes the folder at a path and those that hold it. A folder that is there stays. -/
def makeFolder (f : Files) (path : String) : Except Fault Files :=
  makeAll (names path.toList).length f (plain path)

/-- Makes the folder at a path in one that stands. A folder that is there stays. -/
def addFolder (f : Files) (path : String) : Except Fault Files :=
  f.settle (plain path) (f.makeOne (plain path))

def read (f : Files) (path : String) : Except Fault String := do
  let at_ ← f.find path
  match f.node? at_ with
  | some (.text s) => .ok s
  | some .folder => .error (.isFolder path)
  | none => .error (.absent path)

/-- Sets the text at a path, in a folder that stands. -/
def write (f : Files) (path : String) (s : String) : Except Fault Files := do
  let at_ ← f.find path
  match f.node? at_ with
  | some .folder => .error (.isFolder path)
  | _ => .ok (f.set at_ (.text s))

/-- Puts a text at a path, with the folders it needs. -/
def place (f : Files) (path : String) (s : String) : Files :=
  let at_ := f.locate path
  (f.addFolders (ancestors at_)).set at_ (.text s)

/-- Makes an empty text at a path if nothing stands there. -/
def touch (f : Files) (path : String) : Except Fault Files := do
  let at_ ← f.find path
  if (f.node? at_).isSome then .ok f else f.write path ""

/-- The text at a path, empty where there is none. -/
def textAt (f : Files) (path : String) : String :=
  match f.node? (f.locate path) with
  | some (.text s) => s
  | _ => ""

/-- Moves what stands at a path to another, in the place of what stands there. -/
def move (f : Files) (source target : String) : Files :=
  match f.node? (f.locate source) with
  | some n => (f.erase (f.locate source)).set (f.locate target) n
  | none => f

/-- Whether a place lies in the tree. -/
def isInside (at_ : List String) : Bool := at_.head? != outside.head?

/-- The texts of the tree by their paths from the root. -/
def texts (f : Files) : List (String × String) :=
  f.nodes.filterMap fun (at_, n) => match n with
    | .text s => if isInside at_ then some ("/".intercalate at_, s) else none
    | .folder => none

/-- The texts where no text stood in an earlier tree. -/
def newTexts (f earlier : Files) : List (String × String) :=
  let old := earlier.texts.map (·.1)
  f.texts.filter fun (path, _) => !old.contains path

/-- The folders of the tree by their paths from the root. -/
def folders (f : Files) : List String :=
  f.nodes.filterMap fun (at_, n) => match n with
    | .folder => if isInside at_ then some ("/".intercalate at_) else none
    | .text _ => none

end Files
end FeeWatch
