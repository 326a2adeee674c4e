import RuleGate.Text.Dictionary
import RuleGate.Text.Lines

/-!
A tree of files and directories, seen from a current directory. A path is walked name by name; a
text is read at its end. Main definitions: `FileSystem.read`, and `FileSystem.filesIn`, the names of
the files directly in a directory.
-/

namespace RuleGate

/-- Why a file cannot be read. -/
inductive FileError where
  | notFound
  | notADirectory
  | isADirectory
  | nameTooLong
  | nulInPath
  | notUnicode
  deriving DecidableEq, Repr

def FileError.message : FileError → String
  | .notFound => "No such file or directory (os error 2)"
  | .notADirectory => "Not a directory (os error 20)"
  | .isADirectory => "Is a directory (os error 21)"
  | .nameTooLong => "File name too long (os error 36)"
  | .nulInPath => "file name contained an unexpected NUL byte"
  | .notUnicode => "stream did not contain valid UTF-8"

/-- A file with its bytes, or a directory with what it holds. Of entries with one name the first
counts. -/
inductive FileNode where
  | file (content : ByteArray)
  | directory (entries : List (String × FileNode))
  deriving Inhabited

namespace FileNode

def entries : FileNode → List (String × FileNode)
  | .file _ => []
  | .directory entries => entries

def content? : FileNode → Option ByteArray
  | .file content => some content
  | .directory _ => none

def entry? (node : FileNode) (name : String) : Option FileNode :=
  node.entries.lookup name

def holdsFile (node : FileNode) (name : String) : Bool :=
  ((node.entry? name).bind content?).isSome

/-- The names in a directory, each once, in ascending order. -/
def names (node : FileNode) : List String :=
  (Dictionary.ofList (node.entries.map fun e => (e.1, ()))).entries.map Prod.fst

/-- The tree with a node put under a row of names. Directories on the way to it come into being. -/
def put (new : FileNode) : List String → FileNode → FileNode
  | [], _ => new
  | name :: rest, node =>
    let below := put new rest ((node.entry? name).getD (.directory []))
    .directory ((name, below) :: node.entries.filter fun e => e.1 != name)

/-- The tree without what is under a row of names. -/
def remove : List String → FileNode → FileNode
  | [], node => node
  | [name], node => .directory (node.entries.filter fun e => e.1 != name)
  | name :: next :: rest, node =>
    match node.entry? name with
    | none => node
    | some below =>
      .directory ((name, remove (next :: rest) below) :: node.entries.filter fun e => e.1 != name)

end FileNode

/-- A tree of files, and the names that lead from its root to the current directory. -/
structure FileSystem where
  root : FileNode
  current : List String
  deriving Inhabited

namespace FileSystem

/-- Where a walk stands: the node reached, and the directories above it, the nearest first. -/
structure Place where
  node : FileNode
  above : List FileNode

/-- The longest name that a directory can hold, in bytes. -/
def maxName : Nat := 255

/-- The length from which on a path is too long, in bytes. -/
def pathLimit : Nat := 4096

/-- Goes on by one name. Only a directory can be gone on from; an empty name and a dot stay, and two
dots go up, which at the root is to stay. -/
def Place.step (place : Place) (name : String) : Except FileError Place :=
  match place.node with
  | .file _ => .error .notADirectory
  | .directory _ =>
    if name = "" ∨ name = "." then .ok place
    else if name = ".." then
      match place.above with
      | [] => .ok place
      | parent :: rest => .ok ⟨parent, rest⟩
    else if maxName < name.utf8ByteSize then .error .nameTooLong
    else
      match place.node.entry? name with
      | some node => .ok ⟨node, place.node :: place.above⟩
      | none => .error .notFound

def Place.walk (place : Place) (names : List String) : Except FileError Place :=
  names.foldlM Place.step place

/-- The names that a path consists of, between its slashes. -/
def pathNames (path : String) : List String :=
  (Text.splitAll '/' path.toList).map String.ofList

/-- The node at a path. A path that begins with a slash begins at the root, and any other at the
current directory. -/
def resolve (files : FileSystem) (path : String) : Except FileError FileNode := do
  if path.toList.contains '\x00' then .error .nulInPath
  else if path = "" then .error .notFound
  else if pathLimit ≤ path.utf8ByteSize then .error .nameTooLong
  else
    let root : Place := ⟨files.root, []⟩
    let start ← if path.startsWith "/" then .ok root else root.walk files.current
    return (← start.walk (pathNames path)).node

def read (files : FileSystem) (path : String) : Except FileError String := do
  match ← files.resolve path with
  | .directory _ => .error .isADirectory
  | .file content =>
    match String.fromUTF8? content with
    | some text => .ok text
    | none => .error .notUnicode

/-- The names of the files directly in the directory at a path, in ascending order. There are none
if there is no such directory. -/
def filesIn (files : FileSystem) (path : String) : List String :=
  match files.resolve path with
  | .ok node => node.names.filter node.holdsFile
  | .error _ => []

/-- The path of a name in the directory at a path. -/
def join (directory name : String) : String :=
  if directory = "" ∨ directory.endsWith "/" then directory ++ name else directory ++ "/" ++ name

end FileSystem

end RuleGate
