import MissionConsole.Keyed
import MissionConsole.Path

/-!
# The file tree

The console shows a tree of directories and files that is held in memory. A directory keeps its
entries in the order in which they were made; overwriting an entry keeps its place.

## Main definitions

* `Node` — a file with its content, or a directory with its entries
* `Filesystem` — a tree whose root is a directory
* `Filesystem.addDir`, `Filesystem.addFile` — the tree with a directory or a file added
* `Filesystem.node?` — what stands at a path
* `Filesystem.list?`, `Filesystem.read?` — the names in a directory, the content of a file
-/

namespace MissionConsole

/-- A file with its content, or a directory with its entries in order. -/
inductive Node where
  | file (content : String)
  | dir (entries : List (String × Node))
  deriving Inhabited

/-- A tree of files, given by the entries of its root. -/
structure Filesystem where
  entries : List (String × Node)
  deriving Inhabited

/-- Why a tree cannot be extended. -/
inductive FilesystemError where
  /-- A file stands on the way to the path. -/
  | notADirectory (path : String)
  /-- The path is the root, which has no name. -/
  | isADirectory (path : String)

/-- The text of the failure is the path that was asked for. -/
def FilesystemError.message : FilesystemError → String
  | .notADirectory path => path
  | .isADirectory path => path

namespace Node

/-- What an entry of a name is. -/
def child? (name : String) (entries : List (String × Node)) : Option Node :=
  (entries.find? (·.1 == name)).map (·.2)

/-- What stands at the end of a way through the tree. -/
def at? : Node → List String → Option Node
  | node, [] => some node
  | .file _, _ :: _ => none
  | .dir entries, name :: rest => (child? name entries).bind (·.at? rest)

/-- Entries in which all directories on a way exist, and those of the last one are changed by
`change`. Fails when a file stands on the way. -/
def extend (change : List (String × Node) → List (String × Node)) :
    List String → List (String × Node) → Option (List (String × Node))
  | [], entries => some (change entries)
  | name :: rest, entries =>
    match child? name entries with
    | none => (extend change rest []).map fun inner => Keyed.put entries name (.dir inner)
    | some (.dir inner) =>
      (extend change rest inner).map fun inner => Keyed.put entries name (.dir inner)
    | some (.file _) => none

end Node

namespace Filesystem

/-- The tree that holds nothing. -/
def empty : Filesystem := ⟨[]⟩

/-- The root as a node. -/
def root (fs : Filesystem) : Node := .dir fs.entries

/-- What stands at a path. -/
def node? (fs : Filesystem) (path : String) : Option Node :=
  fs.root.at? (Path.segments (Path.canonicalize path))

/-! ### Building -/

/-- Adds a directory and all directories on the way to it. -/
def addDir (fs : Filesystem) (path : String) : Except FilesystemError Filesystem :=
  match Node.extend id (Path.segments (Path.canonicalize path)) fs.entries with
  | some entries => .ok ⟨entries⟩
  | none => .error (.notADirectory path)

/-- Adds a file and all directories on the way to it, in the place of what stands there. -/
def addFile (fs : Filesystem) (path content : String) : Except FilesystemError Filesystem :=
  let (parent, name) := Path.split path
  if name = "" then .error (.isADirectory path)
  else
    match Node.extend (Keyed.put · name (.file content)) (Path.segments (Path.canonicalize parent))
        fs.entries with
    | some entries => .ok ⟨entries⟩
    | none => .error (.notADirectory parent)

/-! ### Asking -/

/-- Whether something stands at a path. -/
def exists? (fs : Filesystem) (path : String) : Bool := (fs.node? path).isSome

/-- Whether a directory stands at a path. -/
def isDirectory (fs : Filesystem) (path : String) : Bool :=
  match fs.node? path with
  | some (.dir _) => true
  | _ => false

/-- Whether a file stands at a path. -/
def isFile (fs : Filesystem) (path : String) : Bool :=
  match fs.node? path with
  | some (.file _) => true
  | _ => false

/-- The names in the directory at a path, in order. -/
def list? (fs : Filesystem) (path : String) : Option (List String) :=
  match fs.node? path with
  | some (.dir entries) => some (entries.map (·.1))
  | _ => none

/-- The content of the file at a path. -/
def read? (fs : Filesystem) (path : String) : Option String :=
  match fs.node? path with
  | some (.file content) => some content
  | _ => none

end Filesystem

end MissionConsole
