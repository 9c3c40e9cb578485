import MissionConsole.Filesystem.Basic
import MissionConsole.Proofs.Path.Canonical

/-!
# What a tree shows without its contents

The outline of a tree keeps its directories, its names and their order, and empties its files. Every
question about a tree except for the content of a file is answered alike by the outline, so two
trees of one shape differ in nothing but contents. Where the contents agree is told by ways through
the tree: lists of names, independent of how a path spells them.

## Main definitions

* `Filesystem.outline`, `Filesystem.SameShape` — a tree with its files emptied, and trees that are
  then equal
* `Filesystem.contentAt?` — the content of the file at the end of a way
* `Filesystem.AgreeOutside` — the same contents everywhere but below a way

## Main results

* `Node.at?_outline` — the outline has the outlines of the nodes, at the same places
* `Filesystem.SameShape.isDirectory_eq`, `Filesystem.SameShape.exists?_eq`,
  `Filesystem.SameShape.list?_eq` — one shape gives one answer
* `Filesystem.AgreeOutside.read?_eq` — files that lie outside are read alike
-/

namespace MissionConsole

namespace Node

mutual

/-- A node with all its files emptied. -/
def outline : Node → Node
  | .file _ => .file ""
  | .dir entries => .dir (outlineEntries entries)

/-- Entries with all files in them emptied. -/
def outlineEntries : List (String × Node) → List (String × Node)
  | [] => []
  | (name, node) :: rest => (name, node.outline) :: outlineEntries rest

end

@[simp] theorem outline_dir (entries : List (String × Node)) :
    (Node.dir entries).outline = .dir (outlineEntries entries) := rfl

theorem names_outlineEntries (entries : List (String × Node)) :
    (outlineEntries entries).map (·.1) = entries.map (·.1) := by
  induction entries with
  | nil => rfl
  | cons entry rest ih => rw [outlineEntries, List.map_cons, List.map_cons, ih]

theorem child?_outlineEntries (name : String) (entries : List (String × Node)) :
    child? name (outlineEntries entries) = (child? name entries).map outline := by
  induction entries with
  | nil => rfl
  | cons entry rest ih =>
    by_cases hname : entry.1 = name
    · simp [outlineEntries, child?, hname]
    · simpa [outlineEntries, child?, hname] using ih

/-- The outline has the outlines of the nodes, at the same places. -/
theorem at?_outline (node : Node) (names : List String) :
    node.outline.at? names = (node.at? names).map outline := by
  induction names generalizing node with
  | nil => rfl
  | cons name rest ih =>
    cases node with
    | file content => rfl
    | dir entries =>
      -- The way goes on in the entry of its first name, if there is one.
      rw [outline_dir, at?, at?, child?_outlineEntries]
      cases child? name entries with
      | none => rfl
      | some child => exact ih child

end Node

namespace Filesystem

/-- A tree with all its files emptied. -/
def outline (fs : Filesystem) : Filesystem := ⟨Node.outlineEntries fs.entries⟩

/-- Two trees with the same directories and the same names in the same order. -/
def SameShape (a b : Filesystem) : Prop := a.outline = b.outline

/-- The content of the file at the end of a way from the root. -/
def contentAt? (fs : Filesystem) (names : List String) : Option String :=
  match fs.root.at? names with
  | some (.file content) => some content
  | _ => none

/-- Two trees whose files have the same contents, except for those at the end of `top` and below. -/
def AgreeOutside (top : List String) (a b : Filesystem) : Prop :=
  ∀ names, ¬ top <+: names → a.contentAt? names = b.contentAt? names

variable {a b : Filesystem} {top : List String}

/-! ### Questions about the shape -/

/-- The root is a directory in every tree. -/
theorem isDirectory_root (fs : Filesystem) : fs.isDirectory "/" = true := by
  have hsegments : Path.segments (Path.canonicalize "/") = [] := by decide
  rw [isDirectory, node?, hsegments]
  rfl

theorem node?_outline (fs : Filesystem) (path : String) :
    fs.outline.node? path = (fs.node? path).map Node.outline :=
  Node.at?_outline fs.root _

@[simp] theorem exists?_outline (fs : Filesystem) (path : String) :
    fs.outline.exists? path = fs.exists? path := by
  rw [exists?, exists?, node?_outline, Option.isSome_map]

@[simp] theorem isDirectory_outline (fs : Filesystem) (path : String) :
    fs.outline.isDirectory path = fs.isDirectory path := by
  rw [isDirectory, isDirectory, node?_outline]
  rcases fs.node? path with - | (content | entries) <;> rfl

@[simp] theorem list?_outline (fs : Filesystem) (path : String) :
    fs.outline.list? path = fs.list? path := by
  rw [list?, list?, node?_outline]
  rcases fs.node? path with - | (content | entries)
  · rfl
  · rfl
  · exact congrArg some (Node.names_outlineEntries entries)

theorem SameShape.exists?_eq (h : a.SameShape b) (path : String) :
    a.exists? path = b.exists? path := by
  rw [← exists?_outline a, h, exists?_outline]

theorem SameShape.isDirectory_eq (h : a.SameShape b) (path : String) :
    a.isDirectory path = b.isDirectory path := by
  rw [← isDirectory_outline a, h, isDirectory_outline]

theorem SameShape.list?_eq (h : a.SameShape b) (path : String) : a.list? path = b.list? path := by
  rw [← list?_outline a, h, list?_outline]

/-! ### Contents -/

/-- A path is read at the end of the way that its canonical form spells. -/
theorem read?_eq_contentAt? (fs : Filesystem) (path : String) :
    fs.read? path = fs.contentAt? (Path.reduce (Path.segments path)) := by
  rw [read?, node?, Path.segments_canonicalize]
  rfl

theorem AgreeOutside.read?_eq (h : a.AgreeOutside top b) {path : String}
    (hpath : ¬ top <+: Path.reduce (Path.segments path)) : a.read? path = b.read? path := by
  rw [read?_eq_contentAt?, read?_eq_contentAt?, h _ hpath]

end Filesystem

end MissionConsole
