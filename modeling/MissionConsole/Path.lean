import MissionConsole.Text.Split

/-!
# Paths

A path is a text. Its canonical form is absolute, has no empty segments, no `.` and no `..`, and no
slash at its end unless it is the root; climbing stops at the root. Every look-up in the file tree
and every access check works on canonical forms.

## Main definitions

* `Path.segments` — the parts of a path that are not empty
* `Path.reduce` — segments with `.` and `..` carried out
* `Path.canonicalize` — the canonical form of a path
* `Path.resolve` — a path as seen from a working directory
* `Path.split` — the parent and the last name of a path
* `Path.isWithin` — whether a path is another one or lies below it
-/

namespace MissionConsole.Path

/-- The parts of a path between slashes, without the empty ones. -/
def segments (path : String) : List String :=
  (Text.splitOn '/' path).filter (· != "")

/-- Takes one more step from a position, which is a stack of names with the deepest one on top. At
the root there is nothing to leave. -/
def step (stack : List String) (segment : String) : List String :=
  if segment = "." then stack
  else if segment = ".." then stack.tail
  else segment :: stack

/-- The names on the way from the root that following the segments ends at. -/
def reduce (segs : List String) : List String :=
  (segs.foldl step []).reverse

/-- The absolute path through the names given. -/
def ofNames (names : List String) : String :=
  "/" ++ "/".intercalate names

/-- The canonical form of a path. -/
def canonicalize (path : String) : String :=
  ofNames (reduce (segments path))

/-- A path without the slashes at its end. -/
def trimSlashes (path : String) : String :=
  String.ofList (path.toList.reverse.dropWhile (· == '/')).reverse

/-- A path as seen from a working directory. Absolute paths stand for themselves, and the empty path
is the working directory. -/
def resolve (cwd path : String) : String :=
  if path = "" then canonicalize cwd
  else if Text.startsWith path "/" then canonicalize path
  else canonicalize (trimSlashes cwd ++ "/" ++ path)

/-- The parent and the last name of a path; the name of the root is empty. -/
def split (path : String) : String × String :=
  let backwards := (canonicalize path).toList.reverse
  let name := (backwards.takeWhile (· != '/')).reverse
  let parent := ((backwards.dropWhile (· != '/')).drop 1).reverse
  (if parent.isEmpty then "/" else String.ofList parent, String.ofList name)

/-- Whether a path is `root` or lies below it. -/
def isWithin (path root : String) : Bool :=
  let p := canonicalize path
  let r := canonicalize root
  r == "/" || p == r || Text.startsWith p (r ++ "/")

/-! ### Small facts -/

@[simp] theorem reduce_nil : reduce [] = [] := rfl

theorem reduce_append_dot (segs : List String) : reduce (segs ++ ["."]) = reduce segs := by
  simp [reduce, step]

theorem reduce_append_dotdot (segs : List String) :
    reduce (segs ++ [".."]) = (reduce segs).dropLast := by
  simp [reduce, step]

end MissionConsole.Path
