import MissionConsole.Filesystem.Layout
import MissionConsole.Proofs.Filesystem.Addition
import MissionConsole.Proofs.Filesystem.Tidy

/-!
# Building a tree

A tree is built by adding directories and files to it in place. The walk to a path makes the
directories that are missing as it comes to them, and stops where a file is in its way. It leaves no
trace then: nothing was missing before the file, since below a directory that was just made there is
none.

## Main definitions

* `Node.walk`, `Filesystem.attempt` — additions in place: what they leave behind, also when they
  are refused
* `Filesystem.built` — the tree after any additions, refused ones included

## Main results

* `Node.walk_eq`, `Filesystem.attempt_eq` — in place a tree becomes what `Filesystem.add` gives, and
  what is refused changes nothing
* `Filesystem.tidy_built` — built trees are tidy
* `Filesystem.refused_untouched` — which additions are refused, and that they leave no trace
-/

namespace MissionConsole

namespace Node

variable {change : List (String × Node) → List (String × Node)} {way : List String}
  {entries inner : List (String × Node)} {name : String}

/-- The entries that a walk along a way leaves behind, with those at its end changed, and whether it
came to its end. A missing directory is made before the walk goes into it. -/
def walk (change : List (String × Node) → List (String × Node)) :
    List String → List (String × Node) → List (String × Node) × Bool
  | [], entries => (change entries, true)
  | name :: rest, entries =>
    match child? name entries with
    | none =>
      let made := Keyed.put entries name (.dir [])
      let (inner, arrived) := walk change rest []
      (Keyed.put made name (.dir inner), arrived)
    | some (.dir inner) =>
      let (inner, arrived) := walk change rest inner
      (Keyed.put entries name (.dir inner), arrived)
    | some (.file _) => (entries, false)

/-- One step of the walk goes into an entry, and puts back what it comes out with. -/
theorem walk_cons (name : String) (rest : List String) (entries : List (String × Node)) :
    walk change (name :: rest) entries =
      match inside? (child? name entries) with
      | none => (entries, false)
      | some inner =>
        (Keyed.put entries name (.dir (walk change rest inner).1), (walk change rest inner).2) := by
  rw [walk]
  rcases child? name entries with - | (content | inner)
  · dsimp only [inside?]
    rw [Keyed.put_put]
  · rfl
  · rfl

/-- In a directory without entries no file is in the way. -/
theorem exists_extend_nil (change : List (String × Node) → List (String × Node))
    (way : List String) : ∃ entries, extend change way [] = some entries := by
  refine exists_extend_iff.2 fun names _ => ?_
  cases names <;> exact nofun

/-- A directory in which the walk is stopped was not made by it. -/
theorem child?_of_stopped (hinside : inside? (child? name entries) = some inner)
    (hstopped : extend change way inner = none) : child? name entries = some (.dir inner) := by
  rcases inside?_eq_some_iff.1 hinside with ⟨-, rfl⟩ | hchild
  · obtain ⟨made, hmade⟩ := exists_extend_nil change way
    rw [hstopped] at hmade
    exact absurd hmade nofun
  · exact hchild

/-- The walk leaves behind the extended entries, or, if a file is in the way, the entries that were
there: what it comes out of unchanged is put back in its place. -/
theorem walk_eq (h : (Node.dir entries).Tidy) :
    walk change way entries =
      match extend change way entries with
      | some entries' => (entries', true)
      | none => (entries, false) := by
  induction way generalizing entries with
  | nil => rfl
  | cons name rest ih =>
    rw [walk_cons, extend_cons]
    rcases hinside : inside? (child? name entries) with - | inner
    · rfl
    · dsimp only
      rw [ih (h.of_inside hinside), Option.bind_some]
      rcases hrest : extend change rest inner with - | inner'
      · have hsame : Keyed.put entries name (.dir inner) = entries := by
          refine Keyed.put_of_lookup h.nodup ?_
          rw [← child?_eq_lookup, child?_of_stopped hinside hrest]
        rw [Option.map_none, hsame]
      · rfl

end Node

namespace Filesystem

open MissionConsole.Path (canonicalize isWithin way IsName)

/-- A tree after a directory or a file was added in place, and why it was refused, if it was. -/
def attempt (fs : Filesystem) : Layout.Entry → Filesystem × Option FilesystemError
  | .dir path =>
    let (entries, arrived) := Node.walk id (Path.segments (canonicalize path)) fs.entries
    (⟨entries⟩, if arrived then none else some (.notADirectory path))
  | .file path content =>
    let (parent, name) := Path.split path
    if name = "" then (fs, some (.isADirectory path))
    else
      let (entries, arrived) := Node.walk (Keyed.put · name (.file content))
        (Path.segments (canonicalize parent)) fs.entries
      (⟨entries⟩, if arrived then none else some (.notADirectory parent))

/-- The tree after additions in place, one after the other, whether they are refused or not. -/
def built (additions : List Layout.Entry) : Filesystem :=
  additions.foldl (fun fs addition => (fs.attempt addition).1) empty

variable {fs after : Filesystem} {path content : String} {addition : Layout.Entry}

/-! ### Additions in place -/

/-- In place a tidy tree becomes what adding gives, and what is refused changes nothing. -/
theorem attempt_eq (h : fs.root.Tidy) (addition : Layout.Entry) :
    fs.attempt addition =
      match fs.add addition with
      | .ok after => (after, none)
      | .error error => (fs, some error) := by
  cases addition with
  | dir path =>
    rw [attempt, add, addDir, Node.walk_eq h]
    rcases Node.extend id (Path.segments (canonicalize path)) fs.entries with - | entries <;> rfl
  | file path content =>
    rw [attempt, add, addFile]
    dsimp only
    by_cases hname : (Path.split path).2 = ""
    · rw [if_pos hname, if_pos hname]
    · rw [if_neg hname, if_neg hname, Node.walk_eq h]
      rcases Node.extend (Keyed.put · (Path.split path).2 (.file content))
        (Path.segments (canonicalize (Path.split path).1)) fs.entries with - | entries <;> rfl

theorem tidy_add (h : fs.root.Tidy) (hadd : fs.add addition = .ok after) : after.root.Tidy := by
  cases addition with
  | dir path =>
    have hextend := addDir_eq_ok_iff.1 (show fs.addDir path = .ok after from hadd)
    exact Node.Tidy.extend (fun _ hinner => hinner) (fun _ => Path.isName_of_mem_way) h hextend
  | file path content =>
    obtain ⟨parent, name, hway, hextend⟩ :=
      addFile_eq_ok_iff.1 (show fs.addFile path content = .ok after from hadd)
    have hnames : ∀ n ∈ parent ++ [name], IsName n := fun n hn => Path.isName_of_mem_way (hway ▸ hn)
    exact Node.Tidy.extend
      (fun _ hinner => hinner.put (hnames name List.mem_concat_self) (.file content))
      (fun n hn => hnames n (List.mem_append_left _ hn)) h hextend

theorem tidy_attempt (h : fs.root.Tidy) (addition : Layout.Entry) :
    (fs.attempt addition).1.root.Tidy := by
  rw [attempt_eq h]
  rcases hadd : fs.add addition with error | after
  · exact h
  · exact tidy_add h hadd

theorem tidy_built (additions : List Layout.Entry) : (built additions).root.Tidy :=
  List.foldlRecOn (motive := fun fs : Filesystem => fs.root.Tidy) additions _ .nil
    fun _ h addition _ => tidy_attempt h addition

/-! ### Refusals -/

theorem error_of_addDir {error : FilesystemError} (h : fs.addDir path = .error error) :
    error = .notADirectory path := by
  rw [addDir] at h
  split at h
  · cases h
  · exact (Except.error.inj h).symm

/-- The root is no file. -/
theorem ne_root_of_isFile (h : fs.isFile path = true) : canonicalize path ≠ "/" := by
  intro hroot
  have hnil : way path = [] := Path.canonicalize_eq_iff (q := "/").1 hroot
  obtain ⟨content, hnode⟩ := isFile_iff.1 h
  rw [node?_eq_at?, hnil, Node.at?_nil] at hnode
  exact absurd hnode nofun

/-- A directory is refused where a file stands at its path or above it. -/
theorem addDir_eq_error_iff :
    fs.addDir path = .error (.notADirectory path) ↔
      ∃ q, isWithin path q = true ∧ canonicalize q ≠ "/" ∧ fs.isFile q = true := by
  have hadded := exists_addDir_iff fs path
  constructor
  · intro h
    by_contra hnone
    obtain ⟨after, hok⟩ := hadded.2 fun q hwithin => by
      rw [← Bool.not_eq_true]
      exact fun hfile => hnone ⟨q, hwithin, ne_root_of_isFile hfile, hfile⟩
    exact absurd (h.symm.trans hok) nofun
  · rintro ⟨q, hwithin, -, hfile⟩
    rcases h : fs.addDir path with error | after
    · rw [error_of_addDir h]
    · rw [hadded.1 ⟨after, h⟩ q hwithin] at hfile
      exact absurd hfile Bool.false_ne_true

theorem error_of_addFile {error : FilesystemError} (h : fs.addFile path content = .error error) :
    canonicalize path = "/" ∧ error = .isADirectory path ∨
      canonicalize path ≠ "/" ∧ error = .notADirectory (Path.split path).1 := by
  rw [addFile] at h
  dsimp only at h
  split_ifs at h with hname
  · exact .inl ⟨Path.split_snd_eq_empty_iff.1 hname, (Except.error.inj h).symm⟩
  · refine .inr ⟨mt Path.split_snd_eq_empty_iff.2 hname, ?_⟩
    split at h
    · cases h
    · exact (Except.error.inj h).symm

theorem addFile_eq_isADirectory_iff :
    fs.addFile path content = .error (.isADirectory path) ↔ canonicalize path = "/" := by
  constructor
  · intro h
    rcases error_of_addFile h with ⟨hroot, -⟩ | ⟨-, herror⟩
    · exact hroot
    · exact absurd herror nofun
  · intro hroot
    rcases h : fs.addFile path content with error | after
    · rcases error_of_addFile h with ⟨-, rfl⟩ | ⟨hne, -⟩
      · rfl
      · exact absurd hroot hne
    · exact absurd hroot ((exists_addFile_iff fs path content).1 ⟨after, h⟩).1

/-- A file is refused where another file stands above its path. The root has nothing above it. -/
theorem addFile_eq_notADirectory_iff :
    fs.addFile path content = .error (.notADirectory (Path.split path).1) ↔
      ∃ q, isWithin path q = true ∧ canonicalize q ≠ canonicalize path ∧ fs.isFile q = true := by
  have hadded := exists_addFile_iff fs path content
  constructor
  · intro h
    rcases error_of_addFile h with ⟨-, herror⟩ | ⟨hroot, -⟩
    · exact absurd herror nofun
    · by_contra hnone
      obtain ⟨after, hok⟩ := hadded.2 ⟨hroot, fun q hwithin hne => by
        rw [← Bool.not_eq_true]
        exact fun hfile => hnone ⟨q, hwithin, hne, hfile⟩⟩
      exact absurd (h.symm.trans hok) nofun
  · rintro ⟨q, hwithin, hne, hfile⟩
    rcases h : fs.addFile path content with error | after
    · rcases error_of_addFile h with ⟨hroot, -⟩ | ⟨-, rfl⟩
      · obtain ⟨next, rest, hway, -, -⟩ := Path.exists_next hwithin hne
        have hnil : way path = [] := Path.canonicalize_eq_iff (q := "/").1 hroot
        rw [hnil] at hway
        exact absurd hway (List.append_ne_nil_of_right_ne_nil _ (List.cons_ne_nil _ _)).symm
      · rfl
    · rw [(hadded.1 ⟨after, h⟩).2 q hwithin hne] at hfile
      exact absurd hfile Bool.false_ne_true

/-- Whatever was added before: a directory is refused exactly where a file stands at its path or
above it, and a file exactly at the root and where another file stands above its path. In place an
addition comes to what adding gives, and one that is refused leaves the tree as it was. -/
theorem refused_untouched (additions : List Layout.Entry) (path content : String) :
    let fs := built additions
    (fs.addDir path = .error (.notADirectory path) ↔
        ∃ q, isWithin path q = true ∧ canonicalize q ≠ "/" ∧ fs.isFile q = true) ∧
      (fs.addFile path content = .error (.isADirectory path) ↔ canonicalize path = "/") ∧
      (fs.addFile path content = .error (.notADirectory (Path.split path).1) ↔
        ∃ q, isWithin path q = true ∧ canonicalize q ≠ canonicalize path ∧ fs.isFile q = true) ∧
      (∀ error, fs.addDir path = .error error → error = .notADirectory path) ∧
      (∀ error, fs.addFile path content = .error error →
        error = .isADirectory path ∨ error = .notADirectory (Path.split path).1) ∧
      ∀ addition,
        (∀ after, fs.add addition = .ok after → fs.attempt addition = (after, none)) ∧
          ∀ error, fs.add addition = .error error → fs.attempt addition = (fs, some error) := by
  intro fs
  refine ⟨addDir_eq_error_iff, addFile_eq_isADirectory_iff, addFile_eq_notADirectory_iff,
    fun _ => error_of_addDir, fun error h => ?_,
    fun addition => ⟨fun after h => ?_, fun error h => ?_⟩⟩
  · rcases error_of_addFile h with ⟨-, herror⟩ | ⟨-, herror⟩
    · exact .inl herror
    · exact .inr herror
  · rw [attempt_eq (tidy_built additions), h]
  · rw [attempt_eq (tidy_built additions), h]

/-- A directory below a file was refused, and so is a file further down. -/
theorem refused_untouched_below_file :
    let fs := built [.file "/a" "x", .dir "/a/b"]
    (fs.isFile "/a" = true ∧ fs.addDir "/a/b" = .error (.notADirectory "/a/b")) ∧
      fs.add (.file "/a/b/c" "y") = .error (.notADirectory "/a/b") ∧
      fs.attempt (.file "/a/b/c" "y") = (fs, some (.notADirectory "/a/b")) := by
  intro fs
  have hfile : fs.isFile "/a" = true := rfl
  obtain ⟨hdir, -, -, -, -, -⟩ := refused_untouched [.file "/a" "x", .dir "/a/b"] "/a/b" "y"
  obtain ⟨-, -, hbelow, -, -, hplace⟩ :=
    refused_untouched [.file "/a" "x", .dir "/a/b"] "/a/b/c" "y"
  have hadd : fs.add (.file "/a/b/c" "y") = .error (.notADirectory "/a/b") :=
    hbelow.2 ⟨"/a", by decide, by decide, hfile⟩
  exact ⟨⟨hfile, hdir.2 ⟨"/a", by decide, by decide, hfile⟩⟩, hadd, (hplace _).2 _ hadd⟩

end Filesystem

end MissionConsole
