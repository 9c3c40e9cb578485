import MissionConsole.Proofs.Filesystem.Extension
import MissionConsole.Proofs.Path.Parent

/-!
# What adding to a tree does

A file or a directory is added at a path, however it is spelled. At the path stands what was added,
above it stand directories that have lost nothing, below a file stands nothing, and everywhere else
stands what stood there before. This holds of every tree, however it came about.

## Main definitions

* `Filesystem.KeepsAbove` — the directories above a path keep their other entries
* `Filesystem.FileAdded`, `Filesystem.DirectoryAdded` — what a tree is after an addition

## Main results

* `Filesystem.fileAdded_of_addFile`, `Filesystem.directoryAdded_of_addDir` — additions do that
* `Filesystem.exists_addDir_iff`, `Filesystem.exists_addFile_iff` — when they succeed
* `Filesystem.additions` — all of it
-/

namespace MissionConsole.Filesystem

open MissionConsole.Path (canonicalize isWithin way IsName)

/-- Above a path stand directories. One that stood there before has its entries still, and in their
places, except for the next one on the way to the path, which may be new. -/
def KeepsAbove (before after : Filesystem) (path : String) : Prop :=
  ∀ q, isWithin path q = true → canonicalize q ≠ canonicalize path →
    ∃ next entries', IsName next ∧ isWithin path (q ++ "/" ++ next) = true ∧
      after.node? q = some (.dir entries') ∧
      ∀ entries, before.node? q = some (.dir entries) → Node.KeepsOthers next entries entries'

/-- What a tree is after a file was added. -/
structure FileAdded (before after : Filesystem) (path content : String) : Prop where
  /-- The file is read, however its path is spelled. -/
  read : ∀ q, canonicalize q = canonicalize path → after.read? q = some content
  /-- Above it stand directories, which have lost nothing. -/
  above : ∀ q, isWithin path q = true → canonicalize q ≠ canonicalize path →
    after.isDirectory q = true
  keepsAbove : KeepsAbove before after path
  /-- Below it stands nothing. -/
  below : ∀ q, isWithin q path = true → canonicalize q ≠ canonicalize path →
    after.exists? q = false
  /-- Everywhere else stands what stood there. -/
  elsewhere : ∀ q, isWithin path q = false → isWithin q path = false →
    after.node? q = before.node? q

/-- What a tree is after a directory was added. -/
structure DirectoryAdded (before after : Filesystem) (path : String) : Prop where
  /-- At the path and above it stand directories. -/
  directories : ∀ q, isWithin path q = true → after.isDirectory q = true
  keepsAbove : KeepsAbove before after path
  /-- No file is removed or replaced. -/
  files : ∀ q content, before.read? q = some content → after.read? q = some content
  /-- No name is removed from a directory, and new ones come last. -/
  names : ∀ q names, before.list? q = some names → ∃ more, after.list? q = some (names ++ more)
  /-- Everywhere but at the path and above it stands what stood there. -/
  elsewhere : ∀ q, isWithin path q = false → after.node? q = before.node? q

variable {fs after : Filesystem} {path q content : String}

/-! ### Questions about a node -/

theorem node?_eq_at? (fs : Filesystem) (path : String) :
    fs.node? path = fs.root.at? (way path) := by
  rw [node?, Path.segments_canonicalize]
  rfl

theorem isDirectory_iff :
    fs.isDirectory q = true ↔ ∃ entries, fs.node? q = some (.dir entries) := by
  rw [isDirectory]
  rcases fs.node? q with - | (content | entries) <;> simp

theorem isFile_iff : fs.isFile q = true ↔ ∃ content, fs.node? q = some (.file content) := by
  rw [isFile]
  rcases fs.node? q with - | (content | entries) <;> simp

theorem isFile_eq_false_iff :
    fs.isFile q = false ↔ Node.inside? (fs.root.at? (way q)) ≠ none := by
  rw [← Bool.not_eq_true, isFile_iff, node?_eq_at?, Ne, Node.inside?_eq_none_iff]

theorem read?_eq_some_iff : fs.read? q = some content ↔ fs.node? q = some (.file content) := by
  rw [read?]
  rcases fs.node? q with - | (content | entries) <;> simp

theorem list?_eq_some_iff {names : List String} :
    fs.list? q = some names ↔
      ∃ entries, fs.node? q = some (.dir entries) ∧ entries.map (·.1) = names := by
  rw [list?]
  rcases fs.node? q with - | (content | entries) <;> simp

/-! ### Additions as extensions along a way -/

theorem addDir_eq_ok_iff :
    fs.addDir path = .ok after ↔ Node.extend id (way path) fs.entries = some after.entries := by
  obtain ⟨entries⟩ := after
  rw [addDir, Path.segments_canonicalize, ← way]
  cases Node.extend id (way path) fs.entries <;> simp

/-- A file is added to the directory above it, and the root has none. -/
theorem addFile_eq_ok_iff :
    fs.addFile path content = .ok after ↔
      ∃ parent name, way path = parent ++ [name] ∧
        Node.extend (Keyed.put · name (.file content)) parent fs.entries = some after.entries := by
  rcases List.eq_nil_or_concat (way path) with hroot | ⟨parent, name, hway⟩
  · rw [addFile, Path.split_of_way_nil hroot, hroot]
    refine iff_of_false (by simp) ?_
    rintro ⟨parent, name, hnil, -⟩
    exact absurd hnil.symm (List.append_ne_nil_of_right_ne_nil _ (List.cons_ne_nil _ _))
  · rw [List.concat_eq_append] at hway
    have hname : ∀ n ∈ parent ++ [name], IsName n := fun n hn => Path.isName_of_mem_way (hway ▸ hn)
    have hparent : way (Path.ofNames parent) = parent :=
      Path.way_ofNames fun n hn => hname n (List.mem_append_left _ hn)
    have hne : name ≠ "" := (hname name List.mem_concat_self).ne_empty
    obtain ⟨entries⟩ := after
    rw [addFile, Path.split_of_way hway]
    dsimp only
    rw [if_neg hne, Path.segments_canonicalize, ← way, hparent]
    constructor
    · intro h
      refine ⟨parent, name, hway, ?_⟩
      rcases hextend : Node.extend (Keyed.put · name (.file content)) parent fs.entries with
        - | entries'
      · rw [hextend] at h
        cases h
      · rw [hextend] at h
        obtain rfl : entries' = entries := by simpa using h
        rfl
    · rintro ⟨parent', name', hway', hextend⟩
      obtain ⟨rfl, hlast⟩ := List.append_inj' (hway.symm.trans hway') rfl
      obtain rfl := List.singleton_inj.1 hlast
      rw [hextend]

/-! ### Along the way -/

theorem KeepsAbove.isDirectory (h : KeepsAbove fs after path) (hwithin : isWithin path q = true)
    (hne : canonicalize q ≠ canonicalize path) : after.isDirectory q = true := by
  obtain ⟨next, entries', -, -, hnode, -⟩ := h q hwithin hne
  exact isDirectory_iff.2 ⟨entries', hnode⟩

/-- What stands above a path is what is found on the way to it. -/
theorem keepsAbove_of_at? (h : ∀ names next rest, way path = names ++ next :: rest →
      ∃ entries', after.root.at? names = some (.dir entries') ∧
        ∀ entries, fs.root.at? names = some (.dir entries) →
          Node.KeepsOthers next entries entries') :
    KeepsAbove fs after path := by
  intro q hwithin hne
  obtain ⟨next, rest, hway, hname, hnext⟩ := Path.exists_next hwithin hne
  obtain ⟨entries', hfound, hkeeps⟩ := h (way q) next rest hway
  rw [← node?_eq_at?] at hfound hkeeps
  exact ⟨next, entries', hname, hnext, hfound, hkeeps⟩

/-! ### Adding a directory -/

theorem keepsAbove_of_addDir (h : fs.addDir path = .ok after) : KeepsAbove fs after path := by
  rw [addDir_eq_ok_iff] at h
  refine keepsAbove_of_at? fun names next rest hway => ?_
  rw [hway] at h
  exact Node.keepsOthers_of_extend h

/-- What stands at the path of the new directory. -/
theorem node?_of_addDir (h : fs.addDir path = .ok after)
    (hq : canonicalize q = canonicalize path) :
    ∃ entries, after.node? q = some (.dir entries) ∧
      ∀ old, fs.node? q = some (.dir old) → old = entries := by
  rw [addDir_eq_ok_iff] at h
  obtain ⟨inner, hinside, hbeyond⟩ := Node.exists_inside_of_extend h
  rw [node?_eq_at?, node?_eq_at?, Path.canonicalize_eq_iff.1 hq]
  refine ⟨inner, ?_, fun old hold => ?_⟩
  · rw [← List.append_nil (way path)]
    exact (hbeyond []).trans (Node.at?_nil _)
  · rw [root] at hold
    rw [hold] at hinside
    exact Option.some.inj hinside

theorem elsewhere_of_addDir (h : fs.addDir path = .ok after) (hq : isWithin path q = false) :
    after.node? q = fs.node? q := by
  rw [← Bool.not_eq_true, Path.isWithin_iff_way] at hq
  rw [addDir_eq_ok_iff] at h
  rw [node?_eq_at?, node?_eq_at?]
  by_cases hbeyond : way path <+: way q
  · -- Below the path the entries are those of the directory there, which have not changed.
    obtain ⟨rest, hrest⟩ := hbeyond
    have hne : rest ≠ [] := by
      rintro rfl
      rw [List.append_nil] at hrest
      exact hq (hrest ▸ List.prefix_rfl)
    obtain ⟨inner, hinside, hat⟩ := Node.exists_inside_of_extend h
    rw [← hrest, Node.at?_append fs.root]
    exact (hat rest).trans (Node.bind_at?_of_inside hinside hne).symm
  · exact Node.at?_extend_of_apart h hq hbeyond

/-- A directory can be added exactly where no file stands at the path or above it. -/
theorem exists_addDir_iff (fs : Filesystem) (path : String) :
    (∃ after, fs.addDir path = .ok after) ↔
      ∀ q, isWithin path q = true → fs.isFile q = false := by
  have hextend : (∃ after, fs.addDir path = .ok after) ↔
      ∃ entries, Node.extend id (way path) fs.entries = some entries := by
    simp only [addDir_eq_ok_iff]
    exact ⟨fun ⟨after, h⟩ => ⟨after.entries, h⟩, fun ⟨entries, h⟩ => ⟨⟨entries⟩, h⟩⟩
  simp only [isFile_eq_false_iff]
  rw [hextend, Node.exists_extend_iff]
  exact Path.forall_isWithin_iff.symm

theorem directoryAdded_of_addDir (h : fs.addDir path = .ok after) :
    DirectoryAdded fs after path where
  directories q hwithin := by
    by_cases hq : canonicalize q = canonicalize path
    · obtain ⟨entries, hnode, -⟩ := node?_of_addDir h hq
      exact isDirectory_iff.2 ⟨entries, hnode⟩
    · exact (keepsAbove_of_addDir h).isDirectory hwithin hq
  keepsAbove := keepsAbove_of_addDir h
  files q content hread := by
    have hfile : fs.isFile q = true := isFile_iff.2 ⟨content, read?_eq_some_iff.1 hread⟩
    -- No file stands at the path or above it, or nothing could have been added.
    have hapart : isWithin path q = false := by
      rw [← Bool.not_eq_true]
      intro hwithin
      rw [(exists_addDir_iff fs path).1 ⟨after, h⟩ q hwithin] at hfile
      exact absurd hfile Bool.false_ne_true
    exact read?_eq_some_iff.2 ((elsewhere_of_addDir h hapart).trans (read?_eq_some_iff.1 hread))
  names q names hlist := by
    obtain ⟨old, hold, rfl⟩ := list?_eq_some_iff.1 hlist
    by_cases hwithin : isWithin path q = true
    · by_cases hq : canonicalize q = canonicalize path
      · obtain ⟨entries, hnode, hsame⟩ := node?_of_addDir h hq
        refine ⟨[], list?_eq_some_iff.2 ⟨entries, hnode, ?_⟩⟩
        rw [hsame old hold, List.append_nil]
      · obtain ⟨next, entries', -, -, hnode, hkeeps⟩ := keepsAbove_of_addDir h q hwithin hq
        have hnames := (hkeeps old hold).names
        split_ifs at hnames
        · exact ⟨[], list?_eq_some_iff.2 ⟨entries', hnode, by rw [hnames, List.append_nil]⟩⟩
        · exact ⟨[next], list?_eq_some_iff.2 ⟨entries', hnode, hnames⟩⟩
    · rw [Bool.not_eq_true] at hwithin
      refine ⟨[], list?_eq_some_iff.2 ⟨old, ?_, (List.append_nil _).symm⟩⟩
      rw [elsewhere_of_addDir h hwithin, hold]
  elsewhere q := elsewhere_of_addDir h

/-! ### Adding a file -/

theorem node?_of_addFile (h : fs.addFile path content = .ok after)
    (hq : canonicalize q = canonicalize path) : after.node? q = some (.file content) := by
  obtain ⟨parent, name, hway, hextend⟩ := addFile_eq_ok_iff.1 h
  rw [node?_eq_at?, Path.canonicalize_eq_iff.1 hq, hway, ← List.append_nil (parent ++ [name])]
  exact (Node.at?_of_extend_put hextend []).trans (Node.at?_nil _)

theorem node?_below_of_addFile (h : fs.addFile path content = .ok after)
    (hwithin : isWithin q path = true) (hne : canonicalize q ≠ canonicalize path) :
    after.node? q = none := by
  obtain ⟨parent, name, hway, hextend⟩ := addFile_eq_ok_iff.1 h
  obtain ⟨next, rest, hq, -, -⟩ := Path.exists_next hwithin (Ne.symm hne)
  rw [node?_eq_at?, hq, hway]
  exact (Node.at?_of_extend_put hextend _).trans
    (Node.at?_file_of_ne content (List.cons_ne_nil next rest))

theorem keepsAbove_of_addFile (h : fs.addFile path content = .ok after) :
    KeepsAbove fs after path := by
  obtain ⟨parent, name, hway, hextend⟩ := addFile_eq_ok_iff.1 h
  refine keepsAbove_of_at? fun names next rest hnames => ?_
  exact Node.keepsOthers_of_extend_put hextend (hway.symm.trans hnames)

theorem elsewhere_of_addFile (h : fs.addFile path content = .ok after)
    (habove : isWithin path q = false) (hbelow : isWithin q path = false) :
    after.node? q = fs.node? q := by
  obtain ⟨parent, name, hway, hextend⟩ := addFile_eq_ok_iff.1 h
  rw [← Bool.not_eq_true, Path.isWithin_iff_way, hway] at habove hbelow
  rw [node?_eq_at?, node?_eq_at?]
  exact Node.at?_extend_put_of_apart hextend habove hbelow

theorem fileAdded_of_addFile (h : fs.addFile path content = .ok after) :
    FileAdded fs after path content where
  read q hq := read?_eq_some_iff.2 (node?_of_addFile h hq)
  above q := (keepsAbove_of_addFile h).isDirectory
  keepsAbove := keepsAbove_of_addFile h
  below q hwithin hne := by rw [exists?, node?_below_of_addFile h hwithin hne, Option.isSome_none]
  elsewhere q := elsewhere_of_addFile h

/-- A file can be added exactly where no file stands above the path, except at the root. -/
theorem exists_addFile_iff (fs : Filesystem) (path content : String) :
    (∃ after, fs.addFile path content = .ok after) ↔
      canonicalize path ≠ "/" ∧
        ∀ q, isWithin path q = true → canonicalize q ≠ canonicalize path → fs.isFile q = false := by
  have hroot : canonicalize path = "/" ↔ way path = [] := Path.canonicalize_eq_iff (q := "/")
  have habove : (∀ q, isWithin path q = true → canonicalize q ≠ canonicalize path →
      fs.isFile q = false) ↔ ∀ names, names <+: way path → names ≠ way path →
        Node.inside? (fs.root.at? names) ≠ none := by
    simp only [isFile_eq_false_iff, Ne, Path.canonicalize_eq_iff]
    exact Path.forall_isWithin_iff
      (P := fun names => names ≠ way path → Node.inside? (fs.root.at? names) ≠ none)
  rw [Ne, hroot, habove]
  constructor
  · rintro ⟨after, h⟩
    obtain ⟨parent, name, hway, hextend⟩ := addFile_eq_ok_iff.1 h
    refine ⟨by simp [hway], fun names hnames hne => ?_⟩
    rw [hway] at hnames hne
    exact Node.exists_extend_iff.1 ⟨_, hextend⟩ names
      ((List.prefix_concat_iff.1 hnames).resolve_left hne)
  · rintro ⟨hne, h⟩
    obtain ⟨parent, name, hway⟩ := (List.eq_nil_or_concat (way path)).resolve_left hne
    rw [hway, List.concat_eq_append] at h
    obtain ⟨entries, hextend⟩ : ∃ entries,
        Node.extend (Keyed.put · name (.file content)) parent fs.entries = some entries := by
      refine Node.exists_extend_iff.2 fun names hnames => ?_
      refine h names (hnames.trans (List.prefix_append _ _)) ?_
      rintro rfl
      exact absurd hnames.length_le (by simp)
    exact ⟨⟨entries⟩, addFile_eq_ok_iff.2
      ⟨parent, name, hway.trans (List.concat_eq_append ..), hextend⟩⟩

/-! ### Additions -/

/-- What is added stands at its path, whichever way the path is spelled, and nothing but what has
to make room for it is lost. -/
theorem additions (fs : Filesystem) (path : String) :
    (∀ content after, fs.addFile path content = .ok after → FileAdded fs after path content) ∧
      ∀ after, fs.addDir path = .ok after → DirectoryAdded fs after path :=
  ⟨fun _ _ => fileAdded_of_addFile, fun _ => directoryAdded_of_addDir⟩

/-- A directory with one file. -/
def shelf : Filesystem := ⟨[("a", .dir [("x", .file "old")])]⟩

/-- A file takes the place of the directory, which is spelled with a detour, and a directory is
added next to it. -/
theorem additions_shelf :
    (shelf.addFile "//a/b/.." "new" = .ok ⟨[("a", .file "new")]⟩ ∧
      FileAdded shelf ⟨[("a", .file "new")]⟩ "//a/b/.." "new") ∧
    (shelf.addDir "/c/d/" = .ok ⟨shelf.entries ++ [("c", .dir [("d", .dir [])])]⟩ ∧
      DirectoryAdded shelf ⟨shelf.entries ++ [("c", .dir [("d", .dir [])])]⟩ "/c/d/") := by
  have hfile : shelf.addFile "//a/b/.." "new" = .ok ⟨[("a", .file "new")]⟩ := rfl
  have hdir : shelf.addDir "/c/d/" = .ok ⟨shelf.entries ++ [("c", .dir [("d", .dir [])])]⟩ := rfl
  exact ⟨⟨hfile, (additions shelf "//a/b/..").1 _ _ hfile⟩,
    hdir, (additions shelf "/c/d/").2 _ hdir⟩

end MissionConsole.Filesystem
