import MissionConsole.Proofs.Filesystem.Construction
import Mathlib.Data.List.Nodup

/-!
# Listings of built trees

Whatever is found in a built tree is listed once by the directory that holds it, and whatever is
listed is found. Names keep their order: an addition puts at most one name into a directory that was
there before, behind all others, and one that writes over a file puts none.

## Main results

* `Filesystem.count_of_exists`, `Filesystem.exists_of_mem_list?` — what is found is listed, and what
  is listed is found
* `Filesystem.list?_attempt`, `Filesystem.list?_attempt_of_isFile` — listings before and after an
  addition
* `Filesystem.built_orderly` — all of it, for every built tree
-/

namespace MissionConsole.Filesystem

open MissionConsole.Path (canonicalize isWithin way IsName)

variable {fs after : Filesystem} {path q content name : String} {addition : Layout.Entry}
  {names names' : List String}

/-! ### Names in directories -/

/-- What stands at a path other than the root stands in a directory, once. -/
theorem count_of_exists (h : fs.root.Tidy) (hexists : fs.exists? path = true)
    (hroot : canonicalize path ≠ "/") :
    ∃ names, fs.list? (Path.split path).1 = some names ∧ names.count (Path.split path).2 = 1 := by
  have hway : way path ≠ [] := mt (Path.canonicalize_eq_iff (q := "/")).2 hroot
  obtain ⟨parent, name, hway⟩ := (List.eq_nil_or_concat (way path)).resolve_left hway
  rw [List.concat_eq_append] at hway
  have hparent : way (Path.ofNames parent) = parent :=
    Path.way_ofNames fun n hn => Path.isName_of_mem_way (hway ▸ List.mem_append_left _ hn)
  obtain ⟨node, hnode⟩ := Option.isSome_iff_exists.1 hexists
  rw [node?_eq_at?, hway, Node.at?_concat_eq_some] at hnode
  obtain ⟨entries, hentries, hchild⟩ := hnode
  have hmem : name ∈ Keyed.keys entries := by
    rw [Node.child?_eq_lookup] at hchild
    exact Keyed.mem_keys_of_lookup hchild
  rw [Path.split_of_way hway]
  refine ⟨Keyed.keys entries, ?_, List.count_eq_one_of_mem (h.at? hentries).nodup hmem⟩
  refine list?_eq_some_iff.2 ⟨entries, ?_, rfl⟩
  rw [node?_eq_at?, hparent, hentries]

/-- What a directory lists are names, and each of them stands for something there. -/
theorem exists_of_mem_list? (h : fs.root.Tidy) (hlist : fs.list? path = some names)
    (hname : name ∈ names) : IsName name ∧ fs.exists? (Path.resolve path name) = true := by
  obtain ⟨entries, hnode, rfl⟩ := list?_eq_some_iff.1 hlist
  rw [node?_eq_at?] at hnode
  have hisName : IsName name := (h.at? hnode).isName hname
  obtain ⟨child, hchild⟩ := Keyed.exists_lookup_of_mem hname
  rw [← Node.child?_eq_lookup] at hchild
  refine ⟨hisName, ?_⟩
  rw [exists?, node?_eq_at?, Path.way_resolve hisName,
    Node.at?_concat_eq_some.2 ⟨entries, hnode, hchild⟩, Option.isSome_some]

/-! ### Listings -/

/-- Above the path of an addition at most one name is new, and it comes last. -/
theorem KeepsAbove.eq_or_append (h : KeepsAbove fs after path) (hwithin : isWithin path q = true)
    (hne : canonicalize q ≠ canonicalize path) (hbefore : fs.list? q = some names)
    (hafter : after.list? q = some names') :
    names' = names ∨ ∃ name, name ∉ names ∧ names' = names ++ [name] := by
  obtain ⟨entries, hnode, rfl⟩ := list?_eq_some_iff.1 hbefore
  obtain ⟨next, entries', -, -, hnode', hkeeps⟩ := h q hwithin hne
  obtain rfl : entries'.map (·.1) = names' := by
    rw [list?_eq_some_iff.2 ⟨entries', hnode', rfl⟩] at hafter
    exact Option.some.inj hafter
  have hnames := (hkeeps entries hnode).names
  split_ifs at hnames with hnext
  · exact .inl hnames
  · exact .inr ⟨next, hnext, hnames⟩

theorem list?_eq_of_node?_eq (h : after.node? q = fs.node? q) : after.list? q = fs.list? q := by
  rw [list?, list?, h]

/-- A directory that is one before and after an addition has its names, and at most one more. -/
theorem list?_add (hadd : fs.add addition = .ok after) (hbefore : fs.list? q = some names)
    (hafter : after.list? q = some names') :
    names' = names ∨ ∃ name, name ∉ names ∧ names' = names ++ [name] := by
  have same (hnode : after.node? q = fs.node? q) :
      names' = names ∨ ∃ name, name ∉ names ∧ names' = names ++ [name] := by
    rw [list?_eq_of_node?_eq hnode, hbefore] at hafter
    exact .inl (Option.some.inj hafter).symm
  cases addition with
  | dir path =>
    have hadd : fs.addDir path = .ok after := hadd
    by_cases hwithin : isWithin path q = true
    · by_cases hq : canonicalize q = canonicalize path
      · obtain ⟨old, hold, -⟩ := list?_eq_some_iff.1 hbefore
        obtain ⟨entries, hnode, hsame⟩ := node?_of_addDir hadd hq
        exact same (by rw [hnode, hold, hsame old hold])
      · exact (keepsAbove_of_addDir hadd).eq_or_append hwithin hq hbefore hafter
    · exact same (elsewhere_of_addDir hadd (by simpa using hwithin))
  | file path content =>
    have hadd : fs.addFile path content = .ok after := hadd
    obtain ⟨entries, hentries, -⟩ := list?_eq_some_iff.1 hafter
    by_cases hq : canonicalize q = canonicalize path
    · rw [node?_of_addFile hadd hq] at hentries
      exact absurd hentries nofun
    · by_cases hwithin : isWithin path q = true
      · exact (keepsAbove_of_addFile hadd).eq_or_append hwithin hq hbefore hafter
      · by_cases hbelow : isWithin q path = true
        · rw [node?_below_of_addFile hadd hbelow hq] at hentries
          exact absurd hentries nofun
        · exact same (elsewhere_of_addFile hadd (by simpa using hwithin) (by simpa using hbelow))

/-- On the way to what stands somewhere each directory holds the next name. -/
theorem exists_child_of_exists {next : String} (hexists : fs.exists? path = true)
    (hnext : way q ++ [next] <+: way path) :
    ∃ entries, fs.node? q = some (.dir entries) ∧ next ∈ entries.map (·.1) := by
  obtain ⟨node, hnode⟩ := Option.isSome_iff_exists.1 hexists
  obtain ⟨rest, hrest⟩ := hnext
  rw [node?_eq_at?, ← hrest, Node.at?_append, Option.bind_eq_some_iff] at hnode
  obtain ⟨found, hfound, -⟩ := hnode
  obtain ⟨entries, hentries, hchild⟩ := Node.at?_concat_eq_some.1 hfound
  rw [Node.child?_eq_lookup] at hchild
  exact ⟨entries, (node?_eq_at? fs q).trans hentries, Keyed.mem_keys_of_lookup hchild⟩

/-- Writing over a file changes no listing. -/
theorem list?_addFile_of_isFile (hadd : fs.addFile path content = .ok after)
    (hfile : fs.isFile path = true) (q : String) : after.list? q = fs.list? q := by
  obtain ⟨old, hold⟩ := isFile_iff.1 hfile
  by_cases hq : canonicalize q = canonicalize path
  · have hsame : fs.node? q = some (.file old) := by
      rw [node?_eq_at?, Path.canonicalize_eq_iff.1 hq, ← node?_eq_at?, hold]
    rw [list?, list?, node?_of_addFile hadd hq, hsame]
  by_cases hwithin : isWithin path q = true
  · obtain ⟨next, entries', hname, hbelow, hnode', hkeeps⟩ :=
      keepsAbove_of_addFile hadd q hwithin hq
    obtain ⟨content, hcontent⟩ := isFile_iff.1 hfile
    have hexists : fs.exists? path = true := Option.isSome_iff_exists.2 ⟨_, hcontent⟩
    rw [Path.isWithin_iff_way, Path.way_child hname] at hbelow
    obtain ⟨entries, hnode, hnext⟩ := exists_child_of_exists hexists hbelow
    have hnames := (hkeeps entries hnode).names
    rw [if_pos hnext] at hnames
    rw [list?_eq_some_iff.2 ⟨entries', hnode', hnames⟩, list?_eq_some_iff.2 ⟨entries, hnode, rfl⟩]
  by_cases hbelow : isWithin q path = true
  · -- Below a file nothing stands, before and after.
    obtain ⟨next, rest, hway, -, -⟩ := Path.exists_next hbelow (Ne.symm hq)
    have hnone : fs.node? q = none := by
      rw [node?_eq_at?, hway, Node.at?_append, ← node?_eq_at?, hold]
      rfl
    rw [list?, list?, node?_below_of_addFile hadd hbelow hq, hnone]
  · exact list?_eq_of_node?_eq
      (elsewhere_of_addFile hadd (by simpa using hwithin) (by simpa using hbelow))

/-- The same in place, where a refused addition counts as well. -/
theorem list?_attempt (h : fs.root.Tidy) (hbefore : fs.list? q = some names)
    (hafter : (fs.attempt addition).1.list? q = some names') :
    names' = names ∨ ∃ name, name ∉ names ∧ names' = names ++ [name] := by
  rw [attempt_eq h] at hafter
  rcases hadd : fs.add addition with error | after
  · rw [hadd] at hafter
    exact .inl (Option.some.inj (hafter.symm.trans hbefore))
  · rw [hadd] at hafter
    exact list?_add hadd hbefore hafter

theorem list?_attempt_of_isFile (h : fs.root.Tidy) (hfile : fs.isFile path = true)
    (content q : String) : (fs.attempt (.file path content)).1.list? q = fs.list? q := by
  rw [attempt_eq h, add]
  rcases hadd : fs.addFile path content with error | after
  · rfl
  · exact list?_addFile_of_isFile hadd hfile q

/-! ### Built trees -/

/-- Whatever was added before. What stands at a path other than the root stands in a directory that
lists its name once; what a directory lists are names, and each of them is found there; directories
and no others have listings, files and no others have contents, and nothing is both. A further
addition, refused or not, leaves the names of a directory in their order, and may put one more
behind them; writing over a file leaves all listings as they are. -/
theorem built_orderly (additions : List Layout.Entry) :
    let fs := built additions
    (∀ path, fs.exists? path = true → canonicalize path ≠ "/" →
        ∃ names, fs.list? (Path.split path).1 = some names ∧
          names.count (Path.split path).2 = 1) ∧
      (∀ path names, fs.list? path = some names →
        ∀ name ∈ names, IsName name ∧ fs.exists? (Path.resolve path name) = true) ∧
      (∀ path, ((fs.list? path).isSome = true ↔ fs.isDirectory path = true) ∧
        ((fs.read? path).isSome = true ↔ fs.isFile path = true) ∧
        ¬ ((fs.list? path).isSome = true ∧ (fs.read? path).isSome = true)) ∧
      (∀ addition path names names', fs.list? path = some names →
        (fs.attempt addition).1.list? path = some names' →
          names' = names ∨ ∃ name, name ∉ names ∧ names' = names ++ [name]) ∧
      ∀ path content, fs.isFile path = true →
        ∀ directory, (fs.attempt (.file path content)).1.list? directory = fs.list? directory := by
  intro fs
  have htidy : fs.root.Tidy := tidy_built additions
  refine ⟨fun _ => count_of_exists htidy, fun _ _ hlist _ => exists_of_mem_list? htidy hlist,
    fun path => ?_, fun _ _ _ _ => list?_attempt htidy,
    fun _ content hfile => list?_attempt_of_isFile htidy hfile content⟩
  rw [list?, read?, isDirectory, isFile]
  rcases fs.node? path with - | (content | entries) <;> simp

/-- A refused addition, and a file that is written over, spelled with a detour. -/
theorem built_orderly_overwritten :
    let additions : List Layout.Entry := [.file "/a/x" "old", .dir "/a/y", .dir "/a/x/z"]
    let fs := built additions
    (fs.exists? "/a/x" = true ∧ fs.list? "/a" = some ["x", "y"]) ∧
      (∃ names, fs.list? "/a" = some names ∧ names.count "x" = 1) ∧
      fs.exists? (Path.resolve "/a" "y") = true ∧
      (fs.attempt (.file "//a/b/../x" "new")).1.list? "/a" = some ["x", "y"] := by
  intro additions fs
  have hlist : fs.list? "/a" = some ["x", "y"] := rfl
  obtain ⟨hparent, hnames, -, -, hover⟩ := built_orderly additions
  have hfile : fs.isFile "//a/b/../x" = true := rfl
  exact ⟨⟨rfl, hlist⟩, hparent "/a/x" rfl (by decide), (hnames "/a" _ hlist "y" (by decide)).2,
    (hover _ "new" hfile "/a").trans hlist⟩

end MissionConsole.Filesystem
