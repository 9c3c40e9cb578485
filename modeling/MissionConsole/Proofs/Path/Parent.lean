import MissionConsole.Proofs.Path.Canonical

/-!
# The way to a path, its parent and its last name

A path names a way from the root, and two spellings of a way have one canonical form. Cutting the
canonical form at its last slash cuts the last name off the way, and writing a name behind a path
puts it there.

## Main definitions

* `Path.way` — the names on the way from the root

## Main results

* `Path.canonicalize_eq_iff`, `Path.isWithin_iff_way` — spellings of one path, and paths below
  another, told from their ways
* `Path.forall_isWithin_iff` — what holds of all paths above one, told from its way
* `Path.split_of_way` — the parent and the last name of a path
* `Path.way_child`, `Path.way_resolve` — the way to an entry of a directory
* `Path.resolve_of_absolute`, `Path.resolve_of_relative` — paths seen from a directory
* `Path.exists_next` — the entry by which the way from a path goes on to one below it
-/

namespace MissionConsole.Path

/-- The names on the way from the root to a path. -/
def way (path : String) : List String := reduce (segments path)

variable {p q name : String} {parent : List String}

theorem isName_of_mem_way (h : name ∈ way p) : IsName name := isName_of_mem_reduce h

theorem canonicalize_eq_iff : canonicalize p = canonicalize q ↔ way p = way q :=
  ⟨ofNames_injective (fun _ => isName_of_mem_way) fun _ => isName_of_mem_way, congrArg ofNames⟩

@[simp] theorem way_canonicalize (p : String) : way (canonicalize p) = way p :=
  canonicalize_eq_iff.1 (canonicalize_canonicalize p)

theorem isWithin_iff_way : isWithin p q = true ↔ way q <+: way p := isWithin_iff_prefix p q

theorem way_ofNames {names : List String} (h : ∀ n ∈ names, IsName n) :
    way (ofNames names) = names := by
  rw [way, segments_ofNames h]
  exact reduce_of_names fun n hn => ⟨(h n hn).ne_dot, (h n hn).ne_dotdot⟩

/-- The ways of the paths above one are the beginnings of its way. -/
theorem forall_isWithin_iff {P : List String → Prop} :
    (∀ q, isWithin p q = true → P (way q)) ↔ ∀ names, names <+: way p → P names := by
  constructor
  · intro h names hnames
    have hway : way (ofNames names) = names :=
      way_ofNames fun n hn => isName_of_mem_way (hnames.subset hn)
    have hwithin : isWithin p (ofNames names) = true := isWithin_iff_way.2 (hway.symm ▸ hnames)
    exact hway ▸ h _ hwithin
  · intro h q hwithin
    exact h _ (isWithin_iff_way.1 hwithin)

/-! ### The parent and the last name -/

/-- The root has no name. -/
theorem split_of_way_nil (h : way p = []) : split p = ("/", "") := by
  have hcanonical : canonicalize p = ofNames [] := congrArg ofNames h
  rw [split, hcanonical]
  rfl

/-- The last name stands behind a slash. Before it stands the path to the parent, except that the
root leaves nothing there. -/
theorem toList_ofNames_concat (parent : List String) (name : String) :
    ∃ before, (ofNames (parent ++ [name])).toList = before ++ '/' :: name.toList ∧
      (if before.isEmpty then "/" else String.ofList before) = ofNames parent := by
  rcases eq_or_ne parent [] with rfl | hparent
  · exact ⟨[], by simp [toList_ofNames], rfl⟩
  · refine ⟨(ofNames parent).toList, ?_, ?_⟩
    · rw [ofNames_append hparent (List.cons_ne_nil _ _)]
      simp
    · have hne : (ofNames parent).toList.isEmpty = false := by
        rw [toList_ofNames]
        rfl
      rw [hne, if_neg Bool.false_ne_true, String.ofList_toList]

theorem split_of_way (h : way p = parent ++ [name]) : split p = (ofNames parent, name) := by
  have hslash : ∀ c ∈ name.toList.reverse, (c != '/') = true := by
    have hname : IsName name := isName_of_mem_way (h ▸ List.mem_concat_self)
    intro c hc
    rw [bne_iff_ne]
    rintro rfl
    exact hname.no_slash (List.mem_reverse.1 hc)
  obtain ⟨before, hchars, hbefore⟩ := toList_ofNames_concat parent name
  have hcanonical : canonicalize p = ofNames (parent ++ [name]) := congrArg ofNames h
  -- Read backwards, the path is the last name up to the first slash.
  have hback : (canonicalize p).toList.reverse = name.toList.reverse ++ '/' :: before.reverse := by
    rw [hcanonical, hchars]
    simp
  have hdrop : ((name.toList.reverse ++ '/' :: before.reverse).dropWhile (· != '/')).drop 1 =
      before.reverse := by
    rw [List.dropWhile_append_of_pos hslash]
    rfl
  have htake : (name.toList.reverse ++ '/' :: before.reverse).takeWhile (· != '/') =
      name.toList.reverse := by
    rw [List.takeWhile_append_of_pos hslash]
    exact List.append_nil _
  simp only [split, hback, htake, hdrop, List.reverse_reverse, String.ofList_toList, hbefore]

theorem split_snd_eq_empty_iff : (split p).2 = "" ↔ canonicalize p = "/" := by
  have hroot : canonicalize p = "/" ↔ way p = [] := canonicalize_eq_iff (q := "/")
  rw [hroot]
  rcases List.eq_nil_or_concat (way p) with hway | ⟨parent, name, hway⟩
  · simp [split_of_way_nil hway, hway]
  · rw [List.concat_eq_append] at hway
    have hname : IsName name := isName_of_mem_way (hway ▸ List.mem_concat_self)
    simp [split_of_way hway, hway, hname.ne_empty]

/-! ### Entries of a directory -/

theorem segments_append_slash (p q : String) :
    segments (p ++ "/" ++ q) = segments p ++ segments q := by
  have hchars : (p ++ "/" ++ q).toList = p.toList ++ '/' :: q.toList := by simp
  rw [segments, Text.splitOn, hchars, List.splitOn_append_cons_self, List.map_append,
    List.filter_append]
  rfl

theorem segments_of_isName (hname : IsName name) : segments name = [name] := by
  rw [segments, Text.splitOn, List.splitOn_eq_singleton hname.no_slash]
  simp [hname.ne_empty]

/-- An entry of a directory stands one name further on the way. -/
theorem way_child (hname : IsName name) (p : String) :
    way (p ++ "/" ++ name) = way p ++ [name] := by
  rw [way, segments_append_slash, segments_of_isName hname,
    reduce_append_name hname.ne_dot hname.ne_dotdot, way]

theorem segments_slash (p : String) : segments (p ++ "/") = segments p := by
  have happend := segments_append_slash p ""
  rw [String.append_empty] at happend
  exact happend.trans (List.append_nil _)

/-- Slashes at the end of a path are between no names. -/
theorem segments_trimSlashes (p : String) : segments (trimSlashes p) = segments p := by
  -- The slashes are dropped one by one, from the end.
  have hdrop : ∀ back : List Char,
      segments (String.ofList (back.dropWhile (· == '/')).reverse) =
        segments (String.ofList back.reverse) := by
    intro back
    induction back with
    | nil => rfl
    | cons c back ih =>
      by_cases hc : c = '/'
      · have hlast : String.ofList (c :: back).reverse = String.ofList back.reverse ++ "/" :=
          String.ext (by simp [hc])
        rw [List.dropWhile_cons_of_pos (by simp [hc]), ih, hlast, segments_slash]
      · rw [List.dropWhile_cons_of_neg (by simp [hc])]
  rw [trimSlashes, hdrop, List.reverse_reverse, String.ofList_toList]

/-! ### Paths seen from a directory -/

/-- An absolute path is seen the same from everywhere. -/
theorem resolve_of_absolute (cwd : String) {path : String}
    (h : Text.startsWith path "/" = true) : resolve cwd path = canonicalize path := by
  rw [resolve, if_pos h]
  split_ifs with hempty
  · rw [hempty] at h
    exact absurd h (by decide)
  · rfl

/-- A relative path is seen as it is written behind the directory, the empty one too. -/
theorem resolve_of_relative (cwd : String) {path : String}
    (h : Text.startsWith path "/" = false) :
    resolve cwd path = canonicalize (cwd ++ "/" ++ path) := by
  rw [resolve, h, if_neg Bool.false_ne_true]
  split_ifs with hempty
  · rw [hempty, String.append_empty, canonicalize_eq_iff, way, way, segments_slash]
  · rw [canonicalize_eq_iff, way, way, segments_append_slash, segments_append_slash,
      segments_trimSlashes]

/-- An entry of a directory is what its name means there. -/
theorem way_resolve (hname : IsName name) (p : String) :
    way (resolve p name) = way p ++ [name] := by
  have hrelative : Text.startsWith name "/" = false := by
    rw [← Bool.not_eq_true, Text.startsWith, List.isPrefixOf_iff_prefix]
    exact fun hslash => hname.no_slash (hslash.subset List.mem_cons_self)
  rw [resolve_of_relative p hrelative, way_canonicalize, way_child hname]

/-- From a path the way to one below it goes on by an entry. -/
theorem exists_next (hwithin : isWithin p q = true) (hne : canonicalize q ≠ canonicalize p) :
    ∃ next rest, way p = way q ++ next :: rest ∧ IsName next ∧
      isWithin p (q ++ "/" ++ next) = true := by
  obtain ⟨rest, hrest⟩ := isWithin_iff_way.1 hwithin
  rcases rest with - | ⟨next, rest⟩
  · rw [List.append_nil] at hrest
    exact absurd (canonicalize_eq_iff.2 hrest) hne
  · have hname : IsName next := isName_of_mem_way (p := p) (by simp [← hrest])
    refine ⟨next, rest, hrest.symm, hname, isWithin_iff_way.2 ?_⟩
    rw [way_child hname, ← hrest]
    exact ⟨rest, by simp⟩

end MissionConsole.Path
