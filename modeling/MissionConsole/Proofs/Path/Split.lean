import MissionConsole.Proofs.Path.Parent

/-!
# Cutting a path and joining it again

A file is put where its path is cut: the last name is the file's, and what stands before it is the
directory. Cutting takes the last name off the way to the path, and joining a directory and a name
puts it there, so each of the two undoes the other. At the root there is no name to cut off, and the
root is all that is left of a path of one name.

## Main results

* `Path.split_fst`, `Path.isName_split_snd` — the parent of a path and its last name
* `Path.resolve_split` — the parts of a path, joined again
* `Path.split_of_way_child` — the parts of a path that leads to an entry of a directory
* `Path.split_undoes_joining` — cutting undoes joining, and joining undoes cutting
-/

namespace MissionConsole.Path

variable {p d name : String}

/-! ### The way to the parent -/

/-- The way to the parent of a path is one name shorter; that of the root is as empty as before. -/
theorem way_dotdot (p : String) : way (p ++ "/..") = (way p).dropLast := by
  have hjoin : p ++ "/.." = p ++ "/" ++ ".." := by
    rw [String.append_assoc]
    rfl
  have hdotdot : segments ".." = [".."] := rfl
  rw [hjoin, way, segments_append_slash, hdotdot, reduce_append_dotdot, way]

theorem ofNames_way (p : String) : ofNames (way p) = canonicalize p := rfl

theorem IsCanonical.ofNames_way (h : IsCanonical d) : ofNames (way d) = d :=
  isCanonical_iff.1 h

theorem way_eq_nil_iff : way p = [] ↔ canonicalize p = "/" :=
  (canonicalize_eq_iff (q := "/")).symm

/-! ### Cutting -/

/-- Except at the root, a path is cut into the way to its parent and its last name. -/
theorem exists_split (h : canonicalize p ≠ "/") :
    ∃ parent name, way p = parent ++ [name] ∧ IsName name ∧ split p = (ofNames parent, name) := by
  have hway : way p ≠ [] := fun hnil => h (way_eq_nil_iff.1 hnil)
  obtain ⟨parent, name, hcut⟩ := (List.eq_nil_or_concat' (way p)).resolve_left hway
  exact ⟨parent, name, hcut, isName_of_mem_way (hcut ▸ List.mem_concat_self), split_of_way hcut⟩

/-- What stands before the last name is where one step back from the path leads. -/
theorem split_fst (p : String) : (split p).1 = canonicalize (p ++ "/..") := by
  rw [← ofNames_way, way_dotdot]
  by_cases hroot : canonicalize p = "/"
  · have hway := way_eq_nil_iff.2 hroot
    rw [split_of_way_nil hway, hway]
    rfl
  · obtain ⟨parent, name, hway, -, hsplit⟩ := exists_split hroot
    rw [hsplit, hway, List.dropLast_concat]

theorem isName_split_snd (h : canonicalize p ≠ "/") : IsName (split p).2 := by
  obtain ⟨parent, name, -, hname, hsplit⟩ := exists_split h
  rwa [hsplit]

/-- The last name means the path when it is seen from the parent. -/
theorem resolve_split (p : String) : resolve (split p).1 (split p).2 = canonicalize p := by
  by_cases hroot : canonicalize p = "/"
  · rw [split_of_way_nil (way_eq_nil_iff.2 hroot), hroot]
    rfl
  · obtain ⟨parent, name, hway, hname, hsplit⟩ := exists_split hroot
    have hparent : way (ofNames parent) = parent :=
      way_ofNames fun n hn => isName_of_mem_way (hway ▸ List.mem_append_left _ hn)
    -- Both are canonical, and the way to both is that to the parent and then the name.
    rw [← isCanonical_iff.1 (isCanonical_resolve (split p).1 (split p).2), canonicalize_eq_iff,
      hsplit, way_resolve hname, hparent, hway]

/-! ### Joining -/

/-- A path that leads to an entry of a directory is cut into the directory and the entry's name,
however it is written. -/
theorem split_of_way_child (hd : IsCanonical d) (h : way p = way d ++ [name]) :
    split p = (d, name) := by
  rw [split_of_way h, hd.ofNames_way]

theorem way_trimSlashes (p : String) : way (trimSlashes p) = way p := by
  rw [way, segments_trimSlashes, way]

/-- What stands before the last name of a path is where one step back leads, and seen from there the
last name means the path. Except at the root, which is cut into itself and no name, the last name is
one. A directory and a name that are joined, with the slash of the root written once or twice, are
cut into the directory and the name again. -/
theorem split_undoes_joining (p : String) :
    (split p).1 = canonicalize (p ++ "/..") ∧
      resolve (split p).1 (split p).2 = canonicalize p ∧
      (canonicalize p ≠ "/" →
        (split p).2 ≠ "" ∧ '/' ∉ (split p).2.toList ∧ (split p).2 ≠ "." ∧ (split p).2 ≠ "..") ∧
      (canonicalize p = "/" → split p = ("/", "")) ∧
      ∀ d name, IsCanonical d → name ≠ "" → '/' ∉ name.toList → name ≠ "." → name ≠ ".." →
        split (d ++ "/" ++ name) = (d, name) ∧
          split (trimSlashes d ++ "/" ++ name) = (d, name) ∧
          split (resolve d name) = (d, name) := by
  refine ⟨split_fst p, resolve_split p, fun hroot => ?_, fun hroot => ?_, ?_⟩
  · have hname := isName_split_snd hroot
    exact ⟨hname.ne_empty, hname.no_slash, hname.ne_dot, hname.ne_dotdot⟩
  · exact split_of_way_nil (way_eq_nil_iff.2 hroot)
  · intro d name hd hempty hslash hdot hdotdot
    have hname : IsName name := ⟨hempty, hdot, hdotdot, hslash⟩
    refine ⟨split_of_way_child hd (way_child hname d), split_of_way_child hd ?_,
      split_of_way_child hd (way_resolve hname d)⟩
    rw [way_child hname, way_trimSlashes]

/-- A path two names deep with a detour, the root in a long spelling, and entries of the root and of
a directory. -/
theorem split_undoes_joining_detour :
    canonicalize "//docs/./old/..//regions.txt/" = "/docs/regions.txt" ∧
      split "//docs/./old/..//regions.txt/" = ("/docs", "regions.txt") ∧
      '/' ∉ "regions.txt".toList ∧
      split "/docs/../.." = ("/", "") ∧
      split ("/" ++ "/" ++ "secrets") = ("/", "secrets") ∧
      split (trimSlashes "/" ++ "/" ++ "secrets") = ("/", "secrets") ∧
      split (resolve "/usr/local" "...") = ("/usr/local", "...") := by
  obtain ⟨-, -, hname, -, hjoin⟩ := split_undoes_joining "//docs/./old/..//regions.txt/"
  have hcut : split "//docs/./old/..//regions.txt/" = ("/docs", "regions.txt") := by decide +kernel
  rw [hcut] at hname
  obtain ⟨hroot, htrimmed, -⟩ := hjoin "/" "secrets" (.inl rfl) (by decide) (by decide) (by decide)
    (by decide)
  obtain ⟨-, -, hbelow⟩ := hjoin "/usr/local" "..." (.inr (by decide +kernel)) (by decide)
    (by decide) (by decide) (by decide)
  exact ⟨by decide +kernel, hcut, (hname (by decide +kernel)).2.1,
    (split_undoes_joining "/docs/../..").2.2.2.1 (by decide +kernel), hroot, htrimmed, hbelow⟩

end MissionConsole.Path
