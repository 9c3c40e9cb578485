import MissionConsole.Proofs.Path.Parent

/-!
# Lying below as the order of a tree

A path lies below another one when the way to it begins with the way to the other. Ways are ordered
by their beginnings as the nodes of a tree are, and this order carries over to paths in whatever
spelling. It is not the order of texts: `/secrets2` begins with the text of `/secrets` and stands
beside it.

## Main results

* `Path.isWithin_iff_segments` — lying below, told from the segments of the canonical forms
* `Path.isWithin_refl`, `Path.isWithin_trans`, `Path.isWithin_antisymm` — lying below is an order
* `Path.startsWith_slash_of_isWithin` — how the text of a path goes on in one below it
* `Path.isWithin_tree_order` — the laws of lying below
-/

namespace MissionConsole.Path

variable {p q r rest : String}

theorem isWithin_iff_segments (p r : String) :
    isWithin p r = true ↔ segments (canonicalize r) <+: segments (canonicalize p) := by
  rw [segments_canonicalize, segments_canonicalize]
  exact isWithin_iff_prefix p r

/-! ### An order -/

theorem isWithin_refl (p : String) : isWithin p p = true :=
  isWithin_iff_way.2 List.prefix_rfl

theorem isWithin_trans (hpq : isWithin p q = true) (hqr : isWithin q r = true) :
    isWithin p r = true :=
  isWithin_iff_way.2 ((isWithin_iff_way.1 hqr).trans (isWithin_iff_way.1 hpq))

/-- Paths below each other are spellings of one path. -/
theorem isWithin_antisymm (hpr : isWithin p r = true) (hrp : isWithin r p = true) :
    canonicalize p = canonicalize r := by
  have hdown := isWithin_iff_way.1 hpr
  have hup := isWithin_iff_way.1 hrp
  exact canonicalize_eq_iff.2 (hup.eq_of_length_le hdown.length_le)

theorem isWithin_root (p : String) : isWithin p "/" = true :=
  isWithin_iff_way.2 List.nil_prefix

/-! ### The texts -/

/-- Where a path lies below another one, its text goes on behind that of the other with a slash. -/
theorem startsWith_slash_of_isWithin (hwithin : isWithin p r = true) (hroot : canonicalize r ≠ "/")
    (htext : canonicalize p = canonicalize r ++ rest) :
    rest = "" ∨ Text.startsWith rest "/" = true := by
  have hr : way r ≠ [] := fun h => hroot (canonicalize_eq_iff (q := "/").2 h)
  -- What follows in the text is told by the names that follow on the way.
  obtain ⟨more, hway⟩ := isWithin_iff_way.1 hwithin
  rcases eq_or_ne more [] with rfl | hmore
  · rw [List.append_nil, ← canonicalize_eq_iff] at hway
    have hsame : canonicalize r ++ "" = canonicalize r ++ rest := by
      rw [String.append_empty, ← htext, hway]
    exact .inl ((String.append_right_inj _).1 hsame).symm
  · have hlonger : canonicalize p = canonicalize r ++ ("/" ++ "/".intercalate more) := by
      rw [← String.append_assoc]
      exact (congrArg ofNames hway).symm.trans (ofNames_append hr hmore)
    rw [hlonger, String.append_right_inj] at htext
    rw [← htext, Text.startsWith, String.toList_append, List.isPrefixOf_iff_prefix]
    exact .inr (List.prefix_append _ _)

/-- A path lies below another one exactly when its segments, once both are canonical, begin with
those of the other. So every path lies below itself, what lies below a path below a third one lies
below the third, paths below each other have one canonical form, and all paths lie below the root.
A path whose text begins with that of another one and then goes on within the name does not lie
below it. -/
theorem isWithin_tree_order (p r : String) :
    (isWithin p r = true ↔ segments (canonicalize r) <+: segments (canonicalize p)) ∧
      isWithin p p = true ∧
      (∀ q, isWithin p q = true → isWithin q r = true → isWithin p r = true) ∧
      (isWithin p r = true → isWithin r p = true → canonicalize p = canonicalize r) ∧
      isWithin p "/" = true ∧
      ∀ rest, canonicalize r ≠ "/" → canonicalize p = canonicalize r ++ rest → rest ≠ "" →
        Text.startsWith rest "/" = false → isWithin p r = false := by
  refine ⟨isWithin_iff_segments p r, isWithin_refl p, fun q => isWithin_trans, isWithin_antisymm,
    isWithin_root p, fun rest hroot htext hmore hname => ?_⟩
  rw [← Bool.not_eq_true]
  intro hwithin
  rcases startsWith_slash_of_isWithin hwithin hroot htext with hempty | hslash
  · exact hmore hempty
  · exact Bool.false_ne_true (hname.symm.trans hslash)

/-- The restricted directory, a file in it, other spellings of it and its neighbour. -/
theorem isWithin_tree_order_secrets :
    isWithin "/secrets/old/../note" "//secrets/." = true ∧
      isWithin "/secrets/old/../note" "/" = true ∧
      canonicalize "/docs/../secrets" = canonicalize "secrets//" ∧
      isWithin "/docs/../secrets2/note" "secrets/" = false := by
  obtain ⟨-, -, htrans, -, hroot, -⟩ := isWithin_tree_order "/secrets/old/../note" "//secrets/."
  refine ⟨htrans "/secrets/note/." (by decide +kernel) (by decide +kernel), hroot,
    (isWithin_tree_order "/docs/../secrets" "secrets//").2.2.2.1 (by decide +kernel)
      (by decide +kernel),
    (isWithin_tree_order "/docs/../secrets2/note" "secrets/").2.2.2.2.2 "2/note" (by decide +kernel)
      (by decide +kernel) (by decide) (by decide)⟩

end MissionConsole.Path
