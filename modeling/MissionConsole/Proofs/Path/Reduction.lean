import MissionConsole.Proofs.Path.Parent
import Mathlib.Data.List.Induction

/-!
# The normal form of a path

Following a path, `.` stays where one is, `..` goes back over the last name, or nowhere at the
root, and any other segment enters what it names. Where the segments of a path lead is a list of
names, and the canonical form is the one canonical text for that list.

## Main definitions

* `Path.LeadsTo` — where segments lead from the root

## Main results

* `Path.leadsTo_iff` — segments lead to one place, which is what they reduce to
* `Path.IsCanonical.getLast?_ne_slash` — a canonical path has no slash at its end, but for the root
* `Path.IsCanonical.join_segments` — a canonical path is its segments, joined by slashes
* `Path.normal_form` — canonical forms, told from texts and from where the segments lead
-/

namespace MissionConsole.Path

/-! ### Where segments lead -/

/-- The names on the way from the root to where segments lead. -/
inductive LeadsTo : List String → List String → Prop
  /-- No segments lead nowhere from the root. -/
  | root : LeadsTo [] []
  /-- A dot stays. -/
  | stay {segs names : List String} : LeadsTo segs names → LeadsTo (segs ++ ["."]) names
  /-- Two dots go back over the last name. -/
  | back {segs names : List String} {name : String} : LeadsTo segs (names ++ [name]) →
    LeadsTo (segs ++ [".."]) names
  /-- At the root there is nothing to go back over. -/
  | stop {segs : List String} : LeadsTo segs [] → LeadsTo (segs ++ [".."]) []
  /-- Every other segment is a name to enter. -/
  | enter {segs names : List String} {name : String} : name ≠ "." → name ≠ ".." →
    LeadsTo segs names → LeadsTo (segs ++ [name]) (names ++ [name])

variable {p : String} {segs names : List String}

theorem leadsTo_reduce (segs : List String) : LeadsTo segs (reduce segs) := by
  -- What the last segment does depends on where the ones before it have led.
  induction segs using List.reverseRecOn with
  | nil => exact .root
  | append_singleton segs seg ih =>
    by_cases hdot : seg = "."
    · rw [hdot, reduce_append_dot]
      exact .stay ih
    by_cases hdotdot : seg = ".."
    · rw [hdotdot, reduce_append_dotdot]
      rcases List.eq_nil_or_concat (reduce segs) with hroot | ⟨names, name, hnames⟩
      · rw [hroot] at ih ⊢
        exact .stop ih
      · rw [hnames, List.concat_eq_append] at ih ⊢
        rw [List.dropLast_concat]
        exact .back ih
    · rw [reduce_append_name hdot hdotdot]
      exact .enter hdot hdotdot ih

theorem LeadsTo.eq_reduce (h : LeadsTo segs names) : names = reduce segs := by
  induction h with
  | root => rfl
  | stay _ ih => rw [reduce_append_dot, ih]
  | back _ ih => rw [reduce_append_dotdot, ← ih, List.dropLast_concat]
  | stop _ ih => rw [reduce_append_dotdot, ← ih, List.dropLast_nil]
  | enter hdot hdotdot _ ih => rw [reduce_append_name hdot hdotdot, ih]

/-- Segments lead to one place. -/
theorem leadsTo_iff : LeadsTo segs names ↔ names = reduce segs :=
  ⟨LeadsTo.eq_reduce, fun h => h ▸ leadsTo_reduce segs⟩

/-! ### Canonical texts -/

/-- A path made of names ends in the last one, and not in a slash. -/
theorem getLast?_ofNames_ne_slash (hnames : ∀ n ∈ names, IsName n) (hne : names ≠ []) :
    (ofNames names).toList.getLast? ≠ some '/' := by
  obtain ⟨parent, name, rfl⟩ := (List.eq_nil_or_concat' names).resolve_left hne
  have hname : IsName name := hnames name List.mem_concat_self
  -- Behind the last slash there is a name, so its last character is that of the path.
  obtain ⟨before, hchars, -⟩ := toList_ofNames_concat parent name
  have hempty : name.toList ≠ [] := fun h => hname.ne_empty (String.toList_eq_nil_iff.1 h)
  rw [hchars, List.append_cons, List.getLast?_append_of_ne_nil _ hempty]
  exact fun hlast => hname.no_slash (List.mem_of_getLast? hlast)

theorem IsCanonical.getLast?_ne_slash (h : IsCanonical p) (hne : p ≠ "/") :
    p.toList.getLast? ≠ some '/' := by
  obtain ⟨names, hnames, rfl⟩ := h.exists_names
  refine getLast?_ofNames_ne_slash hnames ?_
  rintro rfl
  exact hne rfl

/-- A canonical path is its segments, joined by slashes. -/
theorem IsCanonical.join_segments (h : IsCanonical p) :
    "/" ++ "/".intercalate (segments p) = p := by
  obtain ⟨names, hnames, rfl⟩ := h.exists_names
  rw [segments_ofNames hnames, ofNames]

/-- Canonical paths are those that the parts between their slashes say: the root, or a slash first
and none at the end, and then nothing that is empty, `.` or `..`. The canonical form of a path is
canonical, and no other path is its own canonical form. Its segments are where the segments of the
path lead, and a canonical path is its segments again, joined by slashes. -/
theorem normal_form (p : String) :
    (IsCanonical p ↔
      p = "/" ∨
        Text.startsWith p "/" = true ∧ p.toList.getLast? ≠ some '/' ∧
          ∀ part ∈ (Text.splitOn '/' p).tail, part ≠ "" ∧ part ≠ "." ∧ part ≠ "..") ∧
      IsCanonical (canonicalize p) ∧
      (canonicalize p = p ↔ IsCanonical p) ∧
      (∀ names, LeadsTo (segments p) names ↔ names = segments (canonicalize p)) ∧
      (IsCanonical p → "/" ++ "/".intercalate (segments p) = p) := by
  refine ⟨⟨fun h => ?_, ?_⟩, isCanonical_canonicalize p, isCanonical_iff.symm, fun names => ?_,
    IsCanonical.join_segments⟩
  · by_cases hroot : p = "/"
    · exact .inl hroot
    · obtain ⟨hslash, hparts⟩ := h.resolve_left hroot
      exact .inr ⟨hslash, h.getLast?_ne_slash hroot, hparts⟩
  · rintro (hroot | ⟨hslash, -, hparts⟩)
    · exact .inl hroot
    · exact .inr ⟨hslash, hparts⟩
  · rw [segments_canonicalize, leadsTo_iff]

/-- Climbing past the root and dots inside names, where only the former is undone. -/
theorem normal_form_climb :
    canonicalize "../..//a/./.../b/../c." = "/a/.../c." ∧
      LeadsTo ["..", "..", "a", ".", "...", "b", "..", "c."] ["a", "...", "c."] ∧
      IsCanonical "/a/.../c." ∧ "/" ++ "/".intercalate (segments "/a/.../c.") = "/a/.../c." := by
  have hform : canonicalize "../..//a/./.../b/../c." = "/a/.../c." := by decide +kernel
  obtain ⟨-, hcanonical, -, hleads, -⟩ := normal_form "../..//a/./.../b/../c."
  rw [hform] at hcanonical hleads
  exact ⟨hform, (hleads _).2 (by decide +kernel), hcanonical,
    (normal_form "/a/.../c.").2.2.2.2 hcanonical⟩

end MissionConsole.Path
