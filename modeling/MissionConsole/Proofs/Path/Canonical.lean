import MissionConsole.Path
import Mathlib.Data.List.Basic

/-!
# Canonical paths

A canonical path is the root, or a slash before each of its names. The names are what is left when
`.` and `..` are carried out, so cutting a canonical path at its slashes gives back exactly the
names it was made of. Everything else about canonical paths follows from that round trip.

## Main definitions

* `Path.IsName` — the texts that stand between slashes
* `Path.IsCanonical` — canonical paths, told from their text alone

## Main results

* `Path.segments_ofNames` — a path made of names has these names as its segments
* `Path.isCanonical_canonicalize`, `Path.canonicalize_canonicalize` — canonical forms are canonical,
  and are their own canonical forms
* `Path.isCanonical_iff` — no other path is its own canonical form
* `Path.isWithin_iff_prefix` — lying below a path means continuing its names
-/

namespace MissionConsole.Path

/-- The texts that stand between the slashes of a canonical path. -/
structure IsName (n : String) : Prop where
  ne_empty : n ≠ ""
  ne_dot : n ≠ "."
  ne_dotdot : n ≠ ".."
  no_slash : '/' ∉ n.toList

/-- Canonical paths: the root, or a slash first and then, between slashes, nothing that is empty,
`.` or `..`. -/
def IsCanonical (p : String) : Prop :=
  p = "/" ∨
    Text.startsWith p "/" = true ∧
      ∀ part ∈ (Text.splitOn '/' p).tail, part ≠ "" ∧ part ≠ "." ∧ part ≠ ".."

variable {p q n : String} {names below : List String}

/-! ### Following segments -/

theorem foldl_step_of_names (h : ∀ n ∈ names, n ≠ "." ∧ n ≠ "..") (stack : List String) :
    names.foldl step stack = names.reverse ++ stack := by
  induction names generalizing stack with
  | nil => rfl
  | cons n names ih =>
    obtain ⟨hdot, hdotdot⟩ := h n List.mem_cons_self
    have hstep : step stack n = n :: stack := by rw [step, if_neg hdot, if_neg hdotdot]
    rw [List.foldl_cons, hstep, ih fun m hm => h m (List.mem_cons_of_mem _ hm)]
    simp

/-- Names are followed as they stand. -/
theorem reduce_of_names (h : ∀ n ∈ names, n ≠ "." ∧ n ≠ "..") : reduce names = names := by
  rw [reduce, foldl_step_of_names h, List.append_nil, List.reverse_reverse]

theorem reduce_append_name {segs : List String} (hdot : n ≠ ".") (hdotdot : n ≠ "..") :
    reduce (segs ++ [n]) = reduce segs ++ [n] := by
  rw [reduce, List.foldl_append, List.foldl_cons, List.foldl_nil, step, if_neg hdot,
    if_neg hdotdot, List.reverse_cons, reduce]

theorem mem_foldl_step {segs stack : List String} (h : n ∈ segs.foldl step stack) :
    n ∈ stack ∨ n ∈ segs ∧ n ≠ "." ∧ n ≠ ".." := by
  -- A step puts at most its own segment on the stack.
  induction segs generalizing stack with
  | nil => exact .inl h
  | cons seg segs ih =>
    rcases ih h with hstack | ⟨hmem, hne⟩
    · rw [step] at hstack
      split_ifs at hstack with hdot hdotdot
      · exact .inl hstack
      · exact .inl (List.mem_of_mem_tail hstack)
      · rcases List.mem_cons.1 hstack with rfl | hold
        · exact .inr ⟨List.mem_cons_self, hdot, hdotdot⟩
        · exact .inl hold
    · exact .inr ⟨List.mem_cons_of_mem _ hmem, hne⟩

theorem mem_reduce {segs : List String} (h : n ∈ reduce segs) : n ∈ segs ∧ n ≠ "." ∧ n ≠ ".." := by
  rw [reduce, List.mem_reverse] at h
  exact (mem_foldl_step h).resolve_left List.not_mem_nil

/-! ### Cutting at slashes -/

theorem no_slash_of_mem_splitOn {cs part : List Char} (h : part ∈ cs.splitOn '/') :
    '/' ∉ part := by
  induction cs generalizing part with
  | nil =>
    rw [List.splitOn_nil, List.mem_singleton] at h
    subst h
    exact List.not_mem_nil
  | cons c cs ih =>
    rw [List.splitOn_cons_eq_if_modifyHead] at h
    split_ifs at h with hc
    · rcases List.mem_cons.1 h with rfl | h
      · exact List.not_mem_nil
      · exact ih h
    · obtain ⟨first, rest, hsplit⟩ := List.exists_cons_of_ne_nil (List.splitOn_ne_nil '/' cs)
      rw [hsplit, List.modifyHead_cons] at h
      rcases List.mem_cons.1 h with rfl | h
      · have hfirst := ih (hsplit ▸ List.mem_cons_self : first ∈ cs.splitOn '/')
        rw [List.mem_cons, not_or]
        exact ⟨fun heq => hc (beq_iff_eq.2 heq.symm), hfirst⟩
      · exact ih (hsplit ▸ List.mem_cons_of_mem _ h)

theorem mem_segments (h : n ∈ segments p) : n ≠ "" ∧ '/' ∉ n.toList := by
  obtain ⟨hmem, hne⟩ := List.mem_filter.1 h
  obtain ⟨part, hpart, rfl⟩ := List.mem_map.1 hmem
  refine ⟨by simpa using hne, ?_⟩
  rw [String.toList_ofList]
  exact no_slash_of_mem_splitOn hpart

/-- What is left of a path's segments are names. -/
theorem isName_of_mem_reduce (h : n ∈ reduce (segments p)) : IsName n := by
  obtain ⟨hmem, hdot, hdotdot⟩ := mem_reduce h
  obtain ⟨hempty, hslash⟩ := mem_segments hmem
  exact ⟨hempty, hdot, hdotdot, hslash⟩

/-! ### Paths made of names -/

theorem toList_ofNames (names : List String) :
    (ofNames names).toList = '/' :: ['/'].intercalate (names.map String.toList) := by
  simp [ofNames, String.toList_intercalate]

theorem startsWith_ofNames (names : List String) : Text.startsWith (ofNames names) "/" = true := by
  rw [Text.startsWith, toList_ofNames, List.isPrefixOf_iff_prefix]
  exact ⟨_, rfl⟩

theorem splitOn_ofNames (hne : names ≠ []) (h : ∀ n ∈ names, '/' ∉ n.toList) :
    Text.splitOn '/' (ofNames names) = "" :: names := by
  have hparts : ∀ part ∈ names.map String.toList, '/' ∉ part := by
    intro part hpart
    obtain ⟨n, hn, rfl⟩ := List.mem_map.1 hpart
    exact h n hn
  have hcut := List.splitOn_append_cons_self_of_not_mem (List.not_mem_nil : '/' ∉ [])
    (['/'].intercalate (names.map String.toList))
  rw [List.nil_append, List.splitOn_intercalate '/' hparts (by simpa using hne)] at hcut
  rw [Text.splitOn, toList_ofNames, hcut]
  simp [Function.comp_def]

/-- A path made of names has these names as its segments. -/
theorem segments_ofNames (h : ∀ n ∈ names, IsName n) : segments (ofNames names) = names := by
  rcases eq_or_ne names [] with rfl | hne
  · rfl
  · have hkeep : ∀ n ∈ names, (n != "") = true := fun n hn => by simpa using (h n hn).ne_empty
    rw [segments, splitOn_ofNames hne fun n hn => (h n hn).no_slash,
      List.filter_cons_of_neg (by simp), List.filter_eq_self.2 hkeep]

theorem isCanonical_ofNames (h : ∀ n ∈ names, IsName n) : IsCanonical (ofNames names) := by
  rcases eq_or_ne names [] with rfl | hne
  · exact .inl rfl
  · refine .inr ⟨startsWith_ofNames names, fun part hpart => ?_⟩
    rw [splitOn_ofNames hne fun n hn => (h n hn).no_slash, List.tail_cons] at hpart
    have hname := h part hpart
    exact ⟨hname.ne_empty, hname.ne_dot, hname.ne_dotdot⟩

/-! ### Canonical forms -/

@[simp] theorem segments_canonicalize (p : String) :
    segments (canonicalize p) = reduce (segments p) :=
  segments_ofNames fun _ => isName_of_mem_reduce

theorem isCanonical_canonicalize (p : String) : IsCanonical (canonicalize p) :=
  isCanonical_ofNames fun _ => isName_of_mem_reduce

/-- A canonical path is made of names. -/
theorem IsCanonical.exists_names (h : IsCanonical p) :
    ∃ names, (∀ n ∈ names, IsName n) ∧ p = ofNames names := by
  rcases h with rfl | ⟨hslash, hparts⟩
  · exact ⟨[], fun _ hn => absurd hn List.not_mem_nil, rfl⟩
  · rw [Text.startsWith, List.isPrefixOf_iff_prefix] at hslash
    obtain ⟨rest, hrest⟩ := hslash
    have hchars : p.toList = '/' :: rest := hrest.symm
    have hsplit : (Text.splitOn '/' p).tail = (rest.splitOn '/').map String.ofList := by
      rw [Text.splitOn, hchars, List.splitOn_cons_eq_if_modifyHead, if_pos (beq_self_eq_true _),
        List.map_cons, List.tail_cons]
    rw [hsplit] at hparts
    refine ⟨(rest.splitOn '/').map String.ofList, fun n hn => ?_, String.ext ?_⟩
    · obtain ⟨hempty, hdot, hdotdot⟩ := hparts n hn
      obtain ⟨part, hpart, rfl⟩ := List.mem_map.1 hn
      refine ⟨hempty, hdot, hdotdot, ?_⟩
      rw [String.toList_ofList]
      exact no_slash_of_mem_splitOn hpart
    · simp [toList_ofNames, hchars, Function.comp_def, List.intercalate_splitOn]

/-- The canonical paths are those that are their own canonical forms. -/
theorem isCanonical_iff : IsCanonical p ↔ canonicalize p = p := by
  constructor
  · intro h
    obtain ⟨names, hnames, rfl⟩ := h.exists_names
    have hreduce : reduce names = names :=
      reduce_of_names fun n hn => ⟨(hnames n hn).ne_dot, (hnames n hn).ne_dotdot⟩
    rw [canonicalize, segments_ofNames hnames, hreduce]
  · intro h
    rw [← h]
    exact isCanonical_canonicalize p

@[simp] theorem canonicalize_canonicalize (p : String) :
    canonicalize (canonicalize p) = canonicalize p :=
  isCanonical_iff.1 (isCanonical_canonicalize p)

/-- Whatever a path is seen from, it is seen in its canonical form. -/
theorem isCanonical_resolve (cwd path : String) : IsCanonical (resolve cwd path) := by
  rw [resolve]
  split_ifs <;> exact isCanonical_canonicalize _

/-! ### Lying below -/

theorem ofNames_injective (hp : ∀ n ∈ names, IsName n) (hq : ∀ n ∈ below, IsName n)
    (h : ofNames names = ofNames below) : names = below := by
  rw [← segments_ofNames hp, h, segments_ofNames hq]

theorem ofNames_append (hnames : names ≠ []) (hbelow : below ≠ []) :
    ofNames (names ++ below) = ofNames names ++ "/" ++ "/".intercalate below := by
  rw [ofNames, String.intercalate_append_of_ne_nil hnames hbelow, ofNames]
  simp [String.append_assoc]

/-- A path made of names goes on with a slash after another one exactly when it has more names. -/
theorem startsWith_ofNames_slash (hp : ∀ n ∈ names, IsName n) (hq : ∀ n ∈ below, IsName n)
    (hbelow : below ≠ []) :
    Text.startsWith (ofNames names) (ofNames below ++ "/") = true ↔
      below <+: names ∧ names ≠ below := by
  rw [Text.startsWith, List.isPrefixOf_iff_prefix]
  constructor
  · rintro ⟨rest, hrest⟩
    -- Both texts are cut at their slashes; what is cut from the rest makes the longer way longer.
    have hne : names ≠ [] := by
      rintro rfl
      have hlen := congrArg List.length hrest
      simp [toList_ofNames] at hlen
    have hcut := congrArg (fun cs => (cs.splitOn '/').map String.ofList) hrest
    simp only [String.toList_append, List.append_assoc] at hcut
    have hslash : "/".toList ++ rest = '/' :: rest := rfl
    rw [hslash, List.splitOn_append_cons_self, List.map_append] at hcut
    have hleft := splitOn_ofNames hbelow fun n hn => (hq n hn).no_slash
    have hright := splitOn_ofNames hne fun n hn => (hp n hn).no_slash
    rw [Text.splitOn] at hleft hright
    rw [hleft, hright, List.cons_append, List.cons.injEq] at hcut
    refine ⟨⟨_, hcut.2⟩, fun heq => ?_⟩
    have hlen := congrArg List.length hcut.2
    rw [heq, List.length_append, List.length_map] at hlen
    have hpos := List.length_pos_of_ne_nil (List.splitOn_ne_nil '/' rest)
    omega
  · rintro ⟨⟨more, rfl⟩, hne⟩
    have hmore : more ≠ [] := by
      rintro rfl
      simp at hne
    rw [ofNames_append hbelow hmore, String.toList_append (s := ofNames below ++ "/")]
    exact ⟨_, rfl⟩

/-- A path is another one or lies below it exactly when its names begin with those of the other. -/
theorem isWithin_iff_prefix (path root : String) :
    isWithin path root = true ↔ reduce (segments root) <+: reduce (segments path) := by
  have hp : ∀ n ∈ reduce (segments path), IsName n := fun _ => isName_of_mem_reduce
  have hr : ∀ n ∈ reduce (segments root), IsName n := fun _ => isName_of_mem_reduce
  simp only [isWithin, canonicalize, Bool.or_eq_true, beq_iff_eq]
  generalize reduce (segments path) = names at hp
  generalize reduce (segments root) = top at hr
  rcases eq_or_ne top [] with rfl | htop
  · have hroot : ofNames [] = "/" := rfl
    simp [hroot]
  -- Every path lies below the root, whose text ends in the slash that other paths lack.
  · have hne : ofNames top ≠ "/" := fun h =>
      htop (ofNames_injective hr (fun _ hn => absurd hn List.not_mem_nil) h)
    rw [startsWith_ofNames_slash hp hr htop]
    constructor
    · rintro ((h | h) | h)
      · exact absurd h hne
      · exact ofNames_injective hp hr h ▸ List.prefix_refl _
      · exact h.1
    · intro h
      by_cases heq : names = top
      · exact .inl (.inr (by rw [heq]))
      · exact .inr ⟨h, heq⟩

example : isWithin "/secrets/../secret" "/secrets" = false := by decide

end MissionConsole.Path
