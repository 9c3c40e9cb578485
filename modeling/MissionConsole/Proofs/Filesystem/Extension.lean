import MissionConsole.Filesystem.Basic
import Mathlib.Data.List.Basic
import Mathlib.Tactic.SplitIfs

/-!
# A tree extended along a way

Adding to a tree goes along a way, makes the directories that are missing, and changes the entries
of the last one. What is then found depends on how a way compares with that one: at its end and
beyond it the changed entries are found, on it stand directories, each of which has all its other
entries as before, and everywhere else nothing is different.

## Main definitions

* `Node.inside?` — what is found when a way goes on
* `Node.KeepsOthers` — entries that are the same except for one name

## Main results

* `Node.at?_append` — going on from the end of a way
* `Node.extend_cons` — one step along the way
* `Node.exists_inside_of_extend`, `Node.keepsOthers_of_extend`, `Node.at?_extend_of_apart` — what is
  found beyond the end of the way, on it and apart from it
* `Node.exists_extend_iff` — a tree can be extended where no file stands on the way
* `Node.at?_of_extend_put`, `Node.keepsOthers_of_extend_put`, `Node.at?_extend_put_of_apart` — the
  same when what is changed is one entry
-/

namespace MissionConsole.Node

variable {change : List (String × Node) → List (String × Node)} {way names rest : List String}
  {entries entries' inner : List (String × Node)} {name other : String} {node : Node}

/-! ### Entries -/

theorem child?_eq_lookup (name : String) (entries : List (String × Node)) :
    child? name entries = entries.lookup name := by
  induction entries with
  | nil => rfl
  | cons entry entries ih =>
    rw [child?] at ih ⊢
    rw [Keyed.lookup_cons, ← ih]
    by_cases hname : name = entry.1
    · simp [hname]
    · simp [hname, Ne.symm hname]

theorem child?_put (entries : List (String × Node)) (name other : String) (node : Node) :
    child? other (Keyed.put entries name node) =
      if other = name then some node else child? other entries := by
  rw [child?_eq_lookup, child?_eq_lookup]
  exact Keyed.lookup_put entries name other node

/-- Entries that are the same except for one name, and in the same order: that name has kept its
place, or comes last. -/
structure KeepsOthers (name : String) (before after : List (String × Node)) : Prop where
  names : after.map (·.1) =
    if name ∈ before.map (·.1) then before.map (·.1) else before.map (·.1) ++ [name]
  child : ∀ other, other ≠ name → child? other after = child? other before

theorem keepsOthers_put (entries : List (String × Node)) (name : String) (node : Node) :
    KeepsOthers name entries (Keyed.put entries name node) where
  names := by
    split_ifs with hname
    · exact Keyed.keys_put_of_mem hname
    · exact Keyed.keys_put_of_not_mem hname
  child other hother := by rw [child?_put, if_neg hother]

/-! ### Ways -/

theorem at?_nil (node : Node) : node.at? [] = some node := by
  cases node <;> rfl

theorem at?_dir_cons (entries : List (String × Node)) (name : String) (rest : List String) :
    (dir entries).at? (name :: rest) = (child? name entries).bind (·.at? rest) := by
  rw [at?]

/-- Going on from the end of a way. -/
theorem at?_append (node : Node) (names rest : List String) :
    node.at? (names ++ rest) = (node.at? names).bind (·.at? rest) := by
  induction names generalizing node with
  | nil => rw [List.nil_append, at?_nil, Option.bind_some]
  | cons name names ih =>
    cases node with
    | file content => rfl
    | dir entries =>
      rw [List.cons_append, at?_dir_cons, at?_dir_cons, Option.bind_assoc]
      exact congrArg _ (funext fun child => ih child)

theorem at?_file_of_ne (content : String) (hrest : rest ≠ []) : (file content).at? rest = none := by
  obtain ⟨name, rest, rfl⟩ := List.exists_cons_of_ne_nil hrest
  rfl

/-- What is found when a way goes on: where nothing stands, as much as in a directory without
entries, and in a file nothing. -/
def inside? : Option Node → Option (List (String × Node))
  | none => some []
  | some (.dir entries) => some entries
  | some (.file _) => none

theorem inside?_eq_none_iff {node : Option Node} :
    inside? node = none ↔ ∃ content, node = some (.file content) := by
  rcases node with - | (content | entries) <;> simp [inside?]

theorem inside?_eq_some_iff {node : Option Node} :
    inside? node = some inner ↔ node = none ∧ inner = [] ∨ node = some (.dir inner) := by
  rcases node with - | (content | entries) <;> simp [inside?, eq_comm]

theorem bind_at?_of_inside {node : Option Node} (h : inside? node = some inner)
    (hrest : rest ≠ []) : node.bind (·.at? rest) = (dir inner).at? rest := by
  rcases node with - | (content | entries)
  · obtain rfl : [] = inner := Option.some.inj h
    obtain ⟨name, rest, rfl⟩ := List.exists_cons_of_ne_nil hrest
    rfl
  · exact absurd h nofun
  · obtain rfl : entries = inner := Option.some.inj h
    rfl

theorem inside?_bind_at? {node : Option Node} (h : inside? node = some inner)
    (rest : List String) : inside? (node.bind (·.at? rest)) = inside? ((dir inner).at? rest) := by
  rcases eq_or_ne rest [] with rfl | hrest
  · rw [at?_nil]
    rcases node with - | node
    · exact h
    · rw [Option.bind_some, at?_nil, h]
      rfl
  · rw [bind_at?_of_inside h hrest]

/-! ### Extending -/

/-- One step along the way goes into an entry, and puts back what has become of it. -/
theorem extend_cons (name : String) (rest : List String) (entries : List (String × Node)) :
    extend change (name :: rest) entries =
      (inside? (child? name entries)).bind fun inner =>
        (extend change rest inner).map fun inner => Keyed.put entries name (.dir inner) := by
  rw [extend]
  rcases child? name entries with - | (content | inner) <;> rfl

theorem extend_cons_eq_some (h : extend change (name :: rest) entries = some entries') :
    ∃ inner inner', inside? (child? name entries) = some inner ∧
      extend change rest inner = some inner' ∧ entries' = Keyed.put entries name (.dir inner') := by
  rw [extend_cons, Option.bind_eq_some_iff] at h
  obtain ⟨inner, hinside, hmap⟩ := h
  obtain ⟨inner', hextend, hput⟩ := Option.map_eq_some_iff.1 hmap
  exact ⟨inner, inner', hinside, hextend, hput.symm⟩

/-- At the end of the way and beyond it the changed entries are found. -/
theorem exists_inside_of_extend (h : extend change way entries = some entries') :
    ∃ inner, inside? ((dir entries).at? way) = some inner ∧
      ∀ rest, (dir entries').at? (way ++ rest) = (dir (change inner)).at? rest := by
  induction way generalizing entries entries' with
  | nil =>
    obtain rfl : change entries = entries' := Option.some.inj h
    exact ⟨entries, rfl, fun rest => rfl⟩
  | cons name way ih =>
    obtain ⟨inner, inner', hinside, hextend, rfl⟩ := extend_cons_eq_some h
    obtain ⟨last, hlast, hbeyond⟩ := ih hextend
    refine ⟨last, ?_, fun rest => ?_⟩
    · rw [at?_dir_cons, inside?_bind_at? hinside, hlast]
    · rw [List.cons_append, at?_dir_cons, child?_put, if_pos rfl]
      exact hbeyond rest

/-- On the way stand directories. One that was there has all its entries as before, except for the
next one on the way. -/
theorem keepsOthers_of_extend {next : String}
    (h : extend change (names ++ next :: rest) entries = some entries') :
    ∃ inner', (dir entries').at? names = some (.dir inner') ∧
      ∀ inner, (dir entries).at? names = some (.dir inner) → KeepsOthers next inner inner' := by
  induction names generalizing entries entries' with
  | nil =>
    obtain ⟨inner, inner', -, -, rfl⟩ := extend_cons_eq_some h
    refine ⟨_, at?_nil _, fun inner hinner => ?_⟩
    obtain rfl : entries = inner := Node.dir.inj (Option.some.inj hinner)
    exact keepsOthers_put _ _ _
  | cons name names ih =>
    obtain ⟨first, first', hinside, hextend, rfl⟩ := extend_cons_eq_some h
    obtain ⟨inner', hfound, hkeeps⟩ := ih hextend
    refine ⟨inner', ?_, fun inner hinner => hkeeps inner ?_⟩
    · rw [at?_dir_cons, child?_put, if_pos rfl]
      exact hfound
    · rw [at?_dir_cons] at hinner
      rcases hchild : child? name entries with - | (content | first)
      · rw [hchild] at hinner
        exact absurd hinner nofun
      · rw [hchild] at hinside
        exact absurd hinside nofun
      · rw [hchild] at hinside hinner
        obtain rfl := Option.some.inj hinside
        exact hinner

/-- Apart from the way nothing is different. -/
theorem at?_extend_of_apart (h : extend change way entries = some entries')
    (hbefore : ¬ names <+: way) (hbeyond : ¬ way <+: names) :
    (dir entries').at? names = (dir entries).at? names := by
  induction way generalizing entries entries' names with
  | nil => exact absurd List.nil_prefix hbeyond
  | cons name way ih =>
    obtain ⟨inner, inner', hinside, hextend, rfl⟩ := extend_cons_eq_some h
    rcases names with - | ⟨other, names⟩
    · exact absurd List.nil_prefix hbefore
    · rw [at?_dir_cons, at?_dir_cons, child?_put]
      by_cases hother : other = name
      · subst hother
        rw [List.prefix_cons_inj] at hbefore hbeyond
        have hne : names ≠ [] := by
          rintro rfl
          exact hbefore List.nil_prefix
        rw [if_pos rfl, bind_at?_of_inside hinside hne]
        exact ih hextend hbefore hbeyond
      · rw [if_neg hother]

/-- A tree can be extended exactly where no file stands on the way. -/
theorem exists_extend_iff :
    (∃ entries', extend change way entries = some entries') ↔
      ∀ names, names <+: way → inside? ((dir entries).at? names) ≠ none := by
  induction way generalizing entries with
  | nil =>
    refine iff_of_true ⟨_, rfl⟩ fun names hnames => ?_
    rw [List.prefix_nil.1 hnames]
    exact nofun
  | cons name way ih =>
    constructor
    · rintro ⟨entries', h⟩ names hnames
      obtain ⟨inner, inner', hinside, hextend, -⟩ := extend_cons_eq_some h
      rcases names with - | ⟨other, names⟩
      · exact nofun
      · obtain ⟨rfl, hrest⟩ := List.cons_prefix_cons.1 hnames
        rw [at?_dir_cons, inside?_bind_at? hinside]
        exact ih.1 ⟨inner', hextend⟩ names hrest
    · intro h
      -- The first entry can be gone into, and from there the rest of the way.
      obtain ⟨inner, hinside⟩ : ∃ inner, inside? (child? name entries) = some inner := by
        have hfirst := h [name] (List.prefix_append [name] way)
        rw [at?_dir_cons, funext at?_nil, Option.bind_fun_some] at hfirst
        exact Option.ne_none_iff_exists'.1 hfirst
      obtain ⟨inner', hextend⟩ : ∃ inner', extend change way inner = some inner' := by
        refine ih.2 fun names hnames => ?_
        have hrest := h (name :: names) (List.cons_prefix_cons.2 ⟨rfl, hnames⟩)
        rwa [at?_dir_cons, inside?_bind_at? hinside] at hrest
      exact ⟨_, by rw [extend_cons, hinside, Option.bind_some, hextend, Option.map_some]⟩

/-! ### An entry put at the end of a way -/

section Put

variable {parent : List String}

/-- The new node is found there, and beyond it what the node holds. -/
theorem at?_of_extend_put (h : extend (Keyed.put · name node) parent entries = some entries')
    (rest : List String) : (dir entries').at? (parent ++ [name] ++ rest) = node.at? rest := by
  obtain ⟨inner, -, hbeyond⟩ := exists_inside_of_extend h
  rw [List.append_assoc, hbeyond, List.singleton_append, at?_dir_cons, child?_put, if_pos rfl]
  rfl

/-- On the way there stand directories, the last of which holds the new entry. -/
theorem keepsOthers_of_extend_put {next : String}
    (h : extend (Keyed.put · name node) parent entries = some entries')
    (hway : parent ++ [name] = names ++ next :: rest) :
    ∃ inner', (dir entries').at? names = some (.dir inner') ∧
      ∀ inner, (dir entries).at? names = some (.dir inner) → KeepsOthers next inner inner' := by
  rcases List.eq_nil_or_concat rest with rfl | ⟨rest, last, rfl⟩
  · obtain ⟨rfl, hname⟩ := List.append_inj' hway rfl
    obtain rfl := List.singleton_inj.1 hname
    obtain ⟨inner, hinside, hbeyond⟩ := exists_inside_of_extend h
    refine ⟨Keyed.put inner name node, ?_, fun old hold => ?_⟩
    · rw [← List.append_nil parent, hbeyond, at?_nil]
    · rw [hold] at hinside
      obtain rfl := Option.some.inj hinside
      exact keepsOthers_put old name node
  · rw [List.concat_eq_append, ← List.cons_append, ← List.append_assoc] at hway
    obtain ⟨rfl, -⟩ := List.append_inj' hway rfl
    exact keepsOthers_of_extend h

/-- Neither on the way there nor beyond it, nothing is different. In the last directory this is
because the other entries have stayed. -/
theorem at?_extend_put_of_apart
    (h : extend (Keyed.put · name node) parent entries = some entries')
    (hbefore : ¬ names <+: parent ++ [name]) (hbeyond : ¬ parent ++ [name] <+: names) :
    (dir entries').at? names = (dir entries).at? names := by
  by_cases hparent : parent <+: names
  · obtain ⟨rest, rfl⟩ := hparent
    rcases rest with - | ⟨other, rest⟩
    · exact absurd (by simp) hbefore
    have hother : other ≠ name := by
      rintro rfl
      exact hbeyond (by simp)
    obtain ⟨inner, hinside, hafter⟩ := exists_inside_of_extend h
    rw [hafter, at?_dir_cons, child?_put, if_neg hother, ← at?_dir_cons, at?_append]
    exact (bind_at?_of_inside hinside (List.cons_ne_nil _ _)).symm
  · exact at?_extend_of_apart h (fun hon => hbefore (hon.trans (List.prefix_append _ _))) hparent

end Put

end MissionConsole.Node
