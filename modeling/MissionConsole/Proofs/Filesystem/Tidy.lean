import MissionConsole.Proofs.Filesystem.Extension
import MissionConsole.Proofs.Path.Canonical

/-!
# Tidy trees

A tree is tidy if in each of its directories no name stands twice and every name can be written
between the slashes of a path. The tree without entries is tidy, and extending a tidy tree along a
way made of names keeps it so; everything found in a tidy tree is tidy.

## Main definitions

* `Node.Tidy` — tidy trees

## Main results

* `Node.Tidy.put` — an entry set in a tidy directory
* `Node.Tidy.extend` — a tidy tree extended along a way
* `Node.Tidy.at?` — what is found in a tidy tree
* `Node.at?_concat_eq_some` — an entry and the directory that holds it
-/

namespace MissionConsole.Node

/-- Trees in which the names in each directory differ, and are names that a path can spell. -/
inductive Tidy : Node → Prop where
  | file (content : String) : Tidy (.file content)
  | dir {entries : List (String × Node)} (nodup : (Keyed.keys entries).Nodup)
      (isName : ∀ name ∈ Keyed.keys entries, Path.IsName name)
      (child : ∀ name node, child? name entries = some node → Tidy node) : Tidy (.dir entries)

variable {change : List (String × Node) → List (String × Node)} {way names : List String}
  {entries entries' inner : List (String × Node)} {name : String} {node found : Node}

namespace Tidy

theorem nodup (h : (Node.dir entries).Tidy) : (Keyed.keys entries).Nodup := by
  cases h with
  | dir nodup => exact nodup

theorem isName (h : (Node.dir entries).Tidy) (hname : name ∈ Keyed.keys entries) :
    Path.IsName name := by
  cases h with
  | dir _ isName => exact isName name hname

theorem child (h : (Node.dir entries).Tidy) (hchild : child? name entries = some node) :
    node.Tidy := by
  cases h with
  | dir _ _ child => exact child name node hchild

theorem nil : (Node.dir []).Tidy :=
  .dir List.nodup_nil (fun _ hname => absurd hname List.not_mem_nil) nofun

/-! ### Entries -/

theorem put (h : (Node.dir entries).Tidy) (hname : Path.IsName name) (hnode : node.Tidy) :
    (Node.dir (Keyed.put entries name node)).Tidy := by
  refine .dir (Keyed.nodup_keys_put h.nodup name node) (fun other hother => ?_)
    (fun other found hfound => ?_)
  · obtain ⟨entry, hentry, rfl⟩ := List.mem_map.1 hother
    rcases Keyed.mem_put hentry with rfl | hold
    · exact hname
    · exact h.isName (Keyed.mem_keys_of_mem hold)
  · rw [child?_put] at hfound
    split_ifs at hfound
    · exact Option.some.inj hfound ▸ hnode
    · exact h.child hfound

/-- Where a way goes on, it goes on in a tidy directory. -/
theorem of_inside (h : (Node.dir entries).Tidy)
    (hinside : inside? (child? name entries) = some inner) : (Node.dir inner).Tidy := by
  rcases inside?_eq_some_iff.1 hinside with ⟨-, rfl⟩ | hchild
  · exact nil
  · exact h.child hchild

/-! ### Ways -/

/-- Extending keeps a tree tidy if the change at the end of the way does. -/
theorem extend (hchange : ∀ inner, (Node.dir inner).Tidy → (Node.dir (change inner)).Tidy)
    (hway : ∀ name ∈ way, Path.IsName name) (h : (Node.dir entries).Tidy)
    (hextend : Node.extend change way entries = some entries') : (Node.dir entries').Tidy := by
  induction way generalizing entries entries' with
  | nil =>
    obtain rfl : change entries = entries' := Option.some.inj hextend
    exact hchange entries h
  | cons name way ih =>
    obtain ⟨inner, inner', hinside, hrest, rfl⟩ := extend_cons_eq_some hextend
    obtain ⟨hname, hway⟩ := List.forall_mem_cons.1 hway
    exact h.put hname (ih hway (h.of_inside hinside) hrest)

theorem at? (h : node.Tidy) (hfound : node.at? names = some found) : found.Tidy := by
  induction names generalizing node with
  | nil =>
    rw [at?_nil] at hfound
    exact Option.some.inj hfound ▸ h
  | cons name names ih =>
    cases node with
    | file content => exact absurd hfound nofun
    | dir entries =>
      rw [at?_dir_cons, Option.bind_eq_some_iff] at hfound
      obtain ⟨child, hchild, hrest⟩ := hfound
      exact ih (h.child hchild) hrest

end Tidy

/-- What stands one name further on stands in a directory, under that name. -/
theorem at?_concat_eq_some :
    node.at? (names ++ [name]) = some found ↔
      ∃ entries, node.at? names = some (.dir entries) ∧ child? name entries = some found := by
  rw [at?_append, Option.bind_eq_some_iff]
  constructor
  · rintro ⟨parent, hparent, hname⟩
    cases parent with
    | file content => exact absurd hname nofun
    | dir entries =>
      rw [at?_dir_cons, funext at?_nil, Option.bind_fun_some] at hname
      exact ⟨entries, hparent, hname⟩
  · rintro ⟨entries, hparent, hname⟩
    refine ⟨_, hparent, ?_⟩
    rw [at?_dir_cons, funext at?_nil, Option.bind_fun_some, hname]

end MissionConsole.Node
