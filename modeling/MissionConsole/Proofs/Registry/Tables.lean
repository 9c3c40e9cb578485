import MissionConsole.Proofs.Registry.Registration
import MissionConsole.Command.Builtin
import MissionConsole.Keyed

/-!
# Commands kept in two tables

A registry can be kept in two tables: the commands under their own names, spelled as declared, and
every name and alias in lower case with the name it stands for. The tables have to be kept in step
over every sequence of calls; then they answer as the list of commands does.

## Main definitions

* `Registry.Tables` — the two tables, with a registration and the questions asked of them
* `Registry.Tables.Represents` — the tables of the commands of a registry
* `Registry.Tables.AgreesWith` — tables that answer as a registry does
* `Registry.Keeps` — a registry that has exactly these commands, each under each of its names

## Main results

* `Registry.Tables.Represents.register` — a call keeps the tables in step
* `Registry.registrations` — what any calls lead to
-/

namespace MissionConsole.Registry

/-- The commands under their own names, and their names in lower case. -/
structure Tables where
  declared : Keyed Entry
  names : Keyed String

namespace Tables

/-- The tables without commands. -/
def empty : Tables := ⟨[], []⟩

/-- Whether a name is taken. -/
def contains (t : Tables) (name : String) : Bool := (t.names.lookup (Text.lower name)).isSome

/-- Lets names in lower case stand for a command's own name. -/
def standFor (names : Keyed String) (own : String) (spellings : List String) : Keyed String :=
  spellings.foldl (fun names n => names.put (Text.lower n) own) names

/-- Enters a command in both tables. -/
def add (t : Tables) (e : Entry) : Tables where
  declared := t.declared.put e.command.name e
  names := standFor t.names e.command.name e.command.names

/-- Enters a command in both tables, unless one of its names is taken. -/
def register (t : Tables) (e : Entry) : Option NameTaken × Tables :=
  match e.command.names.find? t.contains with
  | some name => (some ⟨name⟩, t)
  | none => (none, t.add e)

/-- The tables after calls. -/
def registerAll (t : Tables) (calls : List Entry) : Tables :=
  calls.foldl (fun t e => (t.register e).2) t

/-- The command of a name or alias. -/
def lookup (t : Tables) (name : String) : Option Entry :=
  match t.names.lookup (Text.lower name) with
  | none => none
  | some own => if own = "" then none else t.declared.lookup own

/-- The commands in the order of their registration. -/
def entries (t : Tables) : List Entry := t.declared.map (·.2)

variable {t : Tables} {r : Registry} {e : Entry}

/-! ### Tables in step -/

/-- The tables of the commands of a registry. -/
structure Represents (t : Tables) (r : Registry) : Prop where
  declared : t.declared = r.entries.map fun e => (e.command.name, e)
  names : ∀ name, t.names.lookup (Text.lower name) =
    (r.entries.find? (·.answersTo name)).map (·.command.name)

theorem Represents.empty : Represents empty Registry.empty := ⟨rfl, fun _ => rfl⟩

theorem lookup_standFor (names : Keyed String) (own : String) (spellings : List String)
    (key : String) :
    (standFor names own spellings).lookup key =
      if spellings.any (Text.lower · == key) then some own else names.lookup key := by
  induction spellings generalizing names with
  | nil => rfl
  | cons n spellings ih =>
    rw [standFor, List.foldl_cons, ← standFor, ih, Keyed.lookup_put, List.any_cons]
    by_cases hrest : spellings.any (Text.lower · == key) = true
    · simp [hrest]
    · by_cases hn : key = Text.lower n
      · simp [hn]
      · simp [hrest, hn, Ne.symm hn]

/-- A name is taken in the tables exactly if some command answers to it. -/
theorem Represents.contains_eq (h : t.Represents r) (name : String) :
    t.contains name = r.contains name := by
  rw [Tables.contains, h.names, Option.isSome_map, List.isSome_find?]
  rfl

theorem Represents.find?_contains (h : t.Represents r) (e : Entry) :
    e.command.names.find? t.contains = e.command.names.find? r.contains := by
  rw [funext h.contains_eq]

/-- A refused call leaves the tables as they were. -/
theorem register_of_taken {taken : String} (h : e.command.names.find? t.contains = some taken) :
    t.register e = (some ⟨taken⟩, t) := by
  rw [register, h]

theorem register_of_free (h : e.command.names.find? t.contains = none) :
    t.register e = (none, t.add e) := by
  rw [register, h]

/-- A command whose names are free comes last in both. -/
theorem Represents.add (h : t.Represents r) (hfree : ∀ earlier ∈ r.entries, ¬earlier.Clashes e) :
    (t.add e).Represents ⟨r.entries ++ [e]⟩ := by
  constructor
  · have hnew : e.command.name ∉ t.declared.keys := by
      rw [h.declared, Keyed.keys, List.map_map]
      intro hmem
      obtain ⟨earlier, hearlier, hsame⟩ := List.mem_map.1 hmem
      exact hfree earlier hearlier (Entry.clashes_of_name_eq hsame)
    rw [Tables.add, Keyed.put_of_not_mem hnew, h.declared, List.map_append]
    rfl
  · intro name
    rw [Tables.add, lookup_standFor, h.names, List.find?_append, ← Entry.answersTo]
    by_cases hanswers : e.answersTo name = true
    -- No earlier command answers as well: it would share the name.
    · have hnone : r.entries.find? (·.answersTo name) = none :=
        List.find?_eq_none.2 fun earlier hearlier hold =>
          hfree earlier hearlier (Entry.clashes_of_answersTo hold hanswers)
      simp [hanswers, hnone]
    · simp [hanswers]

/-- A call, refused or not, keeps the tables in step. -/
theorem Represents.register (h : t.Represents r) (e : Entry) :
    (t.register e).2.Represents (r.attempt e) := by
  cases hcall : r.register e.command e.handler with
  | error taken =>
    have hfirst := h.find?_contains e ▸ register_eq_error_iff.1 hcall
    rw [register_of_taken hfirst, attempt_of_error hcall]
    exact h
  | ok after =>
    obtain ⟨hfree, rfl⟩ := register_eq_ok_iff.1 hcall
    have hnone := h.find?_contains e ▸ find?_contains_eq_none_iff.2 hfree
    rw [register_of_free hnone, attempt_of_ok hcall]
    exact h.add hfree

theorem Represents.registerAll (h : t.Represents r) (calls : List Entry) :
    (t.registerAll calls).Represents (r.registerAll calls) := by
  induction calls generalizing t r with
  | nil => exact h
  | cons e calls ih => exact ih (h.register e)

/-! ### Tables that answer as the registry does -/

/-- Tables that answer as a registry does: to the questions asked of them, and to the next call. -/
structure AgreesWith (t : Tables) (r : Registry) : Prop where
  contains : ∀ name, t.contains name = r.contains name
  lookup : ∀ name, t.lookup name = r.lookup name
  entries : t.entries = r.entries
  refused : ∀ (e : Entry) taken,
    (t.register e).1 = some taken ↔ r.register e.command e.handler = .error taken
  unchanged : ∀ e, (t.register e).1 ≠ none → (t.register e).2 = t

/-- A registered command is found under its own name. -/
theorem Represents.lookup_declared (h : t.Represents r) (hr : r.Sound) (he : e ∈ r.entries) :
    t.declared.lookup e.command.name = some e := by
  have hkey : e.command.name ∈ t.declared.keys := by
    rw [h.declared]
    exact Keyed.mem_keys_of_mem (List.mem_map_of_mem he)
  obtain ⟨found, hfound⟩ := Keyed.exists_lookup_of_mem hkey
  have hmem := Keyed.mem_of_lookup hfound
  rw [h.declared] at hmem
  obtain ⟨other, hother, hpair⟩ := List.mem_map.1 hmem
  obtain ⟨hname, rfl⟩ := Prod.mk.inj hpair
  rw [hfound, hr.eq_of_clashes hother he (Entry.clashes_of_name_eq hname)]

theorem Represents.lookup_eq (h : t.Represents r) (hr : r.Sound) (name : String) :
    t.lookup name = r.lookup name := by
  rw [Tables.lookup, h.names, Registry.lookup]
  cases hfound : r.entries.find? (·.answersTo name) with
  | none => rfl
  | some e =>
    -- The own name is not empty, and no other command is kept under it.
    have he : e ∈ r.entries := List.mem_of_find?_eq_some hfound
    simp [Option.filter, hr.named e he, h.lookup_declared hr he]

theorem Represents.agreesWith (h : t.Represents r) (hr : r.Sound) : t.AgreesWith r where
  contains := h.contains_eq
  lookup := h.lookup_eq hr
  entries := by
    rw [Tables.entries, h.declared, List.map_map]
    exact List.map_id _
  refused e taken := by
    rw [register_eq_error_iff, ← h.find?_contains]
    cases hfirst : e.command.names.find? t.contains with
    | none => simp [register_of_free hfirst]
    | some first =>
      rw [register_of_taken hfirst]
      cases taken
      simp
  unchanged e hrefused := by
    cases hfirst : e.command.names.find? t.contains with
    | none => exact absurd (congrArg Prod.fst (register_of_free hfirst)) hrefused
    | some first => rw [register_of_taken hfirst]

end Tables

/-! ### What calls lead to -/

/-- A registry that has exactly these commands, each under each of its names, letter case apart. -/
structure Keeps (r : Registry) (registered : List Entry) : Prop where
  /-- A call is refused exactly if one of its names is one of an earlier command. -/
  refused_iff : ∀ e : Entry, (∃ taken, r.register e.command e.handler = .error taken) ↔
    ∃ earlier ∈ registered, ∃ n ∈ earlier.command.names, ∃ n' ∈ e.command.names,
      Text.lower n = Text.lower n'
  /-- A name finds the command that has it, and at most one has it. -/
  lookup_iff : ∀ name e, r.lookup name = some e ↔
    e ∈ registered ∧ ∃ n ∈ e.command.names, Text.lower n = Text.lower name
  contains_eq : ∀ name, r.contains name = (r.lookup name).isSome
  commands_eq : r.commands = registered.map (·.command)
  nodup : (registered.map (·.command)).Nodup
  visible_eq : r.visible = (registered.map (·.command)).filter fun c => !c.hidden

theorem Sound.keeps {r : Registry} (hr : r.Sound) : r.Keeps r.entries where
  refused_iff _ := exists_error_iff
  lookup_iff _ _ := hr.lookup_eq_some_iff
  contains_eq := hr.contains_eq
  commands_eq := rfl
  nodup := hr.nodup_commands
  visible_eq := rfl

/-- However commands were registered, the registry has exactly the commands of the calls that were
not refused, in order and under all their names, a further call that is refused changes nothing, and
the two tables kept in step give the same answers. -/
theorem registrations (calls : List Entry) (hnamed : ∀ e ∈ calls, e.command.name ≠ "") :
    (empty.accepted calls).Sublist calls ∧
      (empty.registerAll calls).Keeps (empty.accepted calls) ∧
      (∀ e taken, (empty.registerAll calls).register e.command e.handler = .error taken →
        empty.registerAll (calls ++ [e]) = empty.registerAll calls) ∧
      (Tables.empty.registerAll calls).AgreesWith (empty.registerAll calls) := by
  have hsound : (empty.registerAll calls).Sound := Sound.empty.registerAll hnamed
  have hentries : (empty.registerAll calls).entries = empty.accepted calls :=
    entries_registerAll empty calls
  refine ⟨accepted_sublist empty calls, hentries ▸ hsound.keeps, ?_, ?_⟩
  · intro e taken hrefused
    rw [registerAll_append]
    exact attempt_of_error hrefused
  · exact (Tables.Represents.empty.registerAll calls).agreesWith hsound

/-- Of three commands the second is refused for an alias: in other letters it is the name of the
first. -/
theorem registrations_alias :
    let dir : Command := { Builtin.ls.command with name := "dir", aliases := ["d", "CAT"] }
    let calls : List Entry :=
      [⟨Builtin.cat.command, Builtin.cat.run⟩, ⟨dir, Builtin.ls.run⟩,
        ⟨Builtin.ls.command, Builtin.ls.run⟩]
    (∀ e ∈ calls, e.command.name ≠ "") ∧
      (empty.accepted calls).map (·.command.name) = ["cat", "ls"] ∧
      (empty.registerAll calls).Keeps (empty.accepted calls) ∧
      (Tables.empty.registerAll calls).AgreesWith (empty.registerAll calls) := by
  intro dir calls
  have hnamed : ∀ e ∈ calls, e.command.name ≠ "" := by
    simp [calls, dir, Builtin.command, Builtin.plain]
  obtain ⟨-, hkeeps, -, hagrees⟩ := registrations calls hnamed
  exact ⟨hnamed, by decide, hkeeps, hagrees⟩

end MissionConsole.Registry
