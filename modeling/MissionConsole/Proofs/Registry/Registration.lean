import MissionConsole.Command.Registry
import Mathlib.Data.List.Pairwise

/-!
# Commands registered one after the other

A call that registers a command either adds it behind the others or is refused, and it is refused
exactly if one of its names is taken, letter case apart. So no two registered commands ever share a
name, and a name finds the one command that has it.

## Main definitions

* `Registry.Entry.Clashes` — commands that share a name, letter case apart
* `Registry.attempt`, `Registry.registerAll` — a call and calls, with refused ones passed over
* `Registry.accepted` — the calls that are not refused
* `Registry.Sound` — the registries that calls lead to

## Main results

* `Registry.exists_error_iff` — when a call is refused
* `Registry.lookup_eq_some_iff` — what a name finds
* `Registry.entries_registerAll`, `Registry.Sound.registerAll` — what calls lead to
-/

namespace MissionConsole.Registry

variable {r after : Registry} {e e' : Entry} {name : String}

/-! ### Names that are taken -/

/-- Commands that share a name, letter case apart. -/
def Entry.Clashes (e e' : Entry) : Prop :=
  ∃ n ∈ e.command.names, ∃ n' ∈ e'.command.names, Text.lower n = Text.lower n'

theorem Entry.answersTo_iff :
    e.answersTo name = true ↔ ∃ n ∈ e.command.names, Text.lower n = Text.lower name := by
  simp [Entry.answersTo]

theorem Entry.Clashes.symm (h : e.Clashes e') : e'.Clashes e := by
  obtain ⟨n, hn, n', hn', hsame⟩ := h
  exact ⟨n', hn', n, hn, hsame.symm⟩

/-- Commands that answer to one name share a name. -/
theorem Entry.clashes_of_answersTo (h : e.answersTo name = true) (h' : e'.answersTo name = true) :
    e.Clashes e' := by
  obtain ⟨n, hn, hsame⟩ := answersTo_iff.1 h
  obtain ⟨n', hn', hsame'⟩ := answersTo_iff.1 h'
  exact ⟨n, hn, n', hn', hsame.trans hsame'.symm⟩

theorem Entry.clashes_of_name_eq (h : e.command.name = e'.command.name) : e.Clashes e' :=
  ⟨e.command.name, List.mem_cons_self, e'.command.name, List.mem_cons_self,
    congrArg Text.lower h⟩

theorem contains_iff : r.contains name = true ↔ ∃ e ∈ r.entries, e.answersTo name = true :=
  List.any_eq_true

/-! ### One call -/

theorem find?_contains_eq_none_iff :
    e.command.names.find? r.contains = none ↔ ∀ earlier ∈ r.entries, ¬earlier.Clashes e := by
  rw [List.find?_eq_none]
  constructor
  · rintro hfree earlier hearlier ⟨n, hn, n', hn', hsame⟩
    exact hfree n' hn' (contains_iff.2 ⟨earlier, hearlier, Entry.answersTo_iff.2 ⟨n, hn, hsame⟩⟩)
  · intro hapart n' hn' htaken
    obtain ⟨earlier, hearlier, hanswers⟩ := contains_iff.1 htaken
    obtain ⟨n, hn, hsame⟩ := Entry.answersTo_iff.1 hanswers
    exact hapart earlier hearlier ⟨n, hn, n', hn', hsame⟩

/-- A call that is not refused adds its command behind the others. -/
theorem register_eq_ok_iff :
    r.register e.command e.handler = .ok after ↔
      (∀ earlier ∈ r.entries, ¬earlier.Clashes e) ∧ after = ⟨r.entries ++ [e]⟩ := by
  rw [← find?_contains_eq_none_iff, register]
  cases e.command.names.find? r.contains with
  | none => simp [eq_comm]
  | some taken => simp

/-- A refusal names the first of the command's names that is taken. -/
theorem register_eq_error_iff {taken : NameTaken} :
    r.register e.command e.handler = .error taken ↔
      e.command.names.find? r.contains = some taken.name := by
  rw [register]
  cases e.command.names.find? r.contains with
  | none => simp
  | some first =>
    cases taken
    simp

/-- A call is refused exactly if its command shares a name with a registered one. -/
theorem exists_error_iff :
    (∃ taken, r.register e.command e.handler = .error taken) ↔
      ∃ earlier ∈ r.entries, earlier.Clashes e := by
  have hclash : (∃ earlier ∈ r.entries, earlier.Clashes e) ↔
      e.command.names.find? r.contains ≠ none := by
    rw [ne_eq, find?_contains_eq_none_iff]
    simp
  simp only [hclash, register_eq_error_iff, Option.ne_none_iff_exists']
  exact ⟨fun ⟨taken, h⟩ => ⟨taken.name, h⟩, fun ⟨first, h⟩ => ⟨⟨first⟩, h⟩⟩

/-! ### Registries that calls lead to -/

/-- No two commands share a name, and every command has one that is not empty. -/
structure Sound (r : Registry) : Prop where
  apart : r.entries.Pairwise fun earlier later => ¬earlier.Clashes later
  named : ∀ e ∈ r.entries, e.command.name ≠ ""

theorem Sound.empty : Sound empty := ⟨.nil, fun _ he => absurd he List.not_mem_nil⟩

theorem Sound.register (hr : r.Sound) (hname : e.command.name ≠ "")
    (h : r.register e.command e.handler = .ok after) : after.Sound := by
  obtain ⟨hapart, rfl⟩ := register_eq_ok_iff.1 h
  refine ⟨List.pairwise_append.2 ⟨hr.apart, List.pairwise_singleton .., ?_⟩, ?_⟩
  · intro earlier hearlier later hlater
    cases List.mem_singleton.1 hlater
    exact hapart earlier hearlier
  · intro other hother
    rcases List.mem_append.1 hother with hold | hnew
    · exact hr.named other hold
    · exact List.mem_singleton.1 hnew ▸ hname

/-- Commands that share a name are the same command. -/
theorem Sound.eq_of_clashes (hr : r.Sound) (he : e ∈ r.entries) (he' : e' ∈ r.entries)
    (h : e.Clashes e') : e = e' := by
  have hsymm : Std.Symm fun earlier later : Entry => ¬earlier.Clashes later :=
    ⟨fun _ _ hapart hclash => hapart hclash.symm⟩
  by_contra hne
  exact hr.apart.forall he he' hne h

/-- A name finds the one command that has it, in whatever letter case. -/
theorem Sound.lookup_eq_some_iff (hr : r.Sound) :
    r.lookup name = some e ↔
      e ∈ r.entries ∧ ∃ n ∈ e.command.names, Text.lower n = Text.lower name := by
  rw [← Entry.answersTo_iff]
  constructor
  · exact mem_of_lookup
  · rintro ⟨he, hanswers⟩
    cases hfound : r.entries.find? (·.answersTo name) with
    | none => exact absurd hanswers (List.find?_eq_none.1 hfound e he)
    -- The first command that answers to the name is the only one.
    | some first =>
      have hfirst : first ∈ r.entries := List.mem_of_find?_eq_some hfound
      have hfirst_answers : first.answersTo name = true :=
        List.find?_some (p := fun x : Entry => x.answersTo name) hfound
      have hsame : first = e :=
        hr.eq_of_clashes hfirst he (Entry.clashes_of_answersTo hfirst_answers hanswers)
      rw [lookup, hfound, hsame]
      simpa using hr.named e he

/-- Exactly the names that are taken find a command. -/
theorem Sound.contains_eq (hr : r.Sound) (name : String) :
    r.contains name = (r.lookup name).isSome := by
  rw [Bool.eq_iff_iff, contains_iff, Option.isSome_iff_exists]
  simp only [hr.lookup_eq_some_iff, Entry.answersTo_iff]

/-- No command is registered twice. -/
theorem Sound.nodup_commands (hr : r.Sound) : r.commands.Nodup := by
  refine List.pairwise_map.2 (hr.apart.imp ?_)
  intro earlier later hapart hsame
  exact hapart (Entry.clashes_of_name_eq (congrArg Command.name hsame))

/-! ### Calls -/

/-- The registry after a call; a refused call leaves it as it was. -/
def attempt (r : Registry) (e : Entry) : Registry :=
  match r.register e.command e.handler with
  | .ok after => after
  | .error _ => r

/-- The registry after calls. -/
def registerAll (r : Registry) (calls : List Entry) : Registry := calls.foldl attempt r

/-- The calls that are not refused, in order. -/
def accepted (r : Registry) : List Entry → List Entry
  | [] => []
  | e :: calls =>
    match r.register e.command e.handler with
    | .ok after => e :: after.accepted calls
    | .error _ => r.accepted calls

theorem attempt_of_ok (h : r.register e.command e.handler = .ok after) : r.attempt e = after := by
  rw [attempt, h]

theorem attempt_of_error {taken : NameTaken}
    (h : r.register e.command e.handler = .error taken) : r.attempt e = r := by
  rw [attempt, h]

theorem registerAll_append (r : Registry) (calls more : List Entry) :
    r.registerAll (calls ++ more) = (r.registerAll calls).registerAll more := List.foldl_append

/-- The commands of a registry after calls are those that were there and those of the calls that
were not refused. -/
theorem entries_registerAll (r : Registry) (calls : List Entry) :
    (r.registerAll calls).entries = r.entries ++ r.accepted calls := by
  induction calls generalizing r with
  | nil => simp [registerAll, accepted]
  | cons e calls ih =>
    have hstep : r.registerAll (e :: calls) = (r.attempt e).registerAll calls := rfl
    rw [hstep, ih, accepted]
    cases h : r.register e.command e.handler with
    | error taken => rw [attempt_of_error h]
    | ok after =>
      obtain ⟨-, rfl⟩ := register_eq_ok_iff.1 h
      rw [attempt_of_ok h, List.append_assoc]
      rfl

/-- Calls that are not refused keep their order. -/
theorem accepted_sublist (r : Registry) (calls : List Entry) :
    (r.accepted calls).Sublist calls := by
  induction calls generalizing r with
  | nil => exact .slnil
  | cons e calls ih =>
    rw [accepted]
    cases r.register e.command e.handler with
    | error taken => exact (ih r).cons e
    | ok after => exact (ih after).cons_cons e

theorem Sound.attempt (hr : r.Sound) (hname : e.command.name ≠ "") : (r.attempt e).Sound := by
  cases h : r.register e.command e.handler with
  | error taken => rwa [attempt_of_error h]
  | ok after =>
    rw [attempt_of_ok h]
    exact hr.register hname h

theorem Sound.registerAll {calls : List Entry} (hr : r.Sound)
    (hnamed : ∀ e ∈ calls, e.command.name ≠ "") : (r.registerAll calls).Sound := by
  induction calls generalizing r with
  | nil => exact hr
  | cons e calls ih =>
    have he := hnamed e List.mem_cons_self
    exact ih (hr.attempt he) fun other hother => hnamed other (List.mem_cons_of_mem e hother)

end MissionConsole.Registry
