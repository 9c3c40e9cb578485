import MissionConsole.Command.Basic
import MissionConsole.Text.Lowercase

/-!
# The registry of commands

Commands are registered one by one and looked up by name or alias. Letter case does not matter, so
no two registered commands may share a name up to case.

## Main definitions

* `Registry` — the registered commands in order
* `Registry.contains` — whether a name is taken
* `Registry.register` — the registry with a command added
* `Registry.lookup` — the command of a name
* `Registry.visible` — the commands that are listed
-/

namespace MissionConsole

/-- A command with what it does. -/
structure Registry.Entry where
  command : Command
  handler : Handler

/-- The registered commands in order. -/
structure Registry where
  entries : List Registry.Entry

/-- A name that is taken. -/
structure NameTaken where
  name : String

/-- The wording of the failure. -/
def NameTaken.message (e : NameTaken) : String :=
  "command name already registered: " ++ e.name

namespace Registry

/-- The registry without commands. -/
def empty : Registry := ⟨[]⟩

/-- Whether a command answers to a name, letter case apart. -/
def Entry.answersTo (e : Entry) (name : String) : Bool :=
  e.command.names.any fun n => Text.lower n == Text.lower name

/-- Whether a name is taken. -/
def contains (r : Registry) (name : String) : Bool :=
  r.entries.any (·.answersTo name)

/-- Adds a command, unless its name or one of its aliases is taken. -/
def register (r : Registry) (command : Command) (handler : Handler) :
    Except NameTaken Registry :=
  match command.names.find? r.contains with
  | some name => .error ⟨name⟩
  | none => .ok ⟨r.entries ++ [⟨command, handler⟩]⟩

/-- The command of a name or alias. A command whose own name is empty is never found. -/
def lookup (r : Registry) (name : String) : Option Entry :=
  (r.entries.find? (·.answersTo name)).filter (·.command.name != "")

/-- A command that is found is registered and answers to the name. -/
theorem mem_of_lookup {r : Registry} {name : String} {e : Entry} (h : r.lookup name = some e) :
    e ∈ r.entries ∧ e.answersTo name = true := by
  obtain ⟨hfound, -⟩ := Option.filter_eq_some_iff.1 h
  have hanswers := List.find?_some (p := fun x : Entry => x.answersTo name) hfound
  exact ⟨List.mem_of_find?_eq_some hfound, hanswers⟩

/-- Letter case apart, a name finds what another spelling of it finds. -/
theorem lookup_eq_of_lower_eq (r : Registry) {name other : String}
    (h : Text.lower name = Text.lower other) : r.lookup name = r.lookup other := by
  have hanswers : (fun e : Entry => e.answersTo name) = fun e => e.answersTo other := by
    funext e
    rw [Entry.answersTo, Entry.answersTo, h]
  rw [lookup, lookup, hanswers]

/-- The declared commands in the order of their registration. -/
def commands (r : Registry) : List Command := r.entries.map (·.command)

/-- The commands that are listed. -/
def visible (r : Registry) : List Command := r.commands.filter fun c => !c.hidden

end Registry

end MissionConsole
