import MissionConsole.Proofs.Dispatch.Step

/-!
# Lines one after the other

A visit is a sequence of lines, each of which is answered on the session that the lines before it
have left. The clock is read anew for each line, so an input carries the date of its moment.

## Main definitions

* `Dispatcher.dated` — a dispatcher at the moment of a line
* `Dispatcher.Input` — a line at its moment
* `Dispatcher.step` — the answer to one input
* `Dispatcher.turns`, `Dispatcher.after` — the answers to inputs, and the session after them

## Main results

* `Dispatcher.change_step` — what an input may make of a session
-/

namespace MissionConsole.Dispatcher

/-- A dispatcher whose clock shows a date, or fails. -/
def dated (d : Dispatcher) (date : Except String String) : Dispatcher := { d with clock := date }

@[simp] theorem dated_profile (d : Dispatcher) (date : Except String String) :
    (d.dated date).profile = d.profile := rfl

@[simp] theorem dated_registry (d : Dispatcher) (date : Except String String) :
    (d.dated date).registry = d.registry := rfl

/-- A line, and the date at the moment it is answered or the failure of the clock. -/
structure Input where
  line : String
  date : Except String String

/-- The answer to an input. -/
def step (d : Dispatcher) (files : Filesystem) (s : Session) (i : Input) : Turn :=
  (d.dated i.date).dispatch files s i.line

/-- The answers to inputs. -/
def turns (d : Dispatcher) (files : Filesystem) (s : Session) : List Input → List Turn
  | [] => []
  | i :: rest => d.step files s i :: turns d files (d.step files s i).session rest

/-- The session after inputs. -/
def after (d : Dispatcher) (files : Filesystem) (s : Session) : List Input → Session
  | [] => s
  | i :: rest => after d files (d.step files s i).session rest

variable {d : Dispatcher} {files : Filesystem} {s : Session}

@[simp] theorem after_nil : d.after files s [] = s := rfl

@[simp] theorem after_cons (i : Input) (rest : List Input) :
    d.after files s (i :: rest) = d.after files (d.step files s i).session rest := by
  rw [after]

@[simp] theorem turns_cons (i : Input) (rest : List Input) :
    d.turns files s (i :: rest) =
      d.step files s i :: d.turns files (d.step files s i).session rest := by
  rw [turns]

/-- What an input may make of a session. -/
theorem change_step (hd : d.registry = .standard) (files : Filesystem) (s : Session) (i : Input) :
    s.Change d.profile files (Text.trim i.line) (d.step files s i).session := by
  have hchange := change_dispatch ((d.dated_registry i.date).trans hd) files s i.line
  rw [dated_profile] at hchange
  rwa [step]

end MissionConsole.Dispatcher
