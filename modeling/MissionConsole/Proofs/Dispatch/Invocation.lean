import MissionConsole.Proofs.Dispatch.Failure
import MissionConsole.Proofs.Text.Words

/-!
# Commands and their arguments

A line whose first word is the name of a built-in command, in letters of either case, calls that
command with the words behind it as its arguments, unless the riddle goes by the name. So what the
line is answered with, and what it leaves of the session, is what the command makes of the words.

## Main definitions

* `Dispatcher.Invokes` — a line of the name of a command and its arguments

## Main results

* `Registry.lookup_name` — a built-in command is found under its name
* `Dispatcher.Invokes.calls`, `Dispatcher.Invokes.reply_eq`, `Dispatcher.Invokes.session_eq` — what
  such a line calls, its answer, and what it leaves of the session
-/

namespace MissionConsole

/-! ### The names of the built-in commands -/

namespace Builtin

theorem isWord_name (b : Builtin) : Text.IsWord b.command.name := by
  cases b <;> decide

theorem lower_name (b : Builtin) : Text.lower b.command.name = b.command.name := by
  cases b <;> decide

end Builtin

theorem Registry.lookup_name (b : Builtin) :
    Registry.standard.lookup b.command.name = some ⟨b.command, b.run⟩ := by
  cases b <;> rfl

/-! ### Lines of words -/

namespace Dispatcher

/-- A line begins with the name of a built-in command, in letters of either case, and goes on with
as many words as the command needs; it is taken as a command, everyone may run it, and the riddle
has another name. -/
structure Invokes (d : Dispatcher) (s : Session) (rawLine : String) (b : Builtin)
    (args : List String) : Prop where
  registry : d.registry = .standard
  takes : s.takesCommand = true
  words : ∃ name, Text.words rawLine = name :: args ∧ Text.lower name = b.command.name
  riddle : d.profile.riddle.command ≠ b.command.name
  arity : b.command.minArgs ≤ args.length
  open_to_all : b.command.rootOnly = false

variable {d : Dispatcher} {files : Filesystem} {s : Session} {b : Builtin}
  {rawLine name arg : String} {args : List String}

namespace Invokes

theorem calls (h : d.Invokes s rawLine b args) :
    d.Calls s (Text.trim rawLine) ⟨b.command, b.run⟩ args := by
  obtain ⟨name, hwords, hname⟩ := h.words
  refine ⟨h.takes, ⟨name, ?_, ?_, ?_⟩, h.arity, fun hroot => ?_⟩
  · rw [Text.words_trim, hwords]
  · rw [hname]
    exact h.riddle.symm
  · rw [h.registry, Registry.lookup_eq_of_lower_eq _ (hname.trans b.lower_name.symm)]
    exact Registry.lookup_name b
  · exact absurd (h.open_to_all.symm.trans hroot) Bool.false_ne_true

/-- The line is answered with what the command does, unless it is the one that asks the clock. -/
theorem reply_eq (h : d.Invokes s rawLine b args) (hdate : b ≠ .date) (files : Filesystem) :
    (d.dispatch files s rawLine).reply =
      ⟨(b.run (d.context files s b.command args)).lines,
        (b.run (d.context files s b.command args)).events⟩ := by
  refine reply_of_calls (trim_ne_of_calls h.calls) h.calls (Bool.eq_false_iff.2 fun hfailed => ?_)
  exact hdate ((Builtin.failed_run_of_arity h.arity).1 hfailed).1

/-- It leaves of the session what the command leaves. -/
theorem session_eq (h : d.Invokes s rawLine b args) (files : Filesystem) :
    (d.dispatch files s rawLine).session =
      (b.run (d.context files s b.command args)).session := by
  rw [dispatch_of_ne (trim_ne_of_calls h.calls), recorded_session, answer_of_calls h.calls,
    runHandler_session]

end Invokes

theorem invokes_of_words (hd : d.registry = .standard) (hs : s.takesCommand = true)
    (hwords : Text.words rawLine = b.command.name :: args)
    (hriddle : d.profile.riddle.command ≠ b.command.name)
    (harity : b.command.minArgs ≤ args.length) (hroot : b.command.rootOnly = false) :
    d.Invokes s rawLine b args :=
  ⟨hd, hs, ⟨_, hwords, b.lower_name⟩, hriddle, harity, hroot⟩

/-- A line of a name and one word calls the command with the word. -/
theorem invokes_pair {start : String} (hd : d.registry = .standard) (hs : s.takesCommand = true)
    (hstart : start = b.command.name ++ " ")
    (hriddle : d.profile.riddle.command ≠ b.command.name) (harity : b.command.minArgs ≤ 1)
    (hroot : b.command.rootOnly = false) (harg : Text.IsWord arg) :
    d.Invokes s (start ++ arg) b [arg] := by
  refine invokes_of_words hd hs ?_ hriddle harity hroot
  rw [hstart, Text.words_cons b.isWord_name, Text.words_of_isWord harg]

/-- A line of a name and one word is answered with what the command does with the word. -/
theorem reply_pair (b : Builtin) (files : Filesystem) (hd : d.registry = .standard)
    (hs : s.takesCommand = true) (hname : b.command.name = name)
    (hriddle : d.profile.riddle.command ≠ name) (harity : b.command.minArgs ≤ 1)
    (hroot : b.command.rootOnly = false) (hdate : b ≠ .date) (harg : Text.IsWord arg) :
    (d.dispatch files s (name ++ " " ++ arg)).reply =
      ⟨(b.run (d.context files s b.command [arg])).lines,
        (b.run (d.context files s b.command [arg])).events⟩ := by
  subst hname
  exact (invokes_pair hd hs rfl hriddle harity hroot harg).reply_eq hdate files

end Dispatcher

end MissionConsole
