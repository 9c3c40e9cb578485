import MissionConsole.Proofs.Dispatch.Emission

/-!
# Which lines end the session

A visit ends when the visitor says so: by the word `close`, or `exit`, as the first word of a line
that is taken as a command, unless the riddle goes by that word. Going somewhere on the map, or
driving the vehicle, closes the console as well, but only hides it.

## Main definitions

* `Builtin.IsFarewell` — the words by which the visitor leaves

## Main results

* `Registry.lookup_eq_close_iff` — the words that find the command
* `Dispatcher.endsSession_runCommand_iff` — the command lines that end the session
* `Dispatcher.ends_iff_bare_close` — the lines that do, whatever the session is
-/

namespace MissionConsole

/-! ### The command -/

namespace Builtin

/-- The words by which the visitor leaves. -/
def IsFarewell (name : String) : Prop := Text.lower name = "close" ∨ Text.lower name = "exit"

theorem name_eq_close_iff (b : Builtin) : b.command.name = "close" ↔ b = .close := by
  cases b <;> decide

end Builtin

/-- The words that find the command which ends the session. -/
theorem Registry.lookup_eq_close_iff {name : String} :
    Registry.standard.lookup name = some ⟨Builtin.close.command, Builtin.close.run⟩ ↔
      Builtin.IsFarewell name := by
  have hclose : Text.lower "close" = "close" := by decide
  have hexit : Text.lower "exit" = "exit" := by decide
  constructor
  · intro hfound
    have hanswers := (mem_of_lookup hfound).2
    have hnames : Builtin.close.command.names = ["close", "exit"] := rfl
    rw [Entry.answersTo, hnames] at hanswers
    simp only [List.any_cons, List.any_nil, Bool.or_false, Bool.or_eq_true, beq_iff_eq, hclose,
      hexit] at hanswers
    exact hanswers.imp Eq.symm Eq.symm
  · rintro (hname | hname)
    · rw [Registry.standard.lookup_eq_of_lower_eq (hname.trans hclose.symm)]
      rfl
    · rw [Registry.standard.lookup_eq_of_lower_eq (hname.trans hexit.symm)]
      rfl

namespace Dispatcher

variable {d : Dispatcher} {files : Filesystem} {s : Session}

/-! ### Commands -/

theorem goesOn_runHandler {b : Builtin} (hb : b ≠ .close) (args : List String) (line : String) :
    Event.GoesOn d.profile
      (d.runHandler files s ⟨b.command, b.run⟩ args line).reply.events := by
  simp only [runHandler]
  split_ifs
  · exact .mild rfl
  · exact Builtin.goesOn_run hb (d.context files s b.command args)

/-- A word that is called ends the session exactly if it is one of the two. -/
theorem endsSession_callCommand_iff (hd : d.registry = .standard) {name : String}
    {args : List String} {line : String} :
    Event.endsSession (d.callCommand files s name args line).reply.events = true ↔
      Builtin.IsFarewell name := by
  rw [callCommand, hd, ← Registry.lookup_eq_close_iff]
  split
  · rename_i hnone
    rw [hnone]
    exact iff_of_false Bool.false_ne_true (Option.some_ne_none _).symm
  · rename_i entry hfound
    obtain ⟨b, rfl⟩ := Registry.exists_builtin_of_lookup hfound
    rw [hfound]
    by_cases hb : b = .close
    · -- The command needs neither arguments nor clearance.
      subst hb
      have harity : ¬ (args.length : Int) < Builtin.close.command.minArgs :=
        Int.not_lt.2 (Int.natCast_nonneg _)
      have hcleared : ¬ (Builtin.close.command.rootOnly && !s.isRoot) = true := Bool.false_ne_true
      dsimp only
      rw [if_neg harity, if_neg hcleared]
      exact iff_of_true rfl rfl
    · have hother : ¬ some (⟨b.command, b.run⟩ : Registry.Entry) =
          some ⟨Builtin.close.command, Builtin.close.run⟩ := by
        intro hsame
        have hname := congrArg (·.command.name) (Option.some.inj hsame)
        exact hb ((Builtin.name_eq_close_iff b).1 hname)
      refine iff_of_false (Bool.not_eq_true _ ▸ ?_) hother
      split_ifs
      · rfl
      · rfl
      · exact (goesOn_runHandler hb args line).endsSession_eq

/-- The riddle goes before the commands, so it may go by a word that would end the session. -/
theorem endsSession_runCommand_iff (hd : d.registry = .standard) {line : String} :
    Event.endsSession (d.runCommand files s line).reply.events = true ↔
      ∃ name args, Text.words line = name :: args ∧ Builtin.IsFarewell name ∧
        Text.lower name ≠ d.profile.riddle.command := by
  rw [runCommand]
  split
  · rename_i hwords
    simp [hwords, Event.endsSession]
  · rename_i name args hwords
    rw [hwords]
    split_ifs with hriddle
    · refine iff_of_false Bool.false_ne_true ?_
      rintro ⟨_, _, hsame, -, hother⟩
      obtain ⟨rfl, -⟩ := List.cons.inj hsame
      exact hother hriddle
    · rw [endsSession_callCommand_iff hd]
      constructor
      · exact fun hname => ⟨name, args, rfl, hname, hriddle⟩
      · rintro ⟨_, _, hsame, hname, -⟩
        obtain ⟨rfl, -⟩ := List.cons.inj hsame
        exact hname

/-! ### Lines -/

/-- Whatever a session is, a line asks at most once for the console to be closed, and last. The
session ends exactly if the line is taken as a command and its first word is `close` or `exit`,
letter case apart, and not the riddle's. -/
theorem ends_iff_bare_close (d : Dispatcher) (hd : d.registry = .standard) (files : Filesystem)
    (s : Session) (rawLine : String) :
    let events := (d.dispatch files s rawLine).reply.events
    events.countP (·.kind == .close) ≤ 1 ∧
      (∀ e ∈ events.dropLast, e.kind ≠ .close) ∧
      (Event.endsSession events = true ↔
        s.riddlePending = false ∧ s.awaitingPassword = false ∧ Text.trim rawLine ≠ "" ∧
          ∃ name args, Text.words (Text.trim rawLine) = name :: args ∧
            (Text.lower name = "close" ∨ Text.lower name = "exit") ∧
            Text.lower name ≠ d.profile.riddle.command) := by
  have hshape := shape_dispatch hd files s rawLine
  refine ⟨hshape.countP_close_le, fun e => hshape.kind_ne_close, ?_⟩
  by_cases hline : Text.trim rawLine = ""
  · rw [dispatch_of_blank hline]
    exact iff_of_false Bool.false_ne_true fun h => h.2.2.1 hline
  · by_cases hriddle : s.riddlePending = true
    · rw [dispatch_of_riddle hline hriddle, recorded_reply,
        (goesOn_answerRiddle _).endsSession_eq, hriddle]
      simp
    · rw [Bool.not_eq_true] at hriddle
      by_cases hawaiting : s.awaitingPassword = true
      · rw [dispatch_of_password hline (Session.takesPassword_iff.2 ⟨hriddle, hawaiting⟩),
          recorded_reply, (goesOn_checkPassword _).endsSession_eq, hawaiting]
        simp
      · rw [Bool.not_eq_true] at hawaiting
        rw [dispatch_of_command hline (Session.takesCommand_iff.2 ⟨hriddle, hawaiting⟩),
          recorded_reply, endsSession_runCommand_iff hd]
        simp only [hriddle, hawaiting, hline, ne_eq, not_false_eq_true, true_and]
        rfl

/-- A visitor leaves in capitals, and behind a blank that is not on every keyboard; where the riddle
goes by that word, the riddle is asked instead. -/
theorem ends_iff_bare_close_exit :
    let d := standard (Profile.map .standard) [] (.ok "noon")
    let riddle := { d.profile.riddle with command := "exit" }
    let posing := { d with profile := { d.profile with riddle } }
    let s := Session.fresh "id" "local"
    d.registry = .standard ∧ posing.registry = .standard ∧
      Event.endsSession (d.dispatch .empty s "\u3000EXIT now").reply.events = true ∧
      ¬Event.endsSession (posing.dispatch .empty s "\u3000EXIT now").reply.events = true ∧
      Event.endsSession (posing.dispatch .empty s "close").reply.events = true := by
  intro d riddle posing s
  have hd : d.registry = .standard := rfl
  have hposing : posing.registry = .standard := rfl
  refine ⟨hd, hposing, (ends_iff_bare_close d hd .empty s _).2.2.2 ?_, fun hends => ?_,
    (ends_iff_bare_close posing hposing .empty s _).2.2.2 ?_⟩
  · exact ⟨by decide, by decide, by decide, "EXIT", ["now"], by decide, by decide, by decide⟩
  · obtain ⟨-, -, -, name, args, hwords, -, hname⟩ :=
      (ends_iff_bare_close posing hposing .empty s _).2.2.1 hends
    have hfirst : Text.words (Text.trim "\u3000EXIT now") = ["EXIT", "now"] := by decide
    obtain ⟨rfl, -⟩ := List.cons.inj (hfirst.symm.trans hwords)
    exact hname (by decide)
  · exact ⟨by decide, by decide, by decide, "close", [], by decide, by decide, by decide⟩

end Dispatcher

end MissionConsole
