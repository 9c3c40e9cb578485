import MissionConsole.Proofs.Command.Identity
import MissionConsole.Proofs.Dispatch.Step

/-!
# Lines do not see who the visitor is

The id of a session and the origin of its visitor are written into records and looked at nowhere
else, unless a command looks at them. Where none does, two sessions that differ in nothing else
answer a line alike, and go on differing in nothing else.

## Main definitions

* `Registry.Impartial` — no command looks at the id and the origin
* `Turn.Alike` — answers that differ in the id, the origin and the journal alone

## Main results

* `Registry.impartial_standard` — no built-in command does
* `Dispatcher.alike_of_impartial`, `Dispatcher.alike_dispatch` — sessions that differ in the id and
  the origin alone answer alike
-/

namespace MissionConsole

/-- No command looks at the id and the origin of a session. -/
def Registry.Impartial (r : Registry) : Prop :=
  ∀ e ∈ r.entries, ∀ ctx, (e.handler ctx.anonymous).anonymous = (e.handler ctx).anonymous

theorem Registry.impartial_standard : Registry.standard.Impartial := by
  intro e he ctx
  obtain ⟨b, -, rfl⟩ := List.mem_map.1 he
  dsimp only
  rw [b.run_anonymous]
  rfl

/-- Two answers to a line that differ in the id, the origin and the journal alone. -/
structure Turn.Alike (turn turn' : Turn) : Prop where
  session : turn.session.anonymous = turn'.session.anonymous
  reply : turn.reply = turn'.reply

theorem Turn.Alike.symm {turn turn' : Turn} (h : turn.Alike turn') : turn'.Alike turn :=
  ⟨h.session.symm, h.reply.symm⟩

theorem Turn.Alike.trans {turn turn' turn'' : Turn} (h : turn.Alike turn')
    (h' : turn'.Alike turn'') : turn.Alike turn'' :=
  ⟨h.session.trans h'.session, h.reply.trans h'.reply⟩

namespace Dispatcher

variable {d : Dispatcher} {files : Filesystem} {s s' : Session}

theorem answerRiddle_anonymous (line : String) :
    (d.answerRiddle s.anonymous line).Alike (d.answerRiddle s line) := by
  simp only [answerRiddle]
  split_ifs
  · exact ⟨rfl, rfl⟩
  · exact ⟨rfl, rfl⟩

theorem checkPassword_anonymous (line : String) :
    (d.checkPassword s.anonymous line).Alike (d.checkPassword s line) := by
  rw [checkPassword, checkPassword]
  split_ifs
  · exact ⟨rfl, rfl⟩
  · exact ⟨rfl, rfl⟩

theorem runHandler_anonymous {entry : Registry.Entry} (args : List String) (line : String)
    (hentry : ∀ ctx, (entry.handler ctx.anonymous).anonymous = (entry.handler ctx).anonymous) :
    (d.runHandler files s.anonymous entry args line).Alike
      (d.runHandler files s entry args line) := by
  have hcontext : d.context files s.anonymous entry.command args =
      (d.context files s entry.command args).anonymous := rfl
  obtain ⟨hsession, hlines, hevents, hfailed⟩ :=
    Run.mk.inj (hentry (d.context files s entry.command args))
  simp only [runHandler, hcontext, hfailed, hlines, hevents]
  split_ifs
  · exact ⟨hsession, rfl⟩
  · exact ⟨hsession, rfl⟩

theorem runCommand_anonymous (hd : d.registry.Impartial) (line : String) :
    (d.runCommand files s.anonymous line).Alike (d.runCommand files s line) := by
  rw [runCommand, runCommand]
  split
  · exact ⟨rfl, rfl⟩
  · split_ifs
    · exact ⟨rfl, rfl⟩
    · rw [callCommand, callCommand]
      split
      · exact ⟨rfl, rfl⟩
      · rename_i entry hfound
        have hroot : s.anonymous.isRoot = s.isRoot := rfl
        rw [hroot]
        -- Too few arguments, or too little clearance, and everybody is told so.
        split_ifs
        · exact ⟨rfl, rfl⟩
        · exact ⟨rfl, rfl⟩
        · exact runHandler_anonymous _ _ (hd entry (Registry.mem_of_lookup hfound).1)

theorem answer_anonymous (hd : d.registry.Impartial) (line : String) :
    (d.answer files s.anonymous line).Alike (d.answer files s line) := by
  have hriddle : s.anonymous.riddlePending = s.riddlePending := rfl
  have hawaiting : s.anonymous.awaitingPassword = s.awaitingPassword := rfl
  rw [answer, answer, hriddle, hawaiting]
  split_ifs
  · exact answerRiddle_anonymous line
  · exact checkPassword_anonymous line
  · exact runCommand_anonymous hd line

theorem dispatch_anonymous (hd : d.registry.Impartial) (rawLine : String) :
    (d.dispatch files s.anonymous rawLine).Alike (d.dispatch files s rawLine) := by
  by_cases hline : Text.trim rawLine = ""
  · rw [dispatch_of_blank hline, dispatch_of_blank hline]
    exact ⟨rfl, rfl⟩
  · rw [dispatch_of_ne hline, dispatch_of_ne hline]
    have hanswer : (d.answer files s.anonymous (Text.trim rawLine)).Alike
        (d.answer files s (Text.trim rawLine)) := answer_anonymous hd _
    exact ⟨hanswer.session, hanswer.reply⟩

/-- Sessions that differ in the id and the origin alone answer a line alike, where no command looks
at the two. -/
theorem alike_of_impartial (hd : d.registry.Impartial) (files : Filesystem)
    (hsame : s.anonymous = s'.anonymous) (rawLine : String) :
    (d.dispatch files s rawLine).Alike (d.dispatch files s' rawLine) := by
  have hfirst : (d.dispatch files s.anonymous rawLine).Alike (d.dispatch files s rawLine) :=
    dispatch_anonymous hd rawLine
  rw [hsame] at hfirst
  exact hfirst.symm.trans (dispatch_anonymous hd rawLine)

theorem alike_dispatch (hd : d.registry = .standard) (files : Filesystem)
    (hsame : s.anonymous = s'.anonymous) (rawLine : String) :
    (d.dispatch files s rawLine).Alike (d.dispatch files s' rawLine) :=
  alike_of_impartial (hd ▸ Registry.impartial_standard) files hsame rawLine

end Dispatcher

end MissionConsole
