import MissionConsole.Proofs.Dispatch.Run

/-!
# What a line leaves in the journal

A blank line leaves nothing. Any other line leaves one record of its own, and one before it when it
was taken as a password. All of them tell of the session on which the line was entered, for a line
never changes who a session is. A handler that fails adds a remark, which is no record.

## Main definitions

* `Dispatcher.loginRecord` — what is recorded of a password

## Main results

* `Session.Change.id_eq`, `Session.Change.origin_eq` — a line never changes who a session is
* `Dispatcher.records_dispatch` — the records of a line
-/

namespace MissionConsole

namespace Session.Change

variable {s after : Session} {p : Profile} {files : Filesystem} {line : String}

theorem id_eq (h : s.Change p files line after) : after.id = s.id := by
  cases h <;> rfl

theorem origin_eq (h : s.Change p files line after) : after.origin = s.origin := by
  cases h <;> rfl

end Session.Change

namespace Dispatcher

variable {d : Dispatcher} {files : Filesystem} {s : Session}

/-- What is recorded of a password that is tried on a session. -/
def loginRecord (d : Dispatcher) (s : Session) (line : String) : Record :=
  if line = d.profile.password then .login s.id s.origin true 0 false
  else
    .login s.id s.origin false (s.failedAttempts + 1)
      (decide (d.profile.lockoutThreshold ≤ s.failedAttempts + 1))

/-! ### The three modes -/

theorem records_answerRiddle (line : String) :
    Journal.records (d.answerRiddle s line).journal = [] := by
  simp only [answerRiddle]
  split_ifs <;> rfl

theorem records_checkPassword (line : String) :
    Journal.records (d.checkPassword s line).journal = [d.loginRecord s line] := by
  rw [checkPassword, loginRecord]
  split_ifs <;> rfl

theorem records_runHandler (entry : Registry.Entry) (args : List String) (line : String) :
    Journal.records (d.runHandler files s entry args line).journal = [] := by
  simp only [runHandler]
  split_ifs <;> rfl

theorem records_runCommand (line : String) :
    Journal.records (d.runCommand files s line).journal = [] := by
  rw [runCommand]
  split
  · rfl
  · split_ifs
    · rfl
    · rw [callCommand]
      split
      · rfl
      · split_ifs
        · rfl
        · rfl
        · exact records_runHandler _ _ _

/-- Of the three modes, only the check of a password records anything by itself. -/
theorem records_answer (files : Filesystem) (s : Session) (line : String) :
    Journal.records (d.answer files s line).journal =
      if s.takesPassword then [d.loginRecord s line] else [] := by
  rw [answer, Session.takesPassword]
  cases s.riddlePending
  · cases s.awaitingPassword
    · exact records_runCommand line
    · exact records_checkPassword line
  · exact records_answerRiddle line

/-! ### A line -/

theorem records_dispatch_of_blank {rawLine : String} (h : Text.trim rawLine = "") :
    Journal.records (d.dispatch files s rawLine).journal = [] := by
  rw [dispatch_of_blank h]
  rfl

/-- A line that is not blank leaves its own record, behind the one of the password if it was taken
as one. -/
theorem records_dispatch {rawLine : String} (h : Text.trim rawLine ≠ "") :
    Journal.records (d.dispatch files s rawLine).journal =
      (if s.takesPassword then [d.loginRecord s (Text.trim rawLine)] else []) ++
        [lineRecord s (Text.trim rawLine) (d.answer files s (Text.trim rawLine))] := by
  rw [dispatch_of_ne h, recorded, Journal.records_append, records_answer]
  rfl

end Dispatcher

end MissionConsole
