import MissionConsole.Dispatcher
import MissionConsole.Proofs.Command.Footprint

/-!
# What one line does

A line is blank, or it is taken as an answer to a riddle, as a password or as a command; which of
the last three is decided by the session alone. From the three modes and from what commands may
write follows everything that a line can do to a session.

## Main definitions

* `Session.takesPassword`, `Session.takesCommand` — how the next line is taken
* `Session.Change` — what a line may make of a session

## Main results

* `Dispatcher.dispatch_of_blank`, `Dispatcher.dispatch_of_riddle`,
  `Dispatcher.dispatch_of_password`, `Dispatcher.dispatch_of_command` — the four ways of a line
* `Dispatcher.change_dispatch` — nothing else happens to a session
* `Dispatcher.runCommand_eq_of_seenAlike` — what is seen alike is answered alike
-/

namespace MissionConsole

namespace Session

/-- The next line is taken as a password: one is asked for, and no riddle comes first. -/
def takesPassword (s : Session) : Bool := !s.riddlePending && s.awaitingPassword

/-- The next line is taken as a command. -/
def takesCommand (s : Session) : Bool := !s.riddlePending && !s.awaitingPassword

variable {s : Session}

theorem takesPassword_iff :
    s.takesPassword = true ↔ s.riddlePending = false ∧ s.awaitingPassword = true := by
  simp [takesPassword]

theorem takesCommand_iff :
    s.takesCommand = true ↔ s.riddlePending = false ∧ s.awaitingPassword = false := by
  simp [takesCommand]

/-- Who is asked for the password is not root yet. -/
theorem isRoot_of_awaitingPassword (h : s.awaitingPassword = true) : s.isRoot = false := by
  rw [awaitingPassword, beq_iff_eq] at h
  rw [isRoot, h]
  rfl

theorem isRoot_of_takesPassword (h : s.takesPassword = true) : s.isRoot = false :=
  isRoot_of_awaitingPassword (takesPassword_iff.1 h).2

/-- The count of failed attempts after one more: the attempt that reaches the threshold puts the
count back. -/
def countFailure (s : Session) (p : Profile) : Int :=
  if p.lockoutThreshold ≤ s.failedAttempts + 1 then 0 else s.failedAttempts + 1

/-- What a line, trimmed, may make of a session. -/
inductive Change (s : Session) (p : Profile) (files : Filesystem) (line : String) : Session → Prop
  | unchanged : Change s p files line s
  /-- The riddle is asked. -/
  | asked (hs : s.takesCommand = true) :
    Change s p files line { s with puzzleStage := puzzlePending }
  /-- The riddle is solved. -/
  | solved (hs : s.riddlePending = true) :
    Change s p files line { s with puzzleStage := puzzleInactive }
  /-- The password is right. -/
  | granted (hs : s.takesPassword = true) (hline : line ≠ "") (hright : line = p.password) :
    Change s p files line { s with auth := .root, failedAttempts := 0 }
  /-- The password is wrong. -/
  | denied (hs : s.takesPassword = true) (hline : line ≠ "") (hwrong : line ≠ p.password) :
    Change s p files line { s with auth := .guest, failedAttempts := s.countFailure p }
  /-- The visitor wants to log in. -/
  | challenged (hs : s.takesCommand = true) (hroot : s.isRoot = false) :
    Change s p files line { s with auth := .awaitingPassword }
  /-- The visitor goes to a directory. -/
  | moved (hs : s.takesCommand = true) (path : String) (hpath : Path.IsCanonical path)
      (hdir : files.isDirectory path = true) :
    Change s p files line { s with cwd := path }

end Session

namespace Dispatcher

variable {d : Dispatcher} {files : Filesystem} {s : Session} {rawLine : String}

/-! ### The four ways of a line -/

/-- The answer to a line with the record of the line behind it. -/
def recorded (before : Session) (line : String) (turn : Turn) : Turn :=
  { turn with journal := turn.journal ++ [.record (lineRecord before line turn)] }

@[simp] theorem recorded_session (before : Session) (line : String) (turn : Turn) :
    (recorded before line turn).session = turn.session := rfl

@[simp] theorem recorded_reply (before : Session) (line : String) (turn : Turn) :
    (recorded before line turn).reply = turn.reply := rfl

theorem dispatch_of_blank (h : Text.trim rawLine = "") :
    d.dispatch files s rawLine = ⟨s, ⟨[""], []⟩, []⟩ := by
  rw [dispatch]
  exact if_pos h

theorem dispatch_of_ne (h : Text.trim rawLine ≠ "") :
    d.dispatch files s rawLine =
      recorded s (Text.trim rawLine) (d.answer files s (Text.trim rawLine)) := by
  rw [dispatch]
  exact if_neg h

theorem dispatch_of_riddle (h : Text.trim rawLine ≠ "") (hs : s.riddlePending = true) :
    d.dispatch files s rawLine =
      recorded s (Text.trim rawLine) (d.answerRiddle s (Text.trim rawLine)) := by
  rw [dispatch_of_ne h, answer, if_pos hs]

theorem dispatch_of_password (h : Text.trim rawLine ≠ "") (hs : s.takesPassword = true) :
    d.dispatch files s rawLine =
      recorded s (Text.trim rawLine) (d.checkPassword s (Text.trim rawLine)) := by
  obtain ⟨hriddle, hawaiting⟩ := Session.takesPassword_iff.1 hs
  rw [dispatch_of_ne h, answer, hriddle, if_neg Bool.false_ne_true, if_pos hawaiting]

theorem dispatch_of_command (h : Text.trim rawLine ≠ "") (hs : s.takesCommand = true) :
    d.dispatch files s rawLine =
      recorded s (Text.trim rawLine) (d.runCommand files s (Text.trim rawLine)) := by
  obtain ⟨hriddle, hawaiting⟩ := Session.takesCommand_iff.1 hs
  rw [dispatch_of_ne h, answer, hriddle, hawaiting, if_neg Bool.false_ne_true,
    if_neg Bool.false_ne_true]

/-! ### What becomes of the session -/

theorem change_answerRiddle {line : String} (hs : s.riddlePending = true) :
    s.Change d.profile files line (d.answerRiddle s line).session := by
  simp only [answerRiddle]
  split_ifs
  · exact .solved hs
  · exact .unchanged

theorem checkPassword_of_right {line : String} (h : line = d.profile.password) :
    (d.checkPassword s line).session = { s with auth := .root, failedAttempts := 0 } := by
  rw [checkPassword, if_pos h]

theorem checkPassword_of_wrong {line : String} (h : line ≠ d.profile.password) :
    (d.checkPassword s line).session =
      { s with auth := .guest, failedAttempts := s.countFailure d.profile } := by
  simp only [checkPassword, if_neg h, decide_eq_true_eq, Session.countFailure]

theorem change_checkPassword {line : String} (hs : s.takesPassword = true) (hline : line ≠ "") :
    s.Change d.profile files line (d.checkPassword s line).session := by
  by_cases h : line = d.profile.password
  · rw [checkPassword_of_right h]
    exact .granted hs hline h
  · rw [checkPassword_of_wrong h]
    exact .denied hs hline h

theorem runHandler_session (entry : Registry.Entry) (args : List String) (line : String) :
    (d.runHandler files s entry args line).session =
      (entry.handler (d.context files s entry.command args)).session := by
  simp only [runHandler]
  split_ifs <;> rfl

theorem change_runHandler {line : String} (hs : s.takesCommand = true) (b : Builtin)
    (args : List String) :
    s.Change d.profile files line (d.runHandler files s ⟨b.command, b.run⟩ args line).session := by
  rw [runHandler_session]
  rcases b.session_run_cases (d.context files s b.command args) with
    h | ⟨hroot, h⟩ | ⟨path, hpath, hdir, h⟩ <;> rw [h]
  · exact .unchanged
  · exact .challenged hs hroot
  · exact .moved hs path hpath hdir

theorem change_runCommand (hd : d.registry = .standard) {line : String}
    (hs : s.takesCommand = true) :
    s.Change d.profile files line (d.runCommand files s line).session := by
  rw [runCommand]
  split
  · exact .unchanged
  · split_ifs
    · exact .asked hs
    · rw [callCommand, hd]
      split
      · exact .unchanged
      · rename_i hfound
        obtain ⟨b, rfl⟩ := Registry.exists_builtin_of_lookup hfound
        -- Too few arguments, or too little clearance, and nothing happens.
        split_ifs
        · exact .unchanged
        · exact .unchanged
        · exact change_runHandler hs b _

/-- Whatever a session is, a line does to it nothing but this. -/
theorem change_dispatch (hd : d.registry = .standard) (files : Filesystem) (s : Session)
    (rawLine : String) :
    s.Change d.profile files (Text.trim rawLine) (d.dispatch files s rawLine).session := by
  -- The modes are told apart in the order of the dispatcher: a riddle comes before a password.
  by_cases hline : Text.trim rawLine = ""
  · rw [dispatch_of_blank hline]
    exact .unchanged
  · by_cases hriddle : s.riddlePending = true
    · rw [dispatch_of_riddle hline hriddle, recorded_session]
      exact change_answerRiddle hriddle
    · rw [Bool.not_eq_true] at hriddle
      by_cases hawaiting : s.awaitingPassword = true
      · have hs : s.takesPassword = true := Session.takesPassword_iff.2 ⟨hriddle, hawaiting⟩
        rw [dispatch_of_password hline hs, recorded_session]
        exact change_checkPassword hs hline
      · have hs : s.takesCommand = true :=
          Session.takesCommand_iff.2 ⟨hriddle, Bool.not_eq_true _ ▸ hawaiting⟩
        rw [dispatch_of_command hline hs, recorded_session]
        exact change_runCommand hd hs

/-! ### Lines that are answered alike -/

variable {d' : Dispatcher} {files' : Filesystem}

/-- A command is answered alike where every context is seen alike, whatever command it is. -/
theorem runCommand_eq_of_seenAlike (hd : d.registry = .standard) (hd' : d'.registry = .standard)
    (hriddle : d'.profile.riddle = d.profile.riddle)
    (halike : ∀ command args,
      (d.context files s command args).SeenAlike (d'.context files' s command args))
    (line : String) : d'.runCommand files' s line = d.runCommand files s line := by
  rw [runCommand, runCommand]
  split
  · rfl
  · rename_i name args hwords
    rw [startRiddle, startRiddle, callCommand, callCommand, hd, hd', hriddle]
    split_ifs with hname
    · rfl
    · cases hfound : Registry.standard.lookup name with
      | none => rfl
      | some entry =>
        obtain ⟨b, rfl⟩ := Registry.exists_builtin_of_lookup hfound
        have hrun := b.run_eq_of_seenAlike (halike b.command args)
        simp only [runHandler, hrun]

end Dispatcher

end MissionConsole
