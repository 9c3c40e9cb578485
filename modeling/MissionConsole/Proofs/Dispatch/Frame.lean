import MissionConsole.Proofs.Dispatch.Journal
import MissionConsole.Proofs.Text.Words

/-!
# What a line leaves alone

A line writes to a session in one place. It moves the visitor, or it has to do with the login, or
with the riddle; it never does two of these at once, and whose session it is and what was entered
before it never touches. Which of the three it may be depends on how the line is taken: while a
riddle waits, it is the riddle.

A command that is refused before it runs leaves everything as it is, and says so in one line.

## Main definitions

* `Session.FieldGroup`, `Session.AgreeIn` — the fields that lines write, in groups
* `Session.WrittenIn` — a session that was written in one group at most
* `Registry.Refuses` — a command that is not run

## Main results

* `Session.Change.exists_writtenIn` — every change is one of a single group
* `Dispatcher.dispatch_writes_one_group` — what a line leaves alone, whatever the session is
-/

namespace MissionConsole

/-! ### Groups of fields -/

namespace Session

/-- The fields that lines write: where the visitor is, how far the login has come, the riddle. -/
inductive FieldGroup where
  | place
  | login
  | riddle
  deriving DecidableEq

/-- Two sessions agree in the fields of a group. -/
def AgreeIn (s s' : Session) : FieldGroup → Prop
  | .place => s'.cwd = s.cwd
  | .login => s'.auth = s.auth ∧ s'.failedAttempts = s.failedAttempts
  | .riddle => s'.puzzleStage = s.puzzleStage

/-- A session was written in the fields of one group, and nowhere else. -/
structure WrittenIn (g : FieldGroup) (s after : Session) : Prop where
  others : ∀ other, other ≠ g → s.AgreeIn after other
  history_eq : after.history = s.history
  id_eq : after.id = s.id
  origin_eq : after.origin = s.origin

variable {s after : Session} {p : Profile} {files : Filesystem} {line : String}

namespace WrittenIn

theorem unchanged (g : FieldGroup) (s : Session) : s.WrittenIn g s := by
  refine ⟨fun other _ => ?_, rfl, rfl, rfl⟩
  cases other with
  | login => exact ⟨rfl, rfl⟩
  | place | riddle => rfl

theorem riddle (s : Session) (stage : Int) :
    s.WrittenIn .riddle { s with puzzleStage := stage } := by
  refine ⟨fun other hother => ?_, rfl, rfl, rfl⟩
  cases other with
  | riddle => exact absurd rfl hother
  | login => exact ⟨rfl, rfl⟩
  | place => rfl

theorem login (s : Session) (auth : AuthState) (failedAttempts : Int) :
    s.WrittenIn .login { s with auth, failedAttempts } := by
  refine ⟨fun other hother => ?_, rfl, rfl, rfl⟩
  cases other with
  | login => exact absurd rfl hother
  | place | riddle => rfl

theorem place (s : Session) (cwd : String) : s.WrittenIn .place { s with cwd } := by
  refine ⟨fun other hother => ?_, rfl, rfl, rfl⟩
  cases other with
  | place => exact absurd rfl hother
  | login => exact ⟨rfl, rfl⟩
  | riddle => rfl

end WrittenIn

namespace Change

/-- Every change that a line may make is one of a single group. -/
theorem exists_writtenIn (h : s.Change p files line after) : ∃ g, s.WrittenIn g after := by
  cases h with
  | unchanged => exact ⟨.riddle, .unchanged _ s⟩
  | asked | solved => exact ⟨.riddle, .riddle s _⟩
  | granted | denied | challenged => exact ⟨.login, .login s _ _⟩
  | moved _ path => exact ⟨.place, .place s path⟩

/-- While a riddle waits, the line is its answer, and no other field is written. -/
theorem writtenIn_riddle (h : s.Change p files line after) (hs : s.riddlePending = true) :
    s.WrittenIn .riddle after := by
  cases h with
  | unchanged => exact .unchanged _ s
  | solved => exact .riddle s _
  -- All other changes are those of a line that is no answer.
  | asked hcommand | challenged hcommand | moved hcommand =>
    exact absurd hs (Bool.eq_false_iff.1 (takesCommand_iff.1 hcommand).1)
  | granted hpassword | denied hpassword =>
    exact absurd hs (Bool.eq_false_iff.1 (takesPassword_iff.1 hpassword).1)

theorem history_eq (h : s.Change p files line after) : after.history = s.history := by
  obtain ⟨g, hwritten⟩ := h.exists_writtenIn
  exact hwritten.history_eq

end Change

end Session

/-! ### Commands that are refused -/

/-- A command is not run: nobody answers to the name, arguments are missing, or the visitor is not
cleared for it. -/
inductive Registry.Refuses (r : Registry) (s : Session) (name : String) (args : List String) :
    Prop where
  | unknown (hname : r.lookup name = none)
  | tooFew {entry : Entry} (hname : r.lookup name = some entry)
    (hargs : args.length < entry.command.minArgs)
  | notCleared {entry : Entry} (hname : r.lookup name = some entry)
    (hroot : entry.command.rootOnly = true) (hs : s.isRoot = false)

namespace Dispatcher

variable {d : Dispatcher} {files : Filesystem} {s : Session} {rawLine line name : String}
  {args : List String}

/-- A command that is refused leaves everything as it is, and says so in one line. -/
theorem callCommand_of_refuses (h : d.registry.Refuses s name args) (files : Filesystem)
    (line : String) : ∃ told, d.callCommand files s name args line = ⟨s, ⟨[told], []⟩, []⟩ := by
  cases h with
  | unknown hname =>
    rw [callCommand, hname]
    exact ⟨_, rfl⟩
  | @tooFew entry hname hargs =>
    refine ⟨"Usage: " ++ entry.command.usage, ?_⟩
    rw [callCommand, hname]
    exact if_pos hargs
  | @notCleared entry hname hroot hs =>
    rw [callCommand, hname]
    -- Missing arguments are told of before a missing clearance is.
    by_cases hargs : (args.length : Int) < entry.command.minArgs
    · exact ⟨_, if_pos hargs⟩
    · refine ⟨"Insufficient clearance. Use login.", ?_⟩
      simp only [hargs, hroot, hs, if_false, Bool.not_false, Bool.and_self, if_true]

/-- A line whose command is refused leaves the session as it is, and is answered with one line. -/
theorem dispatch_of_refuses (hs : s.takesCommand = true)
    (hwords : Text.words rawLine = name :: args)
    (hriddle : Text.lower name ≠ d.profile.riddle.command) (h : d.registry.Refuses s name args)
    (files : Filesystem) :
    (d.dispatch files s rawLine).session = s ∧
      ∃ told, (d.dispatch files s rawLine).reply = ⟨[told], []⟩ := by
  -- A line with a word in it is not blank.
  have hline : Text.trim rawLine ≠ "" := by
    intro hblank
    rw [← Text.words_trim, hblank] at hwords
    exact absurd hwords nofun
  obtain ⟨told, hcall⟩ := callCommand_of_refuses h files (Text.trim rawLine)
  have hrun : d.runCommand files s (Text.trim rawLine) = ⟨s, ⟨[told], []⟩, []⟩ := by
    rw [runCommand, Text.words_trim, hwords]
    exact (if_neg hriddle).trans hcall
  rw [dispatch_of_command hline hs, recorded_session, recorded_reply, hrun]
  exact ⟨rfl, told, rfl⟩

/-! ### Lines -/

/-- Whatever a session is, a line writes the fields of one group at most: those of the riddle while
a riddle waits, and none when the line is blank or its command is refused. -/
theorem dispatch_writes_one_group (d : Dispatcher) (hd : d.registry = .standard)
    (files : Filesystem) (s : Session) (rawLine : String) :
    let turn := d.dispatch files s rawLine
    (∃ g, s.WrittenIn g turn.session) ∧
      (s.riddlePending = true → s.WrittenIn .riddle turn.session) ∧
      (Text.trim rawLine = "" → turn.session = s) ∧
      ∀ name args, s.takesCommand = true → Text.words rawLine = name :: args →
        Text.lower name ≠ d.profile.riddle.command → d.registry.Refuses s name args →
        turn.session = s ∧ ∃ told, turn.reply = ⟨[told], []⟩ := by
  intro turn
  have hchange := change_dispatch hd files s rawLine
  refine ⟨hchange.exists_writtenIn, hchange.writtenIn_riddle, fun hblank => ?_, ?_⟩
  · exact congrArg Turn.session (dispatch_of_blank hblank)
  · intro name args hs hwords hriddle hrefuses
    exact dispatch_of_refuses hs hwords hriddle hrefuses files

/-- A guest with odd counts, who is asked for neither a password nor a riddle's answer, is refused
the command for root. -/
theorem dispatch_writes_one_group_guest :
    let d : Dispatcher := .standard (Profile.map .standard) [] (.error "no clock")
    let s : Session := { Session.fresh "id" "local" with
      failedAttempts := -3, puzzleStage := 7, history := ["pwd"], cwd := "nowhere" }
    let turn := d.dispatch .empty s " UNLOCK-all now "
    d.registry = .standard ∧ s.takesCommand = true ∧
      Text.words " UNLOCK-all now " = ["UNLOCK-all", "now"] ∧
      Text.lower "UNLOCK-all" ≠ d.profile.riddle.command ∧
      d.registry.Refuses s "UNLOCK-all" ["now"] ∧
      turn.session = s ∧ ∃ told, turn.reply = ⟨[told], []⟩ := by
  intro d s turn
  have hd : d.registry = .standard := rfl
  have hs : s.takesCommand = true := by decide
  have hwords : Text.words " UNLOCK-all now " = ["UNLOCK-all", "now"] := by decide
  have hriddle : Text.lower "UNLOCK-all" ≠ d.profile.riddle.command := by decide
  have hfound : d.registry.lookup "UNLOCK-all" =
      some ⟨Builtin.unlockAll.command, Builtin.unlockAll.run⟩ := rfl
  have hrefuses : d.registry.Refuses s "UNLOCK-all" ["now"] :=
    .notCleared hfound rfl (by decide)
  have hrefused := (dispatch_writes_one_group d hd .empty s " UNLOCK-all now ").2.2.2
  exact ⟨hd, hs, hwords, hriddle, hrefuses, hrefused _ _ hs hwords hriddle hrefuses⟩

end Dispatcher

end MissionConsole
