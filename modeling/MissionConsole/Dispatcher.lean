import MissionConsole.Audit.Journal
import MissionConsole.Command.Builtin

/-!
# The dispatcher

The dispatcher takes one line of a session at a time. While a riddle waits, every line is an answer;
while a password is asked for, every line is a password; otherwise the line is a command. Every line
that is not blank leaves one record, and a tried password leaves one more before it. A handler that
fails is answered for by one line, whatever it had done.

## Main definitions

* `Dispatcher` — what lines are answered from
* `Turn` — the answer to one line: the session after it, the reply, and the journal
* `Dispatcher.answerRiddle`, `Dispatcher.checkPassword`, `Dispatcher.runCommand` — the three modes
* `Dispatcher.dispatch` — the answer to a line
-/

namespace MissionConsole

/-- What lines are answered from. -/
structure Dispatcher where
  profile : Profile
  regions : List Region
  companies : List String
  /-- The date as it is shown, or the failure of the clock. -/
  clock : Except String String
  registry : Registry

/-- The answer to one line. -/
structure Turn where
  session : Session
  reply : Reply
  journal : List Journal.Entry
  deriving Inhabited

/-- What a password is shown as. -/
def masked : String := "********"

namespace Dispatcher

/-- The dispatcher over the built-in commands and the map's regions. -/
def standard (profile : Profile) (companies : List String) (clock : Except String String) :
    Dispatcher where
  profile
  regions := Region.defaults
  companies
  clock
  registry := .standard

/-! ### Riddles -/

/-- Asks the riddle. -/
def startRiddle (d : Dispatcher) (s : Session) : Turn :=
  ⟨{ s with puzzleStage := Session.puzzlePending }, ⟨[d.profile.riddle.prompt], []⟩, []⟩

/-- Takes a line as an answer. A wrong answer gets the hint, and the riddle goes on waiting. -/
def answerRiddle (d : Dispatcher) (s : Session) (line : String) : Turn :=
  let riddle := d.profile.riddle
  if riddle.solvedBy line then
    ⟨{ s with puzzleStage := Session.puzzleInactive },
      ⟨[riddle.success], [.unlock riddle.unlockId]⟩, []⟩
  else ⟨s, ⟨[riddle.hint], []⟩, []⟩

/-! ### Passwords -/

/-- Takes a line as a password. The attempt that reaches the threshold raises an alert, and counting
starts again. -/
def checkPassword (d : Dispatcher) (s : Session) (line : String) : Turn :=
  if line = d.profile.password then
    ⟨{ s with auth := .root, failedAttempts := 0 },
      ⟨["ACCESS GRANTED. Welcome, operator."],
        [.unlock d.profile.adminUnlockId, .sound "access_granted"]⟩,
      [.record (.login s.id s.origin true 0 false)]⟩
  else
    let attempts := s.failedAttempts + 1
    let lockout := decide (d.profile.lockoutThreshold ≤ attempts)
    ⟨{ s with auth := .guest, failedAttempts := if lockout then 0 else attempts },
      ⟨["ACCESS DENIED."], if lockout then [.alert d.profile.alertDurationMs] else []⟩,
      [.record (.login s.id s.origin false attempts lockout)]⟩

/-! ### Commands -/

/-- What a handler may look at. -/
def context (d : Dispatcher) (files : Filesystem) (s : Session) (command : Command)
    (args : List String) : Context where
  name := command.name
  args
  session := s
  files
  profile := d.profile
  regions := d.regions
  companies := d.companies
  clock := d.clock
  commands := d.registry.commands

/-- Runs a handler. When it fails, its lines and events are dropped and one line says so. -/
def runHandler (d : Dispatcher) (files : Filesystem) (s : Session) (entry : Registry.Entry)
    (args : List String) (line : String) : Turn :=
  let run := entry.handler (d.context files s entry.command args)
  if run.failed then
    ⟨run.session, ⟨[entry.command.name ++ ": internal error"], []⟩,
      [.commandFailed entry.command.name line]⟩
  else ⟨run.session, ⟨run.lines, run.events⟩, []⟩

/-- Looks a command up and runs it, unless arguments or clearance are missing. -/
def callCommand (d : Dispatcher) (files : Filesystem) (s : Session) (name : String)
    (args : List String) (line : String) : Turn :=
  match d.registry.lookup name with
  | none => ⟨s, ⟨["Unknown: " ++ name], []⟩, []⟩
  | some entry =>
    if (args.length : Int) < entry.command.minArgs then
      ⟨s, ⟨["Usage: " ++ entry.command.usage], []⟩, []⟩
    else if entry.command.rootOnly && !s.isRoot then
      ⟨s, ⟨["Insufficient clearance. Use login."], []⟩, []⟩
    else d.runHandler files s entry args line

/-- Takes a line as a command. The command of the riddle comes before the registered ones. -/
def runCommand (d : Dispatcher) (files : Filesystem) (s : Session) (line : String) : Turn :=
  match Text.words line with
  | [] => ⟨s, ⟨[""], []⟩, []⟩
  | name :: args =>
    if Text.lower name = d.profile.riddle.command then d.startRiddle s
    else d.callCommand files s name args line

/-! ### Lines -/

/-- The answer to a line that is trimmed and not blank, without its record. -/
def answer (d : Dispatcher) (files : Filesystem) (s : Session) (line : String) : Turn :=
  if s.riddlePending then d.answerRiddle s line
  else if s.awaitingPassword then d.checkPassword s line
  else d.runCommand files s line

/-- The record of a line: who entered it and what it was answered with. A line that was entered
while a password was asked for is masked. -/
def lineRecord (before : Session) (line : String) (turn : Turn) : Record :=
  .command turn.session.id turn.session.origin before.username
    (if before.awaitingPassword then masked else line)
    turn.reply.lines.length (turn.reply.events.map (·.kind.name))

/-- The answer to a line. A blank line is answered with an empty line and leaves no record. -/
def dispatch (d : Dispatcher) (files : Filesystem) (s : Session) (rawLine : String) : Turn :=
  let line := Text.trim rawLine
  if line = "" then ⟨s, ⟨[""], []⟩, []⟩
  else
    let turn := d.answer files s line
    { turn with journal := turn.journal ++ [.record (lineRecord s line turn)] }

end Dispatcher

end MissionConsole
