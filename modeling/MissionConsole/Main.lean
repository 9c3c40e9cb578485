import MissionConsole.Audit.LogFile
import MissionConsole.Launch.Plan
import MissionConsole.Local
import Std.Time.Format

/-!
# The program

Settings come from the environment and options from the command line. The local shell runs on the
program's own input and output, and what it does is appended to the log files. The remote host and
the dashboard need a network below them, which this program is built without; it says so and stops.

## Main definitions

* `Program.appendLine` — a line added to a log file
* `Program.converse` — the local shell, line by line
* `main` — the command line
-/

namespace MissionConsole.Program

open Std.Time

/-- The time in the local zone, or in the standard one when the local zone is not known. -/
def now : IO DateTime := do
  try DateTime.now
  catch _ => return DateTime.ofTimestampWithZone (← Timestamp.now) .UTC

/-- The date as the console shows it. -/
def date : IO String := do return (← now).format "EEE MMM dd uuuu HH:mm:ss zzz"

/-- The time as records are stamped with it. -/
def stamp : IO String := do return (← now).format "uuuu-MM-dd\'T\'HH:mm:ssxxx"

/-- The reading of a clock that never goes back. -/
def reading : IO Float := do return Decimal.ofInt (← IO.monoMsNow) / 1000

/-- The id of a new session. -/
def newId : IO String := do
  return String.ofList (Text.hexDigits 12 (← IO.rand 0 (Nat.pow 16 12 - 1)))

/-- The settings under the environment of the program. -/
def readSettings : IO (Except Numeral.Malformed Settings) := do
  let found ← Settings.variableNames.filterMapM fun name => do
    return (← IO.getEnv name).map fun text => (name, text)
  return Settings.read fun name => found.lookup name

/-! ### Log files -/

/-- The size of a file; zero when there is none. -/
def sizeOf (path : String) : IO Nat := do
  try return (← (← IO.FS.realPath path).metadata).byteSize.toNat
  catch _ => return 0

/-- Gives a file another name, if it exists. -/
def move (path target : String) : IO Unit := do
  try IO.FS.rename path target
  catch _ => pure ()

/-- Puts a file away as its first backup; the other backups move up by one. -/
def putAway (rotation : Rotation) (path : String) : IO Unit := do
  for i in (List.range (rotation.backupCount.toNat - 1)).reverse do
    move (path ++ "." ++ toString (i + 1)) (path ++ "." ++ toString (i + 2))
  move path (path ++ ".1")

/-- Adds a line to the log file of its channel, which is put away before when it is due. -/
def appendLine (s : Settings) (line : Journal.LogLine) : IO Unit := do
  let path := Settings.joinPath s.logDir line.channel.fileName
  let rotation : Rotation := ⟨s.logMaxBytes, s.logBackupCount⟩
  if rotation.isDue (← sizeOf path) line.message && decide (0 < rotation.backupCount) then
    putAway rotation path
  IO.FS.withFile path .append fun file => file.putStrLn line.message

/-- Makes the log files, if they do not exist. -/
def openLogs (s : Settings) : IO Unit := do
  IO.FS.createDirAll s.logDir
  for channel in [Channel.commands, .auth, .system] do
    IO.FS.withFile (Settings.joinPath s.logDir channel.fileName) .append fun _ => pure ()

/-! ### Hosts -/

/-- What an overlay is bound to; the date is the one of this moment. -/
def console (s : Settings) (profile : Profile) : IO Console := do
  return {
    dispatcher := .standard profile s.companies (.ok (← date))
    files := .standard Region.defaults s.companies
    historySize := s.historySize
    scrollbackSize := s.scrollbackSize
    callback := none }

/-- Prints a text at once. -/
def say (text : String) : IO Unit := do
  IO.print text
  (← IO.getStdout).flush

/-- Says why the program gives up. -/
def giveUp (why : String) : IO UInt32 := do
  IO.eprintln (Help.program ++ ": error: " ++ why)
  return 1

/-- The local shell, line by line, until the input or the session ends or a line fails. -/
partial def converse (s : Settings) (profile : Profile) (o : Overlay Float) : IO UInt32 := do
  let c ← console s profile
  say (o.prompt c ++ " ")
  let line ← (← IO.getStdin).getLine
  match LocalShell.inputLines line with
  | [] =>
    say "\n"
    return 0
  | text :: _ =>
    let (r, ends) := LocalShell.step (← console s profile) (← reading) o text
    for entry in Journal.logLines (← stamp) r.journal do
      appendLine s entry
    say r.output
    match r.escaped with
    | some f => giveUp f.message
    | none => if ends then return 0 else converse s profile r.overlay

/-- Greets the visitor and runs the local shell. -/
def runLocal (s : Settings) (profile : Profile) : IO UInt32 := do
  let o : Overlay Float := (Overlay.new (← console s profile) (← newId) "local").opened
  say (LocalShell.greeting o)
  converse s profile o

/-- Says that a host cannot be started. -/
def withoutNetwork (host : String) : IO UInt32 := giveUp ("built without a network: no " ++ host)

/-- Carries a plan out. -/
def runPlan (s : Settings) (plan : Plan) : IO UInt32 := do
  openLogs s
  match Profile.named s plan.profile with
  | .error e => giveUp e.message
  | .ok profile =>
    if plan.sideDashboard.isSome then
      let _ ← withoutNetwork "dashboard"
    match plan.front with
    | .localShell => runLocal s profile
    | .dashboard _ => withoutNetwork "dashboard"
    | .remote .. => withoutNetwork "remote host"

end MissionConsole.Program

open MissionConsole in
/-- The command line. -/
def main (arguments : List String) : IO UInt32 := do
  match ← Program.readSettings with
  | .error e => Program.giveUp e.message
  | .ok s =>
    match Launch.decide s arguments with
    | .help =>
      IO.print Help.text
      return 0
    | .refuse e started =>
      if started then Program.openLogs s
      IO.eprint (Launch.refusal e)
      return Launch.refusedExit.toNat.toUInt32
    | .profileMissing =>
      Program.openLogs s
      Program.giveUp "the profile has no name"
    | .run plan => Program.runPlan s plan
