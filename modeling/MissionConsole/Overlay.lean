import MissionConsole.Dispatcher
import MissionConsole.Fault
import MissionConsole.Timescale

/-!
# The overlay

The overlay is the console as it stands on a screen: the dispatcher's session, with the lines shown
so far, whether it is open, and until when an alert is on. Submitting a line shows it after the
prompt, enters it into the history, answers it, and carries the events out. A password is masked on
the screen and never enters the history. An alert that is too long for the clock ends the line at
once: what has happened until then stays, but the reply is lost.

## Main definitions

* `Console` — what an overlay is bound to
* `Overlay` — the state of an overlay
* `Overlay.prompt` — the prompt
* `Overlay.append` — lines added to the screen
* `Overlay.apply`, `Overlay.applyAll` — events carried out
* `Overlay.submit` — a line entered
-/

namespace MissionConsole

/-- What an overlay is bound to. -/
structure Console where
  dispatcher : Dispatcher
  files : Filesystem
  /-- How many lines the history and the screen keep. -/
  historySize : Int
  scrollbackSize : Int
  /-- A callback that is told of every event. It says whether its call of the given number fails. -/
  callback : Option (Nat → Event → Bool)

/-- The state of an overlay. -/
structure Overlay (τ : Type) where
  session : Session
  isOpen : Bool
  /-- The reading of the clock at which the alert ends. -/
  alertUntil : τ
  lines : List String
  /-- How often the callback was called. -/
  calls : Nat

namespace Overlay

variable {τ : Type} [Timescale τ]

/-- The screen when nothing is entered yet. -/
def freshScreen (c : Console) : List String := [c.dispatcher.profile.banner, ""]

/-- An overlay that is not open yet, with a fresh session. -/
def new (c : Console) (id origin : String) : Overlay τ where
  session := .fresh id origin
  isOpen := false
  alertUntil := Timescale.start
  lines := freshScreen c
  calls := 0

/-! ### Opening and closing -/

/-- Opens the overlay. -/
def opened (o : Overlay τ) : Overlay τ := { o with isOpen := true }

/-- Hides the overlay; the session goes on. -/
def hide (o : Overlay τ) : Overlay τ := { o with isOpen := false }

/-- Closes the overlay: the session is put back and the screen is fresh. -/
def close (c : Console) (o : Overlay τ) : Overlay τ :=
  { o with isOpen := false, session := o.session.reset, lines := freshScreen c }

/-- Closes an open overlay and opens a closed one. -/
def toggle (c : Console) (o : Overlay τ) : Overlay τ :=
  if o.isOpen then o.close c else o.opened

omit [Timescale τ] in
@[simp] theorem opened_session (o : Overlay τ) : o.opened.session = o.session := rfl

omit [Timescale τ] in
@[simp] theorem hide_session (o : Overlay τ) : o.hide.session = o.session := rfl

omit [Timescale τ] in
@[simp] theorem close_session (c : Console) (o : Overlay τ) :
    (o.close c).session = o.session.reset := rfl

/-! ### The screen -/

/-- The prompt: the visitor, the host and the working directory, or a question. -/
def promptOf (profile : Profile) (s : Session) : String :=
  if s.awaitingPassword then "Password:"
  else
    s.username ++ "@" ++ profile.hostname ++ ":" ++ s.cwd ++ (if s.isRoot then "#" else "$")

/-- The prompt of an overlay. -/
def prompt (c : Console) (o : Overlay τ) : String := promptOf c.dispatcher.profile o.session

/-- Whether an alert is on. -/
def alertActive (now : τ) (o : Overlay τ) : Bool := Timescale.before now o.alertUntil

/-- Adds lines to the screen, which keeps the newest ones. -/
def append (c : Console) (o : Overlay τ) (lines : List String) : Overlay τ :=
  { o with lines := Retention.keep c.scrollbackSize (o.lines ++ lines) }

/-! ### Entering a line -/

/-- What carrying events out leads to. -/
structure Effect (τ : Type) where
  overlay : Overlay τ
  journal : List Journal.Entry
  /-- The failure that has ended it. -/
  escaped : Option Fault

/-- The answer to a line that was submitted. -/
structure Submission (τ : Type) extends Effect τ where
  /-- The reply, which reaches nobody after a failure. -/
  reply : Reply

/-- Carries an event out on the overlay itself, unless an alert is too long for the clock. -/
def react? (c : Console) (now : τ) (o : Overlay τ) : Event → Option (Overlay τ)
  | .clear => some { o with lines := freshScreen c }
  | .close => some o.hide
  | .alert durationMs =>
    (Timescale.millis? durationMs).map fun d => { o with alertUntil := now + d }
  | _ => some o

/-- Tells the callback of an event. A failure is noted in the journal and goes no further. -/
def notify (c : Console) (o : Overlay τ) (e : Event) : Overlay τ × List Journal.Entry :=
  match c.callback with
  | none => (o, [])
  | some fails =>
    ({ o with calls := o.calls + 1 }, if fails o.calls e then [.callbackFailed e.kind] else [])

/-- Carries an event out and then tells the callback. -/
def apply (c : Console) (now : τ) (o : Overlay τ) (e : Event) : Effect τ :=
  match o.react? c now e with
  | none => ⟨o, [], some .durationTooLong⟩
  | some o =>
    let (o, entries) := o.notify c e
    ⟨o, entries, none⟩

/-- Carries events out in order, up to the first one that fails. -/
def applyAll (c : Console) (now : τ) (o : Overlay τ) : List Event → Effect τ
  | [] => ⟨o, [], none⟩
  | e :: rest =>
    let first := o.apply c now e
    if first.escaped.isSome then first
    else
      let more := applyAll c now first.overlay rest
      { more with journal := first.journal ++ more.journal }

/-- The line that the screen shows for a submitted line: the prompt and the line, which is masked
when a password is asked for. -/
def echoLine (c : Console) (o : Overlay τ) (rawLine : String) : String :=
  let shown := if o.session.awaitingPassword && Text.trim rawLine != "" then masked else rawLine
  Text.trimEnd (o.prompt c ++ " " ++ shown)

/-- Enters a line into the history, unless it is blank or a password. -/
def remember (c : Console) (s : Session) (rawLine : String) : Session :=
  if Text.trim rawLine != "" && !s.awaitingPassword then s.record (Text.trim rawLine) c.historySize
  else s

/-- Submits a line. -/
def submit (c : Console) (now : τ) (o : Overlay τ) (rawLine : String) : Submission τ :=
  let o := o.append c [o.echoLine c rawLine]
  let turn := c.dispatcher.dispatch c.files (remember c o.session rawLine) rawLine
  let o := { o with session := turn.session }.append c turn.reply.lines
  let effect := o.applyAll c now turn.reply.events
  { effect with journal := turn.journal ++ effect.journal, reply := turn.reply }

end Overlay

end MissionConsole
