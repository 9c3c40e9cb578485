import MissionConsole.Event.Form
import MissionConsole.Overlay
import MissionConsole.Remote.Shell

/-!
# The local shell

On the machine's own terminal an overlay is driven line by line. Events that the terminal cannot
carry out are shown as objects. The shell ends when the input does, when a reply ends the session,
or when a line fails.

## Main definitions

* `LocalShell.replyText` — what a reply prints
* `LocalShell.run` — the shell over the lines of the input
* `LocalShell.inputLines` — the lines of an input
-/

namespace MissionConsole.LocalShell

variable {τ : Type} [Timescale τ]

/-- What an event prints. The closing of the console is seen by the shell's ending. -/
def eventText (e : Event) : String :=
  match e with
  | .clear => RemoteShell.clearScreen
  | .alert durationMs => RemoteShell.alertLine durationMs ++ "\n"
  | .close => ""
  | e => "[event] " ++ e.form.render ++ "\n"

/-- What a reply prints: its lines, then its events. -/
def replyText (r : Reply) : String :=
  String.join (r.lines.map (· ++ "\n")) ++ String.join (r.events.map eventText)

/-- What a shell leads to. -/
structure Outcome (τ : Type) where
  overlay : Overlay τ
  output : String
  journal : List Journal.Entry
  /-- The failure that has ended the shell. -/
  escaped : Option Fault

/-- What one line leads to: the overlay and the journal after it, what is printed, and whether the
session ends. After a failure nothing is printed. -/
def step (c : Console) (now : τ) (o : Overlay τ) (line : String) : Outcome τ × Bool :=
  let r := o.submit c now line
  let ends := Event.endsSession r.reply.events
  match r.escaped with
  | some f => (⟨r.overlay, "", r.journal, some f⟩, true)
  | none =>
    (⟨if ends then r.overlay.close c else r.overlay.opened, replyText r.reply, r.journal, none⟩,
      ends)

/-- The shell over lines. -/
def loop (c : Console) (now : τ) (o : Overlay τ) : List String → Outcome τ
  | [] => ⟨o.close c, o.prompt c ++ " \n", [], none⟩
  | line :: rest =>
    let prompt := o.prompt c ++ " "
    match step c now o line with
    | (r, true) => { r with output := prompt ++ r.output }
    | (r, false) =>
      let out := loop c now r.overlay rest
      { out with output := prompt ++ r.output ++ out.output, journal := r.journal ++ out.journal }

/-- What is printed at the start. -/
def greeting (o : Overlay τ) : String := "\n".intercalate o.lines ++ "\n"

/-- A shell from its greeting to its end. -/
def run (c : Console) (now : τ) (o : Overlay τ) (lines : List String) : Outcome τ :=
  let o := o.opened
  let out := loop c now o lines
  { out with output := greeting o ++ out.output }

/-- The lines of an input, each of which ends at a line feed; the last one may lack it. -/
def inputLines (input : String) : List String :=
  let parts := Text.splitOn '\n' input
  if parts.getLast? = some "" then parts.dropLast else parts

end MissionConsole.LocalShell
