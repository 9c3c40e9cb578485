import MissionConsole.Overlay
import MissionConsole.Fault
import MissionConsole.Remote.LineEditor

/-!
# The remote shell

A remote visitor's bytes drive an overlay: the editor collects lines, each line is submitted, and
what it is answered with is sent back. Passwords are neither shown nor recalled. The shell ends when
the visitor leaves, when there are no more bytes, or when a reply ends the session; it then says so
and closes the overlay.

## Main definitions

* `RemoteInput` — the bytes of a visitor and how they end
* `RemoteShell` — the state between two bytes
* `RemoteShell.submit` — a line that the editor has completed
* `RemoteShell.run` — the shell over all bytes
* `RemoteShell.serve` — a shell from its greeting to its end
-/

namespace MissionConsole

/-- The bytes of a visitor, and the failure that follows them; none means that the visitor hangs
up. -/
structure RemoteInput where
  bytes : List UInt8
  fault : Option Fault
  deriving Inhabited

/-- The state between two bytes. -/
structure RemoteShell (τ : Type) where
  overlay : Overlay τ
  editor : LineEditor
  sent : String
  journal : List Journal.Entry

/-- What serving a visitor leads to. -/
structure Served (τ : Type) where
  overlay : Overlay τ
  sent : String
  journal : List Journal.Entry
  /-- The bytes that were not read. -/
  rest : List UInt8
  /-- A failure that is no leaving. -/
  escaped : Option Fault

namespace RemoteShell

variable {τ : Type} [Timescale τ]

/-- What clears the visitor's screen. -/
def clearScreen : String := "\x1b[H\x1b[2J"

/-- A text as it is sent: a line feed is preceded by a carriage return. -/
def wire (text : String) : String := Text.replaceChar '\n' "\r\n" text

/-- The line that announces an alert. -/
def alertLine (durationMs : Int) : String :=
  "*** INTRUSION ALERT *** lockout " ++ toString (durationMs.fdiv 1000) ++ "s"

/-- What an event sends. -/
def eventText : Event → String
  | .clear => clearScreen
  | .alert durationMs => wire (alertLine durationMs ++ "\n")
  | _ => ""

/-- What a reply sends: its lines, then its events. -/
def replyText (r : Reply) : String :=
  String.join (r.lines.map fun line => wire (line ++ "\n")) ++
    String.join (r.events.map eventText)

/-- Sends the prompt and starts a line. While a password is asked for, nothing is shown and nothing
can be recalled. -/
def prompted (c : Console) (afterReturn : Bool) (s : RemoteShell τ) : RemoteShell τ :=
  let secret := s.overlay.session.awaitingPassword
  { s with
    sent := s.sent ++ wire (s.overlay.prompt c ++ " ")
    editor := .start afterReturn (!secret) (if secret then [] else s.overlay.session.history) }

/-- Opens the overlay and greets the visitor. -/
def greet (c : Console) (o : Overlay τ) : RemoteShell τ :=
  let o := o.opened
  prompted c false
    { overlay := o
      editor := .start false true []
      sent := wire ("\n".intercalate o.lines ++ "\n")
      journal := [] }

/-- What a line leads to. -/
inductive Next where
  | goOn
  | leave
  | fail (f : Fault)

/-- A line that the editor has completed, and what it leads to. Whatever else has hidden the
overlay, it is open again for the next line. After a failure no reply is sent. -/
def submit (c : Console) (now : τ) (s : RemoteShell τ) (line sent : String) (afterReturn : Bool) :
    RemoteShell τ × Next :=
  let r := s.overlay.submit c now line
  let s :=
    { s with
      overlay := r.overlay
      sent := s.sent ++ sent
      journal := s.journal ++ r.journal }
  match r.escaped with
  | some f => (s, .fail f)
  | none =>
    let s := { s with sent := s.sent ++ replyText r.reply }
    if Event.endsSession r.reply.events then (s, .leave)
    else (prompted c afterReturn { s with overlay := s.overlay.opened }, .goOn)

/-- Says goodbye and closes the overlay. -/
def finish (c : Console) (s : RemoteShell τ) (rest : List UInt8) : Served τ :=
  ⟨s.overlay.close c, s.sent ++ "logout\r\n", s.journal, rest, none⟩

/-- Gives up after a failure, without taking leave. -/
def abandon (s : RemoteShell τ) (f : Fault) (rest : List UInt8) : Served τ :=
  ⟨s.overlay, s.sent, s.journal, rest, some f⟩

/-- There are no more bytes: a visitor who has left is taken leave of, any other failure goes on. -/
def exhausted (c : Console) (fault : Option Fault) (s : RemoteShell τ) : Served τ :=
  match fault with
  | none => s.finish c []
  | some f => if f.isHangUp then s.finish c [] else s.abandon f []

/-- The shell over all bytes. -/
def run (c : Console) (now : τ) (fault : Option Fault) (s : RemoteShell τ) :
    List UInt8 → Served τ
  | [] => s.exhausted c fault
  | b :: rest =>
    match s.editor.feed b with
    | .more e sent => run c now fault { s with editor := e, sent := s.sent ++ sent } rest
    | .leave => s.finish c rest
    | .line text sent afterReturn =>
      match s.submit c now text sent afterReturn with
      | (s, .goOn) => run c now fault s rest
      | (s, .leave) => s.finish c rest
      | (s, .fail f) => s.abandon f rest

/-- A shell from its greeting to its end. -/
def serve (c : Console) (now : τ) (o : Overlay τ) (input : RemoteInput) : Served τ :=
  (greet c o).run c now input.fault input.bytes

end RemoteShell

end MissionConsole
