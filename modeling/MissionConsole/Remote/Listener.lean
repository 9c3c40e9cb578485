import MissionConsole.Audit.Journal
import MissionConsole.Fault
import MissionConsole.Remote.Gate

/-!
# The listener

The listener binds an address, says so, and hands every visitor who arrives to a handler of its own
until it is told to stop. An arrival that fails is reported and changes nothing else.

## Main definitions

* `Listener` — the address and the credentials
* `Listener.Arrival` — who arrives
* `Listener.Act` — what is done with the network
* `Listener.listen` — a listener from binding to stopping
-/

namespace MissionConsole

/-- The address to listen at, and the credentials that visitors are held to. -/
structure Listener where
  host : String
  port : Int
  credentials : Credentials
  /-- The name of the profile that visitors meet. -/
  profile : String
  logDir : String
  deriving Inhabited

namespace Listener

/-- Who arrives: a visitor with an address, or a failure. -/
inductive Arrival where
  | visitor (address : Json)
  | failure (message : String)
  deriving Inhabited

/-- What is done with the network. -/
inductive Act where
  | bind (host : String) (port : Int)
  | listen (backlog : Nat)
  | handle (address : Json) (credentials : Credentials)
  | close
  deriving Inhabited

/-- What listening leads to. -/
structure Outcome where
  output : String
  acts : List Act
  journal : List Journal.Entry
  /-- The exit code, if the program ends. -/
  exit : Option Int
  escaped : Option Fault
  deriving Inhabited

/-- How many visitors may wait. -/
def backlog : Nat := 100

/-- What is said when listening begins. -/
def announcement (l : Listener) : String :=
  "[*] SSH terminal listening on " ++ l.host ++ ":" ++ toString l.port ++ "  [" ++
    l.credentials.mode ++ "]\n[*] Logs → " ++ l.logDir ++ "/\n[*] Press Ctrl+C to stop.\n\n"

/-- What is said when a visitor's arrival has failed. -/
def arrivalText : Arrival → String
  | .visitor _ => ""
  | .failure message => "[!] Accept error: " ++ message ++ "\n"

/-- What is done for an arrival. -/
def arrivalActs (l : Listener) : Arrival → List Act
  | .visitor address => [.handle address l.credentials]
  | .failure _ => []

/-- A listener from binding to stopping, with those who arrive in between. An address that may not
be bound ends the program. -/
def listen (l : Listener) (bindFault : Option Fault) (arrivals : List Arrival) : Outcome :=
  match bindFault with
  | some f =>
    let acts := [.bind l.host l.port]
    if f.kind = .notPermitted then
      ⟨"[!] Cannot bind to port " ++ toString l.port ++ ". Try a port above 1024.\n", acts, [],
        some 1, none⟩
    else ⟨"", acts, [], none, some f⟩
  | none =>
    { output :=
        l.announcement ++ String.join (arrivals.map arrivalText) ++ "\n[*] Shutting down.\n"
      acts := .bind l.host l.port :: .listen backlog :: arrivals.flatMap l.arrivalActs ++ [.close]
      journal := [.listening l.host l.port l.credentials.mode l.profile, .stopped]
      exit := none
      escaped := none }

end Listener

end MissionConsole
