import MissionConsole.Audit.Journal

/-!
# The gate of the remote host

Before a remote visitor reaches the console, the gate checks a user name and a password. Without
configured credentials it lets everyone in; so it does when only one of the two is configured.
Every attempt leaves a record.

## Main definitions

* `Credentials` — the configured user name and password
* `Credentials.verdict` — the verdict on an attempt
* `Gate` — a visitor at the gate
* `Gate.checkPassword` — an attempt at the gate
* `Credentials.mode` — how the listener announces itself
-/

namespace MissionConsole

/-- The configured user name and password. -/
structure Credentials where
  user : String
  password : String
  deriving DecidableEq, Inhabited

/-- The verdict on an attempt. -/
inductive Verdict where
  | success
  | failed
  /-- Nothing is checked. -/
  | acceptAll
  deriving DecidableEq, Inhabited

namespace Verdict

/-- The name of a verdict in records. -/
def name : Verdict → String
  | .success => "SUCCESS"
  | .failed => "FAILED"
  | .acceptAll => "ACCEPT_ALL"

/-- Whether the visitor is let in. -/
def letsIn : Verdict → Bool
  | .failed => false
  | _ => true

end Verdict

namespace Credentials

/-- Whether attempts are checked: both values are configured. -/
def enforced (c : Credentials) : Bool := c.user != "" && c.password != ""

/-- The verdict on an attempt. -/
def verdict (c : Credentials) (user password : String) : Verdict :=
  if c.enforced then if user = c.user ∧ password = c.password then .success else .failed
  else .acceptAll

/-- How the listener announces itself, which depends on the user name alone. -/
def mode (c : Credentials) : String := if c.user = "" then "open" else "credential-enforced"

end Credentials

/-- A visitor at the gate. -/
structure Gate where
  clientIp : String
  credentials : Credentials
  /-- The user name of the last attempt. -/
  username : String
  /-- Whether a shell was asked for. -/
  shellRequested : Bool
  deriving Inhabited

namespace Gate

/-- A visitor who has not tried anything yet. -/
def new (clientIp : String) (credentials : Credentials) : Gate := ⟨clientIp, credentials, "", false⟩

/-- An attempt at the gate: the verdict, the visitor after it, and its record. -/
def checkPassword (g : Gate) (user password : String) : Verdict × Gate × List Journal.Entry :=
  let v := g.credentials.verdict user password
  (v, { g with username := user }, [.record (.transport g.clientIp user v.name)])

/-- Only channels for sessions are opened. -/
def opensChannel (kind : String) : Bool := kind == "session"

/-- The one way to log in. -/
def allowedMethods : String := "password"

/-- Asks for a shell. -/
def requestShell (g : Gate) : Gate := { g with shellRequested := true }

end Gate

end MissionConsole
