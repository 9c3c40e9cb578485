import MissionConsole.Retention

/-!
# Sessions

A session is what the console remembers of one visitor: the working directory, how far the login
has come, failed attempts, the riddle and the lines entered. Closing a console puts all of it back;
only the identity and the origin stay.

## Main definitions

* `AuthState` — guest, asked for the password, or root
* `Session` — the state of a visit
* `Session.fresh` — the state at the start
* `Session.record` — a line entered into the history
* `Session.reset` — the state put back
-/

namespace MissionConsole

/-- How far a login has come. -/
inductive AuthState where
  | guest
  | awaitingPassword
  | root
  deriving DecidableEq, Inhabited

/-- The name of the state in answers. -/
def AuthState.name : AuthState → String
  | .guest => "guest"
  | .awaitingPassword => "awaitingPassword"
  | .root => "root"

/-- What the console remembers of one visitor. -/
structure Session where
  cwd : String
  auth : AuthState
  failedAttempts : Int
  /-- One while a riddle waits for its answer, zero otherwise. -/
  puzzleStage : Int
  history : List String
  id : String
  origin : String
  deriving DecidableEq, Inhabited

namespace Session

/-- The stage without a riddle. -/
def puzzleInactive : Int := 0

/-- The stage in which a riddle waits for its answer. -/
def puzzlePending : Int := 1

/-- The state at the start of a visit. -/
def fresh (id origin : String) : Session where
  cwd := "/"
  auth := .guest
  failedAttempts := 0
  puzzleStage := puzzleInactive
  history := []
  id
  origin

/-- Whether the visitor is root. -/
def isRoot (s : Session) : Bool := s.auth == .root

/-- Whether the next line is taken as a password. -/
def awaitingPassword (s : Session) : Bool := s.auth == .awaitingPassword

/-- Whether a riddle waits for its answer. -/
def riddlePending (s : Session) : Bool := s.puzzleStage == puzzlePending

/-- The name of the visitor: root or guest. -/
def username (s : Session) : String := if s.isRoot then "root" else "guest"

/-- Enters a line into the history, which keeps the newest `limit` lines. -/
def record (s : Session) (line : String) (limit : Int) : Session :=
  { s with history := Retention.keep limit (s.history ++ [line]) }

/-- Puts the state back; identity and origin stay. -/
def reset (s : Session) : Session := fresh s.id s.origin

@[simp] theorem reset_id (s : Session) : s.reset.id = s.id := rfl

@[simp] theorem reset_origin (s : Session) : s.reset.origin = s.origin := rfl

end Session

end MissionConsole
