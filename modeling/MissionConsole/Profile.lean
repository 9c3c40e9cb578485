import MissionConsole.Settings
import MissionConsole.Text.Lowercase

/-!
# Profiles and riddles

A profile is the flavour of a console: its name, banner, password and riddle. A riddle is solved by
an answer whose lower-case form holds every keyword.

## Main definitions

* `Riddle`, `Riddle.solvedBy` — a riddle and the answers that solve it
* `Profile` — the flavour of a console
* `Profile.map`, `Profile.briefing` — the two profiles that exist
* `Profile.named` — the profile of a name
-/

namespace MissionConsole

/-- A riddle: the command that asks it, its keywords, and what is said and unlocked. -/
structure Riddle where
  command : String
  prompt : String
  keywords : List String
  hint : String
  success : String
  unlockId : String
  deriving Inhabited

/-- An answer solves a riddle when its lower-case form holds every keyword. -/
def Riddle.solvedBy (r : Riddle) (answer : String) : Bool :=
  r.keywords.all (Text.contains (Text.lower answer) ·)

/-- The flavour of a console. -/
structure Profile where
  name : String
  banner : String
  riddle : Riddle
  /-- What is unlocked by logging in. -/
  adminUnlockId : String
  password : String
  hostname : String
  alertDurationMs : Int
  /-- The count of wrong passwords that raises an alert. -/
  lockoutThreshold : Int
  deriving Inhabited

/-- A name that no profile has. -/
structure UnknownProfile where
  name : String

/-- The wording of the failure. -/
def UnknownProfile.message (e : UnknownProfile) : String :=
  "unknown terminal profile: " ++ Text.quoted e.name

namespace Profile

/-- The console on the map. -/
def map (s : Settings) : Profile where
  name := "map"
  banner := "MAP-TERM v0.1 — type 'help'"
  adminUnlockId := "map_admin"
  riddle :=
    { command := "probe"
      prompt := "PROBE: Complete the phrase to calibrate sensors. \"_____ the _____\""
      keywords := ["watch", "skies"]
      hint := "Hint: a classic UFO trope."
      success := "Probe complete. Anomalies acknowledged."
      unlockId := "hidden_commands" }
  password := s.rootPassword
  hostname := s.hostname
  alertDurationMs := s.alertDurationMs
  lockoutThreshold := s.lockoutThreshold

/-- The console of the briefing room. -/
def briefing (s : Settings) : Profile where
  name := "briefing"
  banner := "MC-TERM v0.1 — type 'help'"
  adminUnlockId := "hidden_commands"
  riddle :=
    { command := "puzzle"
      prompt := "RIDDLE: The signal hides in green rain. What must you do?"
      keywords := ["follow", "rabbit"]
      hint := "Hint: what did Morpheus say to Neo?"
      success := "RIDDLE SOLVED. The matrix acknowledges your curiosity."
      unlockId := "code_breaker" }
  password := s.rootPassword
  hostname := s.hostname
  alertDurationMs := s.alertDurationMs
  lockoutThreshold := s.lockoutThreshold

/-- All profiles. -/
def all (s : Settings) : List Profile := [map s, briefing s]

/-- The profile whose name is the lower-case form of the text asked for. -/
def named (s : Settings) (name : String) : Except UnknownProfile Profile :=
  match (all s).find? (·.name == Text.lower name) with
  | some p => .ok p
  | none => .error ⟨name⟩

end Profile

end MissionConsole
