import MissionConsole.Text.Blank
import MissionConsole.Text.Split
import MissionConsole.Decimal.Numeral

/-!
# Settings

Every setting has a default, which a variable of the environment of the same name replaces. Whole
numbers are read from text, and the first one that is malformed, in the order of the settings,
stops the program.

## Main definitions

* `Settings` — the values that the program runs with
* `Settings.read` — the settings under an environment
* `Settings.standard` — the settings under the empty environment
* `Settings.joinPath` — a file name inside a directory
-/

namespace MissionConsole

/-- The values that the program runs with. -/
structure Settings where
  /-- The line that the remote host announces itself with. -/
  remoteBanner : String
  hostKeyPath : String
  bindHost : String
  bindPort : Int
  /-- The credentials of the remote host; both empty to let everyone in. -/
  authUser : String
  authPass : String
  dashboardHost : String
  dashboardPort : Int
  /-- Seconds after which an idle web session is dropped. -/
  webSessionTtl : Int
  webMaxSessions : Int
  logDir : String
  logMaxBytes : Int
  logBackupCount : Int
  rootPassword : String
  alertDurationMs : Int
  lockoutThreshold : Int
  historySize : Int
  scrollbackSize : Int
  defaultProfile : String
  companies : List String
  hostname : String
  deriving Inhabited

namespace Settings

/-- What `uname -a` answers; it is not a setting. -/
def systemName : String := "Linux mc 6.2.0-mc #1 SMP x86_64 GNU/Linux"

/-- A file name inside a directory. A directory that is empty or ends in a slash adds none. -/
def joinPath (dir name : String) : String :=
  if dir = "" ∨ dir.toList.getLast? = some '/' then dir ++ name else dir ++ "/" ++ name

/-- The names in a list separated by commas, trimmed, without the blank ones. -/
def companyNames (list : String) : List String :=
  ((Text.splitOn ',' list).map Text.trim).filter (· != "")

/-- The names of the variables that replace defaults. -/
def variableNames : List String :=
  ["SSH_BANNER", "HOST_KEY_PATH", "BIND_HOST", "BIND_PORT", "AUTH_USER", "AUTH_PASS",
    "DASHBOARD_HOST", "DASHBOARD_PORT", "WEB_SESSION_TTL", "WEB_MAX_SESSIONS", "LOG_DIR",
    "LOG_MAX_BYTES", "LOG_BACKUP_COUNT", "ROOT_PASSWORD", "ALERT_DURATION_MS", "LOCKOUT_THRESHOLD",
    "HISTORY_SIZE", "SCROLLBACK_SIZE", "DEFAULT_PROFILE", "COMPANIES", "TERMINAL_HOSTNAME"]

/-- The settings under an environment, which gives the variables that are set. -/
def read (env : String → Option String) : Except Numeral.Malformed Settings := do
  let text (name default : String) : String := (env name).getD default
  let whole (name : String) (default : Int) : Except Numeral.Malformed Int :=
    match env name with
    | some s => Numeral.int s
    | none => .ok default
  let bindPort ← whole "BIND_PORT" 2222
  let dashboardPort ← whole "DASHBOARD_PORT" 5000
  let webSessionTtl ← whole "WEB_SESSION_TTL" 1800
  let webMaxSessions ← whole "WEB_MAX_SESSIONS" 200
  let logMaxBytes ← whole "LOG_MAX_BYTES" 5000000
  let logBackupCount ← whole "LOG_BACKUP_COUNT" 5
  let alertDurationMs ← whole "ALERT_DURATION_MS" 6000
  let lockoutThreshold ← whole "LOCKOUT_THRESHOLD" 3
  let historySize ← whole "HISTORY_SIZE" 200
  let scrollbackSize ← whole "SCROLLBACK_SIZE" 500
  return {
    remoteBanner := text "SSH_BANNER" "SSH-2.0-OpenSSH_8.9p1 mc-term"
    hostKeyPath := text "HOST_KEY_PATH" "server.key"
    bindHost := text "BIND_HOST" "0.0.0.0"
    bindPort
    authUser := text "AUTH_USER" ""
    authPass := text "AUTH_PASS" ""
    dashboardHost := text "DASHBOARD_HOST" "0.0.0.0"
    dashboardPort
    webSessionTtl
    webMaxSessions
    logDir := text "LOG_DIR" "logs"
    logMaxBytes
    logBackupCount
    rootPassword := text "ROOT_PASSWORD" "legion"
    alertDurationMs
    lockoutThreshold
    historySize
    scrollbackSize
    defaultProfile := text "DEFAULT_PROFILE" "map"
    companies := companyNames (text "COMPANIES" "")
    hostname := text "TERMINAL_HOSTNAME" "mc" }

/-- The settings under the empty environment, which is never malformed. -/
def standard : Settings :=
  match read fun _ => none with
  | .ok s => s
  | .error _ => default

/-- Where the records of commands are logged. -/
def commandLog (s : Settings) : String := joinPath s.logDir "commands.log"

/-- Where login attempts are logged. -/
def authLog (s : Settings) : String := joinPath s.logDir "auth.log"

/-- Where the system's own messages are logged. -/
def systemLog (s : Settings) : String := joinPath s.logDir "system.log"

end Settings

end MissionConsole
