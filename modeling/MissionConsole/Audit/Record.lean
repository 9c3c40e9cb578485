import MissionConsole.Json.Basic
import MissionConsole.Keyed
import MissionConsole.Text.Lowercase

/-!
# Audit records

Every line that is entered, every password that is tried, every remote login and every stage in the
life of a connection or session leaves a record. A password itself is never part of one.

## Main definitions

* `Record` — the four kinds of record
* `Record.form` — a record as an object, stamped with a time
-/

namespace MissionConsole

/-- What is recorded. -/
inductive Record where
  /-- A line that was entered, with the count of lines and the kinds of events it was answered
  with. -/
  | command (sessionId origin username line : String) (outputLines : Int)
      (events : List String)
  /-- A password that was tried. -/
  | login (sessionId origin : String) (success : Bool) (attempts : Int) (lockout : Bool)
  /-- A remote login. -/
  | transport (sourceIp username result : String)
  /-- A stage in the life of a connection or session. -/
  | lifecycle (stage origin : String) (details : List (String × Json))
  deriving Inhabited

/-- Where a record is logged, besides the live queue. -/
inductive Channel where
  | commands
  | auth
  | system
  deriving DecidableEq, Inhabited

/-- The name of a channel. -/
def Channel.name : Channel → String
  | .commands => "commands"
  | .auth => "auth"
  | .system => "system"

namespace Record

/-- The channel of a record. -/
def channel : Record → Channel
  | .command .. => .commands
  | .login .. => .auth
  | .transport .. => .auth
  | .lifecycle .. => .system

/-- The name of the kind of a record. -/
def eventType : Record → String
  | .command .. => "command"
  | .login .. => "auth"
  | .transport .. => "ssh_auth_attempt"
  | .lifecycle stage .. => "session_" ++ Text.lower stage

/-- What a record tells besides its time and kind. -/
def details : Record → List (String × Json)
  | .command sessionId origin username line outputLines events =>
    [("session_id", .str sessionId), ("origin", .str origin), ("username", .str username),
      ("command", .str line), ("output_lines", .int outputLines), ("events", .strs events)]
  | .login sessionId origin success attempts lockout =>
    [("session_id", .str sessionId), ("origin", .str origin), ("success", .bool success),
      ("attempts", .int attempts), ("lockout", .bool lockout)]
  | .transport sourceIp username result =>
    [("source_ip", .str sourceIp), ("username", .str username), ("result", .str result)]
  | .lifecycle _ origin details => ("origin", .str origin) :: details

/-- The fields of a record: the time, the kind, and what it tells. -/
def fields (stamp : String) (r : Record) : List (String × Json) :=
  r.details.foldl (fun fs d => Keyed.put fs d.1 d.2)
    [("timestamp", .str stamp), ("event_type", .str r.eventType)]

/-- A record as an object. -/
def form (stamp : String) (r : Record) : Json := .obj (r.fields stamp)

end Record

end MissionConsole
