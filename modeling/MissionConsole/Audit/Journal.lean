import MissionConsole.Audit.Record
import MissionConsole.Event.Basic
import MissionConsole.Json.Printer
import MissionConsole.Text.Quoted

/-!
# The journal

What the console does leaves entries in a journal: audit records, and remarks of the system itself.
Each entry is one line of a log; records also go to the live queue.

## Main definitions

* `Journal.Entry` — a record or a remark
* `Journal.LogLine`, `Journal.Entry.logLine` — the line that an entry leaves in a log
* `Journal.records` — the records among entries
-/

namespace MissionConsole.Journal

/-- A record or a remark of the system. -/
inductive Entry where
  | record (r : Record)
  /-- A handler failed on a line. -/
  | commandFailed (command line : String)
  /-- A callback failed on an event. -/
  | callbackFailed (kind : Event.Kind)
  /-- A host key was made. -/
  | keyGenerated (path : String)
  /-- The listener was started. -/
  | listening (host : String) (port : Int) (mode profile : String)
  /-- The listener was stopped. -/
  | stopped
  deriving Inhabited

/-- How urgent a line is. -/
inductive Level where
  | info
  | error
  deriving DecidableEq, Inhabited

/-- The name of a level. -/
def Level.name : Level → String
  | .info => "INFO"
  | .error => "ERROR"

/-- A line of a log. -/
structure LogLine where
  channel : Channel
  level : Level
  message : String
  deriving DecidableEq, Inhabited

namespace Entry

/-- The message of an entry. Texts that come from a visitor are quoted or escaped. -/
def message (stamp : String) : Entry → String
  | .record r => (r.form stamp).render
  | .commandFailed command line =>
    "command " ++ Text.quoted command ++ " failed on " ++ Text.quoted line
  | .callbackFailed kind => "event handler failed for " ++ kind.name
  | .keyGenerated path =>
    (Json.obj [("event", .str "host_key_generated"), ("path", .str path)]).render
  | .listening host port mode profile =>
    (Json.obj [("event", .str "ssh_start"), ("host", .str host), ("port", .int port),
      ("mode", .str mode), ("profile", .str profile), ("timestamp", .str stamp)]).render
  | .stopped => (Json.obj [("event", .str "ssh_stop"), ("timestamp", .str stamp)]).render

/-- The line that an entry leaves in a log. -/
def logLine (stamp : String) (e : Entry) : LogLine where
  channel := match e with
    | .record r => r.channel
    | _ => .system
  level := match e with
    | .commandFailed .. => .error
    | .callbackFailed _ => .error
    | _ => .info
  message := e.message stamp

/-- The record of an entry. -/
def record? : Entry → Option Record
  | .record r => some r
  | _ => none

end Entry

/-- The records among entries, in order. -/
def records (entries : List Entry) : List Record := entries.filterMap Entry.record?

/-- The lines that entries leave in the logs, in order. -/
def logLines (stamp : String) (entries : List Entry) : List LogLine :=
  entries.map (Entry.logLine stamp)

@[simp] theorem records_append (a b : List Entry) : records (a ++ b) = records a ++ records b := by
  simp [records]

end MissionConsole.Journal
