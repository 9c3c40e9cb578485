import MissionConsole.Json.Printer
import MissionConsole.Web.Feed

/-!
# The event stream

A client's stream starts with a frame of its own. After that the stream polls the client's queue:
records of the session that the client asks for are written as frames, others are passed over, and
a poll that finds nothing waits a tenth of a second. A long wait is broken by a heartbeat.

A stream stands still when it has written a frame, when it asks whether its client has gone, and
when it waits. It ends when it is told that the client has gone, or after as many records as were
asked for, and it can be closed or cancelled wherever it stands. A stream that ends unregisters its
client, unless it is closed at its first frame: what unregisters the client comes behind that.

## Main definitions

* `EventStream.frame` — a frame
* `EventStream` — what the client asks for, and what was done
* `EventStream.poll` — one look into the queue
* `EventStream.Progress` — what a stream has written and what it has left on the queue
* `EventStream.Halt`, `EventStream.Process` — where a stream stands
* `EventStream.Process.Action`, `EventStream.Process.step` — what may happen to a stream
* `EventStream.serve` — the stream of a client of the feed over a schedule of arrivals
-/

namespace MissionConsole

/-- What a client asks for, and what its stream has done so far. -/
structure EventStream where
  /-- The session whose records are wanted; none and the empty text stand for all. -/
  session : Option String
  /-- How many records are wanted; zero for no end. -/
  limit : Int
  sent : Nat
  /-- The polls since the last record or heartbeat that found nothing. -/
  idle : Nat
  deriving Inhabited

namespace EventStream

/-- How many polls may find nothing before a heartbeat. -/
def heartbeatTicks : Nat := 150

/-- A frame: one line of data and an empty line. -/
def frame (v : Json) : String := "data: " ++ v.render ++ "\n\n"

/-- A stream at its start. -/
def start (session : Option String) (limit : Int) : EventStream := ⟨session, limit, 0, 0⟩

/-- The first frame. -/
def connected (s : EventStream) : String :=
  frame (.obj [("event_type", .str "connected"),
    ("session_id", match s.session with
      | some id => .str id
      | none => .null)])

/-- The frame that breaks a long wait. -/
def heartbeat : String := frame (.obj [("event_type", .str "heartbeat")])

/-- Whether a record is wanted. -/
def wants (s : EventStream) (record : Json) : Bool :=
  match s.session with
  | none => true
  | some id =>
    id == "" ||
      match record.field? "session_id" with
      | some (.str other) => other == id
      | _ => false

/-- One look into the queue: the stream after it, the frame that is written, and whether the stream
ends. -/
def poll (s : EventStream) : Option Json → EventStream × Option String × Bool
  | none =>
    if heartbeatTicks ≤ s.idle + 1 then ({ s with idle := 0 }, some heartbeat, false)
    else ({ s with idle := s.idle + 1 }, none, false)
  | some record =>
    let s := { s with idle := 0 }
    if s.wants record then
      let s := { s with sent := s.sent + 1 }
      (s, some (frame record), s.limit != 0 && decide (s.limit ≤ s.sent))
    else (s, none, false)

/-! ### Where a stream stands -/

/-- What a stream has written, and what it has left on the queue. -/
structure Progress where
  stream : EventStream
  queue : Queue Json
  frames : List String
  /-- How often the stream has waited. -/
  waits : Nat
  deriving Inhabited

/-- Where a stream stands still. -/
inductive Halt where
  /-- It has written its first frame. -/
  | connecting
  /-- It asks whether its client has gone. -/
  | asking
  /-- It has found nothing and waits. -/
  | waiting
  /-- It has written a heartbeat. -/
  | heartbeat
  /-- It has written a record, which may be the last that is wanted. -/
  | forwarding (last : Bool)
  deriving DecidableEq, Inhabited

/-- A stream at work for a client. -/
structure Process where
  progress : Progress
  /-- Whether the client is registered. -/
  registered : Bool
  /-- Where the stream stands; nowhere once it is over. -/
  halt : Option Halt
  deriving Inhabited

namespace Process

/-- The stream of a client at its first frame. -/
def start (s : EventStream) (client : Client) : Process :=
  ⟨⟨s, client.queue, [s.connected], 0⟩, client.registered, some .connecting⟩

/-- The stream unregisters its client and is over. -/
def finish (p : Process) : Process := { p with registered := false, halt := none }

/-- A look into the queue, up to the frame or the wait that it leads to. -/
def look (p : Process) : Process :=
  match p.progress.queue.pop? with
  | some (record, queue) =>
    let (stream, written, last) := p.progress.stream.poll (some record)
    { p with
      progress := { p.progress with stream, queue, frames := p.progress.frames ++ written.toList }
      halt := some (if written.isSome then .forwarding last else .asking) }
  | none =>
    { p with
      progress := { p.progress with waits := p.progress.waits + 1 }
      halt := some .waiting }

/-- The end of a wait, which counts it and may break the silence. -/
def wake (p : Process) : Process :=
  let (stream, written, _) := p.progress.stream.poll none
  { p with
    progress := { p.progress with stream, frames := p.progress.frames ++ written.toList }
    halt := some (if written.isSome then .heartbeat else .asking) }

/-- The stream goes on to where it stands next. If it asks whether its client has gone, this is the
answer. -/
def resume (gone : Bool) (p : Process) : Process :=
  match p.halt with
  | none => p
  | some .asking => if gone then p.finish else p.look
  | some .waiting => p.wake
  | some .connecting | some .heartbeat | some (.forwarding false) =>
    { p with halt := some .asking }
  | some (.forwarding true) => p.finish

/-- The stream is closed or cancelled where it stands. At its first frame nothing unregisters its
client. -/
def cut (p : Process) : Process :=
  match p.halt with
  | none => p
  | some .connecting => { p with halt := none }
  | some _ => p.finish

/-- Records are put on the queue. -/
def put (records : List Json) (p : Process) : Process :=
  { p with progress := { p.progress with
      queue := { p.progress.queue with items := p.progress.queue.items ++ records } } }

/-- What may happen to a stream. -/
inductive Action where
  /-- It goes on; this is the answer if it asks whether its client has gone. -/
  | resume (gone : Bool)
  /-- It is closed or cancelled. -/
  | cut
  /-- Records are put on the queue of its client. -/
  | put (records : List Json)
  /-- Its client is found with a full queue, and is no longer registered. -/
  | drop

/-- A stream after something has happened to it. -/
def step (p : Process) : Action → Process
  | .resume gone => p.resume gone
  | .cut => p.cut
  | .put records => p.put records
  | .drop => { p with registered := false }

/-- A stream after all that has happened to it. -/
def after (p : Process) (actions : List Action) : Process := actions.foldl step p

/-- The feed with the client of a stream at a place. -/
def inFeed (p : Process) (f : Feed) (place : Nat) : Feed :=
  ⟨f.clients.set place ⟨p.progress.queue, p.registered⟩⟩

end Process

/-! ### A stream over a schedule -/

/-- Records that arrive during a wait, given by the number of the wait. -/
abbrev Arrivals := List (Nat × List Json)

/-- The records that arrive during a wait. -/
def arriving (arrivals : Arrivals) (wait : Nat) : List Json :=
  (arrivals.filter (·.1 == wait)).flatMap (·.2)

namespace Process

/-- What happens to a stream that does not ask: it goes on, and records arrive if it waits. -/
def due (arrivals : Arrivals) (p : Process) : List Action :=
  match p.halt with
  | none | some .asking => []
  | some .waiting => [.put (arriving arrivals p.progress.waits), .resume false]
  | some .connecting | some .heartbeat | some (.forwarding _) => [.resume false]

/-- A stream after what is due. -/
def settle (arrivals : Arrivals) (p : Process) : Process := p.after (p.due arrivals)

/-- A stream from one question to the next. At most a wait and the heartbeat after it lie between
two questions. -/
def turn (arrivals : Arrivals) (p : Process) : Process :=
  ((p.step (.resume false)).settle arrivals).settle arrivals

/-- A stream that asks as often as given until it is told that its client has gone. -/
def drive (arrivals : Arrivals) : (polls : Nat) → Process → Process
  | 0, p => p.step (.resume true)
  | polls + 1, p => drive arrivals polls (p.turn arrivals)

end Process

/-- The stream of the client at a place, from its first frame until it has the records that were
asked for or sees that the client has gone: what it has done, and the feed after it. -/
def serve (s : EventStream) (f : Feed) (place : Nat) (arrivals : Arrivals) (polls : Nat) :
    Progress × Feed :=
  let client := f.clients[place]?.getD (.new 0)
  let p := ((Process.start s client).settle arrivals).drive arrivals polls
  (p.progress, p.inFeed f place)

/-! ### The route -/

/-- The headers of a stream's response. -/
def headers : List (String × String) :=
  [("cache-control", "no-cache"), ("x-accel-buffering", "no"), ("connection", "keep-alive"),
    ("content-type", "text/event-stream; charset=utf-8")]

/-- The stream that a request asks for; a negative limit is none. -/
def requested (session : Option String) (limit : Int) : EventStream := start session (max limit 0)

end EventStream

end MissionConsole
