import MissionConsole.Audit.Queue
import MissionConsole.Json.Basic

/-!
# The live feed

A worker takes records from the live queue one at a time and copies them to every registered client.
A client whose own queue is full is no longer registered, and neither is one that has left; what its
queue holds can still be taken.

## Main definitions

* `Client` — a watcher with a queue
* `Feed` — all clients in the order of their registration
* `Feed.register`, `Feed.unregister` — a client comes or goes
* `Feed.fanOut`, `Feed.fanOutAll` — records copied to the registered clients
* `Feed.work` — one look of the worker into the live queue
* `Worker.ensure` — the worker is started when it is first asked for
-/

namespace MissionConsole

/-- A watcher with a queue. -/
structure Client where
  queue : Queue Json
  registered : Bool
  deriving Inhabited

/-- All clients in the order of their registration. -/
structure Feed where
  clients : List Client
  deriving Inhabited

namespace Client

/-- How many records a client's queue holds at most. -/
def capacity : Int := 500

/-- A client that is registered and waits for its first record. -/
def new (capacity : Int) : Client := ⟨Queue.empty capacity, true⟩

/-- A record on its way to a client. -/
def receive (record : Json) (c : Client) : Client :=
  if c.registered then
    match c.queue.offer? record with
    | some q => { c with queue := q }
    | none => { c with registered := false }
  else c

/-- A client that is no longer registered. -/
def leave (c : Client) : Client := { c with registered := false }

end Client

namespace Feed

/-- The feed without clients. -/
def empty : Feed := ⟨[]⟩

/-- Registers a client after all others. -/
def register (f : Feed) (c : Client) : Feed := ⟨f.clients ++ [c]⟩

/-- The client at a place is no longer registered. -/
def unregister (f : Feed) (place : Nat) : Feed := ⟨f.clients.modify place Client.leave⟩

/-- Copies a record to the registered clients. -/
def fanOut (f : Feed) (record : Json) : Feed := ⟨f.clients.map (Client.receive record)⟩

/-- Copies records one after the other. -/
def fanOutAll (f : Feed) (records : List Json) : Feed := records.foldl fanOut f

/-- One look of the worker into the live queue. When nothing is there, nothing happens. -/
def work (f : Feed) : Option Json → Feed
  | none => f
  | some record => f.fanOut record

/-- The clients that are registered. -/
def registered (f : Feed) : List Client := f.clients.filter (·.registered)

end Feed

/-- The worker that copies records; it runs or was never asked for. -/
structure Worker where
  running : Bool
  deriving DecidableEq, Inhabited

namespace Worker

/-- The worker that nobody has asked for. -/
def idle : Worker := ⟨false⟩

/-- Asks for the worker: whether it is started now, and the worker after that. -/
def ensure (w : Worker) : Bool × Worker := (!w.running, ⟨true⟩)

end Worker

end MissionConsole
