import MissionConsole.Keyed
import MissionConsole.Overlay

/-!
# The table of web sessions

Web visitors share one table of overlays, and a second one says when each session was last used.
Both are kept by the id of the session. Every request on a session is noted with its time. Before a
session is added, those that were idle for too long are dropped, and then the least recently used
ones until there is room. A session also leaves the tables when a reply ends it or when its visitor
deletes it. Whatever the way, its overlay is closed and its end is recorded.

## Main definitions

* `WebHost` — what the table is bound to
* `SessionTable` — the sessions, in the order in which they were added, and when they were last used
* `SessionTable.expire`, `SessionTable.makeRoom`, `SessionTable.evict` — drop what is too old, too
  much, or both
* `SessionTable.create`, `SessionTable.command`, `SessionTable.get`, `SessionTable.delete` — the
  requests

## Main results

* `SessionTable.oldest?_mem` — the session that has to go is in the table
-/

namespace MissionConsole

/-- What the table is bound to. -/
structure WebHost (τ : Type) where
  profiles : String → Except UnknownProfile Profile
  console : Profile → Console
  /-- The id of the session that is issued after a count of others. -/
  newId : Nat → String
  /-- How long a session may be idle. -/
  ttl : Patience τ
  /-- How many sessions there may be. -/
  capacity : Int

/-- A session in the table. -/
structure SessionTable.Entry (τ : Type) where
  profile : Profile
  overlay : Overlay τ

/-- The sessions and when they were last used, both in the order in which they were added, and how
many were ever issued. -/
structure SessionTable (τ : Type) where
  sessions : Keyed (SessionTable.Entry τ)
  lastUsed : Keyed τ
  issued : Nat

namespace SessionTable

variable {τ : Type} [Timescale τ]

/-- The id that a session itself has. -/
def Entry.id (e : Entry τ) : String := e.overlay.session.id

/-- Why a session leaves the table. -/
inductive Reason where
  | expired
  | evicted
  | exited
  | deleted
  deriving DecidableEq, Inhabited

/-- The name of a reason in records. -/
def Reason.name : Reason → String
  | .expired => "expired"
  | .evicted => "evicted"
  | .exited => "exit"
  | .deleted => "deleted"

/-- A session that has left the table, with its overlay closed. -/
structure Removal (τ : Type) where
  id : String
  overlay : Overlay τ
  reason : Reason

/-- The table without sessions. -/
def empty : SessionTable τ := ⟨[], [], 0⟩

/-- The session of an id. -/
def find? (t : SessionTable τ) (id : String) : Option (Entry τ) := t.sessions.lookup id

/-- The ids in the table. -/
def ids (t : SessionTable τ) : List String := t.sessions.keys

/-- The table with a new session. -/
def add (t : SessionTable τ) (id : String) (e : Entry τ) (now : τ) : SessionTable τ where
  sessions := t.sessions.put id e
  lastUsed := t.lastUsed.put id now
  issued := t.issued + 1

/-- The table with the use of a session noted. -/
def touch (t : SessionTable τ) (id : String) (now : τ) : SessionTable τ :=
  { t with lastUsed := t.lastUsed.put id now }

/-- The table with a session changed. -/
def update (t : SessionTable τ) (id : String) (e : Entry τ) : SessionTable τ :=
  { t with sessions := t.sessions.put id e }

/-- The table without the session of an id. -/
def drop (t : SessionTable τ) (id : String) : SessionTable τ :=
  { t with sessions := t.sessions.erase id, lastUsed := t.lastUsed.erase id }

/-- A session on its way out: its overlay is closed. -/
def remove (h : WebHost τ) (reason : Reason) (id : String) (e : Entry τ) : Removal τ :=
  ⟨id, e.overlay.close (h.console e.profile), reason⟩

/-- The record of a session's end. -/
def Removal.record (r : Removal τ) : Journal.Entry :=
  .record (.lifecycle "CLOSE" r.overlay.session.origin
    [("session_id", .str r.id), ("reason", .str r.reason.name)])

/-! ### Eviction -/

/-- The sessions that have been idle for longer than they may. -/
def idle (ttl : Patience τ) (now : τ) (t : SessionTable τ) : List String :=
  Keyed.keys (t.lastUsed.filter fun e => ttl.exceededBy (now - e.2))

/-- The session that was used least recently; of several ones the first in the table. -/
def oldest? : Keyed τ → Option String
  | [] => none
  | e :: rest =>
    some (rest.foldl (fun best x => if Timescale.before x.2 best.2 then x else best) e).1

/-- Drops sessions one by one. -/
def dropAll (h : WebHost τ) (reason : Reason) (t : SessionTable τ) :
    List String → SessionTable τ × List (Removal τ)
  | [] => (t, [])
  | id :: rest =>
    let gone := (t.find? id).map (remove h reason id)
    let (t, more) := dropAll h reason (t.drop id) rest
    (t, gone.toList ++ more)

/-- Drops the sessions that were idle for too long. -/
def expire (h : WebHost τ) (ttl : Patience τ) (now : τ) (t : SessionTable τ) :
    SessionTable τ × List (Removal τ) :=
  t.dropAll h .expired (t.idle ttl now)

/-- Whether there is room: nothing is there, or less than the limit. -/
def hasRoom (limit : Int) (t : SessionTable τ) : Bool :=
  t.sessions.isEmpty || decide ((t.sessions.length : Int) < limit)

theorem foldl_oldest_mem (first : String × τ) (rest : Keyed τ) :
    rest.foldl (fun best x => if Timescale.before x.2 best.2 then x else best) first ∈
      first :: rest := by
  induction rest generalizing first with
  | nil => exact List.mem_singleton.2 rfl
  | cons x rest ih =>
    rw [List.foldl_cons]
    split
    · exact List.mem_cons_of_mem _ (ih x)
    · cases List.mem_cons.1 (ih first) with
      | inl hfirst =>
        rw [hfirst]
        exact List.mem_cons_self
      | inr hrest => exact List.mem_cons_of_mem _ (List.mem_cons_of_mem _ hrest)

/-- The session that has to go is in the table. -/
theorem oldest?_mem {lastUsed : Keyed τ} {id : String} (h : oldest? lastUsed = some id) :
    id ∈ lastUsed.keys := by
  cases lastUsed with
  | nil => exact absurd h nofun
  | cons e rest =>
    rw [← Option.some.inj h]
    exact Keyed.mem_keys_of_mem (foldl_oldest_mem e rest)

/-- Drops the oldest sessions until there is room. -/
def makeRoom (h : WebHost τ) (limit : Int) (t : SessionTable τ) :
    SessionTable τ × List (Removal τ) :=
  if t.hasRoom limit then (t, [])
  else
    match _holdest : oldest? t.lastUsed with
    | none => (t, [])
    | some id =>
      let gone := (t.find? id).map (remove h .evicted id)
      let (t, more) := makeRoom h limit (t.drop id)
      (t, gone.toList ++ more)
  termination_by t.lastUsed.length
  decreasing_by exact Keyed.length_erase_lt (oldest?_mem ‹_›)

/-- Drops the sessions that were idle for too long, and then the oldest ones until there is room for
one more. -/
def evict (h : WebHost τ) (ttl : Patience τ) (limit : Int) (now : τ) (t : SessionTable τ) :
    SessionTable τ × List (Removal τ) :=
  let (t, expired) := t.expire h ttl now
  let (t, evicted) := t.makeRoom h limit
  (t, expired ++ evicted)

/-! ### Requests -/

/-- What a visitor sees of a session. -/
structure View where
  id : String
  profile : String
  prompt : String
  isOpen : Bool
  alertActive : Bool
  deriving Inhabited

/-- Why a request is refused. -/
inductive Refusal where
  | unknownProfile (e : UnknownProfile)
  | unknownSession
  deriving Inhabited

/-- What a request is answered with. -/
inductive Response where
  | created (view : View) (lines : List String)
  | answered (view : View) (reply : Reply)
  | shown (view : View) (session : Session) (lines : List String)
  | deleted (id : String)
  | refused (why : Refusal)
  /-- The line failed; what it had done stays. -/
  | failed (f : Fault)
  deriving Inhabited

/-- What a request leads to. -/
structure Outcome (τ : Type) where
  table : SessionTable τ
  response : Response
  journal : List Journal.Entry
  removed : List (Removal τ)

/-- A request that is refused changes nothing. -/
def refuse (t : SessionTable τ) (why : Refusal) : Outcome τ := ⟨t, .refused why, [], []⟩

/-- What a visitor sees of a session. -/
def view (h : WebHost τ) (now : τ) (e : Entry τ) : View where
  id := e.id
  profile := e.profile.name
  prompt := e.overlay.prompt (h.console e.profile)
  isOpen := e.overlay.isOpen
  alertActive := e.overlay.alertActive now

/-- Adds a session. -/
def create (h : WebHost τ) (now : τ) (t : SessionTable τ) (profile origin : String) : Outcome τ :=
  match h.profiles profile with
  | .error e => t.refuse (.unknownProfile e)
  | .ok p =>
    let (t, removed) := t.evict h h.ttl h.capacity now
    let id := h.newId t.issued
    let e : Entry τ := ⟨p, (Overlay.new (h.console p) id origin).opened⟩
    { table := t.add id e now
      response := .created (view h now e) e.overlay.lines
      journal := removed.map Removal.record ++
        [.record (.lifecycle "OPEN" origin [("session_id", .str id), ("profile", .str p.name)])]
      removed }

/-- Submits a line on a session. -/
def command (h : WebHost τ) (now : τ) (t : SessionTable τ) (id line : String) : Outcome τ :=
  match t.find? id with
  | none => t.refuse .unknownSession
  | some e =>
    let r := e.overlay.submit (h.console e.profile) now line
    let e := { e with overlay := r.overlay }
    let seen := view h now e
    let t := (t.touch id now).update id e
    match r.escaped with
    | some f => ⟨t, .failed f, r.journal, []⟩
    | none =>
      if Event.endsSession r.reply.events then
        let gone := remove h .exited id e
        ⟨t.drop id, .answered { seen with isOpen := false } r.reply, r.journal ++ [gone.record],
          [gone]⟩
      else ⟨t, .answered seen r.reply, r.journal, []⟩

/-- Shows a session. -/
def get (h : WebHost τ) (now : τ) (t : SessionTable τ) (id : String) : Outcome τ :=
  match t.find? id with
  | none => t.refuse .unknownSession
  | some e =>
    ⟨t.touch id now, .shown (view h now e) e.overlay.session e.overlay.lines, [], []⟩

/-- Deletes a session. -/
def delete (h : WebHost τ) (t : SessionTable τ) (id : String) : Outcome τ :=
  match t.find? id with
  | none => (t.drop id).refuse .unknownSession
  | some e =>
    let gone := remove h .deleted id e
    ⟨t.drop id, .deleted id, [gone.record], [gone]⟩

end SessionTable

end MissionConsole
