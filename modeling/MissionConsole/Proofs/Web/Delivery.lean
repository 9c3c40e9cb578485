import MissionConsole.Web.Feed
import Mathlib.Data.List.Basic

/-!
# What the clients of the feed get

Records are pushed into the live queue, a worker takes them out one by one and copies each to the
clients that are registered then, clients register and leave, and every client looks into its own
queue when it likes. All of this happens in any order: between two steps of one party there may be
any steps of the others. Only the copying is one step, for registering and leaving wait until it is
done.

A client that is registered has got, or will find in its queue, everything that was copied since it
registered, in order; when it is no longer registered, what it has got and will find is where it was
cut off. What is copied comes from the live queue, which loses records at its front only, and only
when a record is pushed into it while it is full.

## Main definitions

* `Broadcast` — the live queue, the worker's hand, and the clients
* `Broadcast.Action`, `Broadcast.step` — what may happen next
* `Broadcast.fanned`, `Broadcast.taken`, `Broadcast.recorded` — the records that a run copies, that
  a client takes in it, and that are pushed
* `Broadcast.meetsFull` — a record was pushed into the full live queue
* `Client.Kept` — a client has lost nothing, except at the end when it is no longer registered

## Main results

* `Broadcast.kept_step`, `Broadcast.kept_after` — a step, and a run, keeps a client so
* `Broadcast.fanned_append_pending_sublist`, `Broadcast.fanned_append_pending` — what is copied and
  what is still to be copied, against what was pushed
* `Broadcast.feed_delivery` — both, over all runs
-/

namespace MissionConsole

/-! ### Looking into one's queue -/

namespace Client

/-- The record that a look into the queue finds. -/
def front? (c : Client) : Option Json := c.queue.pop?.map (·.1)

/-- A client after a look into its queue. -/
def poll (c : Client) : Client :=
  match c.queue.pop? with
  | some (_, queue) => { c with queue }
  | none => c

@[simp] theorem poll_registered (c : Client) : c.poll.registered = c.registered := by
  rw [poll]
  split <;> rfl

/-- What is found and what stays are what was there. -/
theorem front?_append_poll (c : Client) :
    c.front?.toList ++ c.poll.queue.items = c.queue.items := by
  rw [front?, poll, Queue.pop?]
  cases hitems : c.queue.items with
  | nil => simpa using hitems
  | cons x rest => rfl

end Client

/-- A look of the client at a place into its queue. -/
def Feed.poll (f : Feed) (place : Nat) : Feed := ⟨f.clients.modify place Client.poll⟩

/-! ### Steps and runs -/

/-- The live queue, the record that the worker has taken and not yet copied, and the clients. -/
structure Broadcast where
  live : Queue Json
  hand : Option Json
  feed : Feed

namespace Broadcast

/-- What may happen next. -/
inductive Action where
  /-- A record is pushed into the live queue. -/
  | record (r : Json)
  /-- The worker takes a record, if its hand is empty. -/
  | take
  /-- The worker copies what it has in hand to the registered clients. -/
  | copy
  /-- A client registers with a queue of a capacity. -/
  | join (capacity : Int)
  /-- The client at a place looks into its queue. -/
  | poll (place : Nat)
  /-- The client at a place leaves. -/
  | leave (place : Nat)

/-- Nothing is recorded yet, and nobody watches. -/
def start (capacity : Int) : Broadcast := ⟨Queue.empty capacity, none, Feed.empty⟩

/-- The step of the worker who takes a record. -/
def takeOne (b : Broadcast) : Broadcast :=
  match b.hand, b.live.pop? with
  | none, some (r, live) => { b with live, hand := some r }
  | _, _ => b

/-- What becomes of everything when something happens. -/
def step (b : Broadcast) : Action → Broadcast
  | .record r => { b with live := b.live.push r }
  | .take => b.takeOne
  | .copy => { b with hand := none, feed := b.feed.work b.hand }
  | .join capacity => { b with feed := b.feed.register (.new capacity) }
  | .poll place => { b with feed := b.feed.poll place }
  | .leave place => { b with feed := b.feed.unregister place }

/-- What has become of everything after a run. -/
def after (b : Broadcast) (acts : List Action) : Broadcast := acts.foldl step b

/-- What an observer who sees some records of each step has seen after a run. -/
def seen (observe : Broadcast → Action → List Json) (b : Broadcast) : List Action → List Json
  | [] => []
  | a :: rest => observe b a ++ seen observe (b.step a) rest

/-- The record that a step copies. -/
def fannedBy (b : Broadcast) : Action → List Json
  | .copy => b.hand.toList
  | _ => []

/-- The record that the client at a place takes in a step. -/
def takenBy (place : Nat) (b : Broadcast) : Action → List Json
  | .poll other => if other = place then (b.feed.clients[place]?.bind Client.front?).toList else []
  | _ => []

/-- The record that is pushed in a step. -/
def recordedBy : Action → List Json
  | .record r => [r]
  | _ => []

/-- The records that a run copies to the clients registered at the time. -/
def fanned (b : Broadcast) (acts : List Action) : List Json := seen fannedBy b acts

/-- The records that the client at a place takes in a run. -/
def taken (place : Nat) (b : Broadcast) (acts : List Action) : List Json :=
  seen (takenBy place) b acts

/-- The records that a run pushes into the live queue. -/
def recorded (acts : List Action) : List Json := acts.flatMap recordedBy

/-- Whether a step pushes a record into the live queue while that is full. -/
def crowds (b : Broadcast) : Action → Bool
  | .record _ => b.live.isFull
  | _ => false

/-- Whether a run does so at some point. -/
def meetsFull (b : Broadcast) : List Action → Bool
  | [] => false
  | a :: rest => b.crowds a || (b.step a).meetsFull rest

/-- What is recorded and not yet copied. -/
def pending (b : Broadcast) : List Json := b.hand.toList ++ b.live.items

end Broadcast

/-! ### One client -/

namespace Client

/-- A client has got, or will find in its queue, what was copied since it registered: all of it
while it is registered, and otherwise all of it up to some point. -/
structure Kept (since taken : List Json) (c : Client) : Prop where
  upTo : taken ++ c.queue.items <+: since
  whole : c.registered = true → taken ++ c.queue.items = since

variable {c : Client} {since taken : List Json}

theorem kept_of_eq (h : taken ++ c.queue.items = since) : c.Kept since taken :=
  ⟨h ▸ List.prefix_refl _, fun _ => h⟩

namespace Kept

theorem new (capacity : Int) : (Client.new capacity).Kept [] [] := kept_of_eq rfl

/-- A record that is copied comes last in the queue; a client without room for it is cut off. -/
theorem receive (h : c.Kept since taken) (r : Json) :
    (c.receive r).Kept (since ++ [r]) taken := by
  rw [Client.receive]
  split_ifs with hregistered
  · rw [Queue.offer?]
    split_ifs with hfull
    · exact ⟨h.upTo.trans (List.prefix_append _ _), fun hyes => absurd hyes Bool.false_ne_true⟩
    · refine kept_of_eq ?_
      rw [← h.whole hregistered, List.append_assoc]
  · exact ⟨h.upTo.trans (List.prefix_append _ _), fun hyes => absurd hyes hregistered⟩

/-- What a look into the queue finds moves over to what the client has got. -/
theorem poll (h : c.Kept since taken) : c.poll.Kept since (taken ++ c.front?.toList) := by
  have hsame : taken ++ c.front?.toList ++ c.poll.queue.items = taken ++ c.queue.items := by
    rw [List.append_assoc, front?_append_poll]
  exact ⟨hsame ▸ h.upTo, fun hregistered => hsame ▸ h.whole (c.poll_registered ▸ hregistered)⟩

theorem leave (h : c.Kept since taken) : c.leave.Kept since taken := ⟨h.upTo, nofun⟩

end Kept

end Client

namespace Broadcast

variable {b : Broadcast} {acts : List Action} {place : Nat} {c : Client}

/-- Whatever happens, the client at a place is there afterwards, and has lost nothing of what the
step copies as long as it is registered. -/
theorem kept_step {since taken : List Json} (a : Action) (hc : b.feed.clients[place]? = some c)
    (h : c.Kept since taken) :
    ∃ c', (b.step a).feed.clients[place]? = some c' ∧
      c'.Kept (since ++ b.fannedBy a) (taken ++ takenBy place b a) := by
  cases a with
  | record r => exact ⟨c, hc, by simpa [fannedBy, takenBy] using h⟩
  | take =>
    refine ⟨c, ?_, by simpa [fannedBy, takenBy] using h⟩
    rw [step, takeOne]
    split <;> exact hc
  | copy =>
    simp only [fannedBy, takenBy, List.append_nil, step]
    cases hhand : b.hand with
    | none => exact ⟨c, hc, by simpa using h⟩
    | some r =>
      refine ⟨c.receive r, ?_, h.receive r⟩
      simp [Feed.work, Feed.fanOut, hc]
  | join capacity =>
    refine ⟨c, ?_, by simpa [fannedBy, takenBy] using h⟩
    have hlt := (List.getElem?_eq_some_iff.1 hc).1
    simpa [step, Feed.register, List.getElem?_append_left hlt] using hc
  | poll other =>
    simp only [fannedBy, takenBy, List.append_nil]
    split_ifs with hother
    · refine ⟨c.poll, ?_, by simpa [hc] using h.poll⟩
      simp [step, Feed.poll, hother, hc]
    · refine ⟨c, ?_, by simpa using h⟩
      simp [step, Feed.poll, hother, hc]
  | leave other =>
    simp only [fannedBy, takenBy, List.append_nil]
    by_cases hother : other = place
    · refine ⟨c.leave, ?_, h.leave⟩
      simp [step, Feed.unregister, hother, hc]
    · refine ⟨c, ?_, h⟩
      simp [step, Feed.unregister, hother, hc]

/-- So it is after any run. -/
theorem kept_after {since taken : List Json} (acts : List Action)
    (hc : b.feed.clients[place]? = some c) (h : c.Kept since taken) :
    ∃ c', (b.after acts).feed.clients[place]? = some c' ∧
      c'.Kept (since ++ b.fanned acts) (taken ++ b.taken place acts) := by
  induction acts generalizing b c since taken with
  | nil => exact ⟨c, hc, by simpa [fanned, Broadcast.taken, seen] using h⟩
  | cons a rest ih =>
    obtain ⟨c₁, hc₁, h₁⟩ := kept_step a hc h
    obtain ⟨c₂, hc₂, h₂⟩ := ih hc₁ h₁
    refine ⟨c₂, hc₂, ?_⟩
    rwa [List.append_assoc, List.append_assoc] at h₂

theorem length_clients_step (b : Broadcast) (a : Action) :
    (b.step a).feed.clients.length = b.feed.clients.length ∨
      (∃ capacity, a = .join capacity) ∧
        (b.step a).feed.clients.length = b.feed.clients.length + 1 := by
  cases a with
  | record r => exact .inl rfl
  | take =>
    rw [step, takeOne]
    split <;> exact .inl rfl
  | copy =>
    refine .inl ?_
    rw [step]
    cases b.hand with
    | none => rfl
    | some r => exact List.length_map _
  | join capacity => exact .inr ⟨⟨capacity, rfl⟩, List.length_append⟩
  | poll other => exact .inl (List.length_modify ..)
  | leave other => exact .inl (List.length_modify ..)

/-- A client registers at one point of a run, behind all that have registered before. -/
theorem exists_join (hbefore : b.feed.clients.length ≤ place)
    (hafter : place < (b.after acts).feed.clients.length) :
    ∃ earlier capacity later, acts = earlier ++ .join capacity :: later ∧
      (b.after earlier).feed.clients.length = place := by
  induction acts generalizing b with
  | nil => exact absurd hafter (Nat.not_lt.2 hbefore)
  | cons a rest ih =>
    by_cases hlen : (b.step a).feed.clients.length ≤ place
    · obtain ⟨earlier, capacity, later, rfl, hplace⟩ := ih hlen hafter
      exact ⟨a :: earlier, capacity, later, rfl, hplace⟩
    · -- The number of clients grows by this very step, so it is the one that registers.
      rcases length_clients_step b a with hsame | ⟨⟨capacity, rfl⟩, hmore⟩
      · exact absurd (hsame ▸ hbefore) hlen
      · exact ⟨[], capacity, rest, rfl, by rw [after, List.foldl_nil]; omega⟩

/-! ### The live queue -/

/-- The record that the worker takes goes from the front of the queue to its hand. -/
@[simp] theorem pending_takeOne (b : Broadcast) : b.takeOne.pending = b.pending := by
  rw [takeOne]
  split
  · rename_i hhand hpop
    rw [pending, pending, hhand, Queue.items_of_pop? hpop]
    rfl
  · rfl

/-- What a step copies, and what is pending after it, is what was pending and is pushed now, unless
the push meets a full queue. -/
theorem fannedBy_append_pending (a : Action) (h : b.crowds a = false) :
    b.fannedBy a ++ (b.step a).pending = b.pending ++ recordedBy a := by
  cases a with
  | record r =>
    have hitems : (b.live.push r).items = b.live.items ++ [r] := Queue.items_push_of_room h r
    simp [fannedBy, recordedBy, pending, step, hitems]
  | take => simp [fannedBy, recordedBy, step]
  | copy => simp [fannedBy, recordedBy, pending, step]
  | join capacity => simp [fannedBy, recordedBy, pending, step]
  | poll other => simp [fannedBy, recordedBy, pending, step]
  | leave other => simp [fannedBy, recordedBy, pending, step]

/-- In any case what is there afterwards was there before or is pushed now. -/
theorem fannedBy_append_pending_sublist (b : Broadcast) (a : Action) :
    (b.fannedBy a ++ (b.step a).pending).Sublist (b.pending ++ recordedBy a) := by
  cases hcrowds : b.crowds a with
  | false => exact (fannedBy_append_pending a hcrowds).symm ▸ List.Sublist.refl _
  | true =>
    cases a with
    | record r =>
      simp only [fannedBy, recordedBy, pending, step, List.nil_append, List.append_assoc]
      exact (List.Sublist.refl _).append (b.live.items_push_sublist r)
    | _ => exact absurd hcrowds Bool.false_ne_true

/-- Over a run: what is copied and then still pending are records that were pushed, in order. -/
theorem fanned_append_pending_sublist (b : Broadcast) (acts : List Action) :
    (b.fanned acts ++ (b.after acts).pending).Sublist (b.pending ++ recorded acts) := by
  induction acts generalizing b with
  | nil => simp [fanned, seen, recorded, after]
  | cons a rest ih =>
    calc b.fannedBy a ++ (b.step a).fanned rest ++ ((b.step a).after rest).pending
        = b.fannedBy a ++ ((b.step a).fanned rest ++ ((b.step a).after rest).pending) :=
          List.append_assoc ..
      List.Sublist _ (b.fannedBy a ++ ((b.step a).pending ++ recorded rest)) :=
          (List.Sublist.refl _).append (ih _)
      _ = b.fannedBy a ++ (b.step a).pending ++ recorded rest := (List.append_assoc ..).symm
      List.Sublist _ (b.pending ++ recordedBy a ++ recorded rest) :=
          (fannedBy_append_pending_sublist b a).append (List.Sublist.refl _)
      _ = b.pending ++ recorded (a :: rest) := by rw [List.append_assoc]; rfl

/-- They are all of them if no push met a full queue. -/
theorem fanned_append_pending (h : b.meetsFull acts = false) :
    b.fanned acts ++ (b.after acts).pending = b.pending ++ recorded acts := by
  induction acts generalizing b with
  | nil => simp [fanned, seen, recorded, after]
  | cons a rest ih =>
    obtain ⟨hstep, hrest⟩ := Bool.or_eq_false_iff.1 h
    calc b.fannedBy a ++ (b.step a).fanned rest ++ ((b.step a).after rest).pending
        = b.fannedBy a ++ ((b.step a).fanned rest ++ ((b.step a).after rest).pending) :=
          List.append_assoc ..
      _ = b.fannedBy a ++ ((b.step a).pending ++ recorded rest) := by rw [ih hrest]
      _ = b.fannedBy a ++ (b.step a).pending ++ recorded rest := (List.append_assoc ..).symm
      _ = b.pending ++ recordedBy a ++ recorded rest := by rw [fannedBy_append_pending a hstep]
      _ = b.pending ++ recorded (a :: rest) := by rw [List.append_assoc]; rfl

/-! ### All runs -/

/-- Whatever the capacities are and whatever happens in whatever order. Every client registered at
some point of the run; what it has taken since, followed by what its queue holds, is a beginning of
the records that were copied since, and all of them while it is registered. The records that were
copied, followed by the one in the worker's hand and those in the live queue, are records that were
pushed, in order, and all of them unless one was pushed into the full queue. -/
theorem feed_delivery (capacity : Int) (acts : List Action) :
    let b := start capacity
    (∀ place c, (b.after acts).feed.clients[place]? = some c →
      ∃ earlier room later, acts = earlier ++ .join room :: later ∧
        (b.after earlier).feed.clients.length = place ∧
        let joined := b.after (earlier ++ [.join room])
        joined.taken place later ++ c.queue.items <+: joined.fanned later ∧
          (c.registered = true →
            joined.taken place later ++ c.queue.items = joined.fanned later)) ∧
      (b.fanned acts ++ ((b.after acts).hand.toList ++ (b.after acts).live.items)).Sublist
        (recorded acts) ∧
      (b.meetsFull acts = false →
        b.fanned acts ++ ((b.after acts).hand.toList ++ (b.after acts).live.items) =
          recorded acts) := by
  intro b
  refine ⟨fun place c hc => ?_, fanned_append_pending_sublist b acts, fanned_append_pending⟩
  have hlt := (List.getElem?_eq_some_iff.1 hc).1
  obtain ⟨earlier, room, later, rfl, hplace⟩ := exists_join (Nat.zero_le place) hlt
  have hafter : b.after (earlier ++ .join room :: later) =
      (b.after (earlier ++ [.join room])).after later := by
    simp [after]
  have hjoined : (b.after (earlier ++ [.join room])).feed.clients[place]? =
      some (Client.new room) := by
    simp [after, step, Feed.register, ← hplace]
  obtain ⟨c', hc', hkept⟩ := kept_after later hjoined (Client.Kept.new room)
  obtain rfl : c = c' := by
    rw [← hafter, hc] at hc'
    exact Option.some.inj hc'
  exact ⟨earlier, room, later, rfl, hplace, hkept.upTo, hkept.whole⟩

/-- Two clients register, the second one with room for a single record. When two records have been
copied it is cut off, and the first client has taken one of them and will find the other. -/
theorem feed_delivery_cut_off :
    let b := start Queue.liveCapacity
    let acts : List Action :=
      [.join Client.capacity, .record (.int 1), .join 1, .record (.int 2), .take, .copy, .poll 0,
        .take, .copy]
    let first : Client := ⟨⟨Client.capacity, [.int 2]⟩, true⟩
    let second : Client := ⟨⟨1, [.int 1]⟩, false⟩
    (b.after acts).feed.clients = [first, second] ∧ first.registered = true ∧
      (∃ earlier room later, acts = earlier ++ .join room :: later ∧
        taken 0 (b.after (earlier ++ [.join room])) later ++ [.int 2] =
          (b.after (earlier ++ [.join room])).fanned later) ∧
      (∃ earlier room later, acts = earlier ++ .join room :: later ∧
        taken 1 (b.after (earlier ++ [.join room])) later ++ [.int 1] <+:
          (b.after (earlier ++ [.join room])).fanned later) ∧
      b.meetsFull acts = false ∧ b.fanned acts = [.int 1, .int 2] := by
  intro b acts first second
  obtain ⟨hclients, -, hall⟩ := feed_delivery Queue.liveCapacity acts
  obtain ⟨earlier, room, later, hacts, -, -, hwhole⟩ := hclients 0 first rfl
  obtain ⟨earlier', room', later', hacts', -, hupTo, -⟩ := hclients 1 second rfl
  refine ⟨rfl, rfl, ⟨earlier, room, later, hacts, hwhole rfl⟩,
    ⟨earlier', room', later', hacts', hupTo⟩, rfl, ?_⟩
  -- Nothing is left in the worker's hand and in the live queue.
  have hempty : (b.after acts).hand.toList ++ (b.after acts).live.items = [] := rfl
  have hcopied := hall rfl
  rwa [hempty, List.append_nil] at hcopied

end Broadcast

end MissionConsole
