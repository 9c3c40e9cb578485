/-!
# Bounded queues

Two queues carry records to those who watch. A queue refuses a record when it is full. Whoever
pushes a record into the live queue does not give up at that: the oldest record is taken out, and
the new one is offered once more. A watcher's own queue is not pushed into.

## Main definitions

* `Queue` — a queue with a capacity
* `Queue.offer?` — adds a record if there is room
* `Queue.pop?` — takes the oldest record
* `Queue.push` — adds a record, and makes room for it if it is refused
* `Queue.drain` — takes records from the front one by one

## Main results

* `Queue.offer?_eq_none_iff` — only a full queue refuses a record
* `Queue.items_push_of_room`, `Queue.items_push_of_full` — what a push leaves in a queue
* `Queue.length_push_le` — pushing never exceeds the capacity
* `Queue.drain_eq` — a drain takes as many records as the limit says, or all there are
* `Queue.drain_append` — what is taken and what stays are the queue
-/

namespace MissionConsole

/-- A queue, oldest item first. A capacity that is not positive means that there is no bound. -/
structure Queue (α : Type) where
  capacity : Int
  items : List α
  deriving Inhabited

namespace Queue

variable {α : Type}

/-- A queue without items. -/
def empty (capacity : Int) : Queue α := ⟨capacity, []⟩

/-- The count of items. -/
def size (q : Queue α) : Nat := q.items.length

/-- Whether there is no room. -/
def isFull (q : Queue α) : Bool := decide (0 < q.capacity) && decide (q.capacity ≤ q.size)

/-- Adds an item at the end, if there is room. -/
def offer? (q : Queue α) (x : α) : Option (Queue α) :=
  if q.isFull then none else some { q with items := q.items ++ [x] }

/-- Takes the oldest item. -/
def pop? (q : Queue α) : Option (α × Queue α) :=
  match q.items with
  | [] => none
  | x :: rest => some (x, { q with items := rest })

/-- A queue without its oldest item, if it has one. -/
def dropOldest (q : Queue α) : Queue α :=
  match q.pop? with
  | none => q
  | some (_, rest) => rest

/-- Adds an item at the end. When it is refused, the oldest item is dropped and the new one is
offered again; refused once more, it is given up. -/
def push (q : Queue α) (x : α) : Queue α :=
  match q.offer? x with
  | none => (q.dropOldest.offer? x).getD q.dropOldest
  | some longer => longer

/-- Adds items one by one. -/
def pushAll (q : Queue α) (xs : List α) : Queue α := xs.foldl push q

/-- Takes the oldest item so many times, or until there is none. -/
def popUpTo (q : Queue α) : Nat → List α × Queue α
  | 0 => ([], q)
  | count + 1 =>
    match q.pop? with
    | none => ([], q)
    | some (x, rest) =>
      let (xs, left) := rest.popUpTo count
      (x :: xs, left)

/-- Takes up to `limit` items from the front; none when the limit is negative. -/
def drain (q : Queue α) (limit : Int) : List α × Queue α := q.popUpTo limit.toNat

/-- The capacity of the live queue. -/
def liveCapacity : Int := 1000

/-- The live queue when nothing is recorded yet. -/
def live : Queue α := empty liveCapacity

/-! ### Small facts -/

theorem isFull_iff {q : Queue α} : q.isFull = true ↔ 0 < q.capacity ∧ q.capacity ≤ q.size := by
  rw [isFull, Bool.and_eq_true, decide_eq_true_iff, decide_eq_true_iff]

theorem offer?_eq_none_iff {q : Queue α} {x : α} : q.offer? x = none ↔ q.isFull = true := by
  unfold offer?
  split <;> simp_all

theorem offer?_of_room {q : Queue α} (h : q.isFull = false) (x : α) :
    q.offer? x = some { q with items := q.items ++ [x] } := by
  rw [offer?, h, if_neg Bool.false_ne_true]

theorem items_of_pop? {q rest : Queue α} {x : α} (h : q.pop? = some (x, rest)) :
    q.items = x :: rest.items := by
  unfold pop? at h
  split at h
  · exact absurd h nofun
  · rename_i hitems
    obtain ⟨rfl, rfl⟩ := Prod.mk.inj (Option.some.inj h)
    exact hitems

theorem dropOldest_eq (q : Queue α) : q.dropOldest = { q with items := q.items.drop 1 } := by
  obtain ⟨capacity, items⟩ := q
  cases items <;> rfl

/-! ### Pushing -/

theorem push_of_room {q : Queue α} (h : q.isFull = false) (x : α) :
    q.push x = { q with items := q.items ++ [x] } := by
  rw [push, offer?_of_room h]

theorem push_of_full {q : Queue α} (h : q.isFull = true) (x : α) :
    q.push x = (q.dropOldest.offer? x).getD q.dropOldest := by
  rw [push, offer?_eq_none_iff.2 h]

theorem items_push_of_room {q : Queue α} (h : q.isFull = false) (x : α) :
    (q.push x).items = q.items ++ [x] := by
  rw [push_of_room h]

/-- Without its oldest item a queue that has kept to its capacity has room again. -/
theorem isFull_dropOldest {q : Queue α} (h : (q.size : Int) ≤ q.capacity) :
    q.dropOldest.isFull = false := by
  rw [← Bool.not_eq_true, isFull_iff, dropOldest_eq]
  rintro ⟨hpos, hle⟩
  simp only [size, List.length_drop] at h hpos hle
  omega

theorem items_push_of_full {q : Queue α} (h : q.isFull = true)
    (hsize : (q.size : Int) ≤ q.capacity) (x : α) :
    (q.push x).items = q.items.drop 1 ++ [x] := by
  rw [push_of_full h, offer?_of_room (isFull_dropOldest hsize), Option.getD_some, dropOldest_eq]

/-- A push adds nothing but its item, whatever it drops. -/
theorem items_push_sublist (q : Queue α) (x : α) : (q.push x).items.Sublist (q.items ++ [x]) := by
  cases hfull : q.isFull with
  | false => exact (items_push_of_room hfull x).symm ▸ List.Sublist.refl _
  | true =>
    rw [push_of_full hfull]
    cases hretry : q.dropOldest.isFull with
    | false =>
      rw [offer?_of_room hretry, Option.getD_some, dropOldest_eq]
      exact (List.drop_sublist 1 q.items).append (List.Sublist.refl _)
    | true =>
      rw [offer?_eq_none_iff.2 hretry, Option.getD_none, dropOldest_eq]
      exact (List.drop_sublist 1 q.items).trans (List.sublist_append_left _ _)

@[simp] theorem push_capacity (q : Queue α) (x : α) : (q.push x).capacity = q.capacity := by
  cases hfull : q.isFull with
  | false => rw [push_of_room hfull]
  | true =>
    rw [push_of_full hfull, offer?, dropOldest_eq]
    split <;> rfl

theorem length_push_le {q : Queue α} (hc : 0 < q.capacity) (h : (q.size : Int) ≤ q.capacity)
    (x : α) : ((q.push x).size : Int) ≤ q.capacity := by
  cases hfull : q.isFull with
  | true =>
    have hlen := (isFull_iff.1 hfull).2
    rw [size, items_push_of_full hfull h, List.length_append, List.length_drop,
      List.length_singleton]
    rw [size] at h hlen
    omega
  | false =>
    have hlen : ¬ q.capacity ≤ q.size := fun hle =>
      Bool.false_ne_true (hfull.symm.trans (isFull_iff.2 ⟨hc, hle⟩))
    rw [size, items_push_of_room hfull, List.length_append, List.length_singleton]
    rw [size] at hlen
    omega

/-! ### Draining -/

theorem popUpTo_eq (q : Queue α) (count : Nat) :
    q.popUpTo count = (q.items.take count, { q with items := q.items.drop count }) := by
  induction count generalizing q with
  | zero => rfl
  | succ count ih =>
    obtain ⟨capacity, items⟩ := q
    cases items with
    | nil => rfl
    | cons x rest =>
      have hmore := ih ⟨capacity, rest⟩
      simp only [popUpTo, pop?, hmore, List.take_succ_cons, List.drop_succ_cons]

theorem drain_eq (q : Queue α) (limit : Int) :
    q.drain limit =
      (q.items.take limit.toNat, { q with items := q.items.drop limit.toNat }) :=
  popUpTo_eq q limit.toNat

theorem drain_append (q : Queue α) (limit : Int) :
    (q.drain limit).1 ++ (q.drain limit).2.items = q.items := by
  rw [drain_eq]
  exact List.take_append_drop _ _

end Queue

end MissionConsole
