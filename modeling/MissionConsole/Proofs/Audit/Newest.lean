import MissionConsole.Audit.Queue
import MissionConsole.Audit.Record
import MissionConsole.Proofs.Retention.Newest

/-!
# The live queue keeps the newest records

Records are logged and drained in any order. Whoever logs a record offers it to the live queue, and
when it is refused takes the oldest record out and offers the new one again. The second offer is
never refused, for the queue holds no more records than it has room for. So the queue is a window on
the sequence of the records: it shows the newest of those that are logged and not yet drained, and a
record that falls out of the window is lost.

What leaves the queue leaves it at the front, be it drained or lost. All records that were logged
are therefore those that have left, in the order in which they did, and then those in the queue.

## Main definitions

* `Trail.Call`, `Trail.after` — calls that log and drain records, and the live queue after them
* `Trail.returned`, `Trail.lost`, `Trail.gone` — the records that leave the queue
* `Trail.pending` — what a call makes of the sequence of the records that are not drained
* `Trail.window` — the queue that shows the end of a sequence

## Main results

* `Queue.Fits.items_push_eq_rtake` — a push appends its item and keeps the newest items
* `Trail.step_window` — a call shifts the window
* `Trail.gone_append_items` — what has left the queue and what it holds are what was logged
* `Trail.newest_kept` — the live queue after any calls, and what the next call does to it
-/

namespace MissionConsole

namespace Queue

variable {α : Type} {q : Queue α}

/-- A queue that has room for something and holds no more than that. -/
structure Fits (q : Queue α) : Prop where
  pos : 0 < q.capacity
  size_le : (q.size : Int) ≤ q.capacity

namespace Fits

theorem isFull_iff (h : q.Fits) : q.isFull = true ↔ (q.size : Int) = q.capacity := by
  rw [Queue.isFull_iff]
  exact ⟨fun hfull => Int.le_antisymm h.size_le hfull.2, fun heq => ⟨h.pos, Int.le_of_eq heq.symm⟩⟩

/-- A push loses the oldest item, and it does so only if the queue is full. -/
theorem items_push (h : q.Fits) (x : α) :
    (q.push x).items =
      (if (q.size : Int) = q.capacity then q.items.drop 1 else q.items) ++ [x] := by
  split_ifs with hsize
  · exact items_push_of_full (h.isFull_iff.2 hsize) h.size_le x
  · exact items_push_of_room (Bool.eq_false_iff.2 fun hfull => hsize (h.isFull_iff.1 hfull)) x

/-- A push appends its item and keeps the newest items. -/
theorem items_push_eq_rtake (h : q.Fits) (x : α) :
    (q.push x).items = (q.items ++ [x]).rtake q.capacity.toNat := by
  obtain ⟨hpos, hle⟩ := h
  rw [Fits.items_push ⟨hpos, hle⟩, List.rtake, List.length_append, List.length_singleton]
  rw [size] at hle ⊢
  -- Only behind a full queue is the new item one too many, and the cut takes the first one away.
  split_ifs with hfull
  · have hone : q.items.length + 1 - q.capacity.toNat = 1 := by omega
    rw [hone, List.drop_append_of_le_length (by omega)]
  · have hnone : q.items.length + 1 - q.capacity.toNat = 0 := by omega
    rw [hnone, List.drop_zero]

example : ((empty 2).pushAll [1, 2, 3]).items = [2, 3] := by decide

theorem push (h : q.Fits) (x : α) : (q.push x).Fits := by
  constructor
  · rw [push_capacity]
    exact h.pos
  · rw [push_capacity]
    exact length_push_le h.pos h.size_le x

theorem drain (h : q.Fits) (limit : Int) : (q.drain limit).2.Fits := by
  rw [drain_eq]
  refine ⟨h.pos, ?_⟩
  have hsize := h.size_le
  simp only [size, List.length_drop] at hsize ⊢
  omega

end Fits

/-- How many items a drain takes. -/
theorem drain_eq_min (q : Queue α) (limit : Int) :
    let count := (min (max limit 0) q.size).toNat
    q.drain limit = (q.items.take count, { q with items := q.items.drop count }) := by
  intro count
  rw [drain_eq]
  rcases Int.le_total limit q.size with hle | hle
  · have hcount : count = limit.toNat := by omega
    rw [hcount]
  -- A limit beyond the size takes everything, as the size itself does.
  · have hcount : count = q.items.length := by
      rw [size] at hle
      simp only [count, size]
      omega
    rw [size] at hle
    rw [hcount, List.take_of_length_le (by omega), List.take_length,
      List.drop_of_length_le (by omega), List.drop_length]

end Queue

namespace Trail

open Queue

/-- A call of someone who writes the trail of records, or of someone who reads it. -/
inductive Call where
  /-- A record is logged at a time. -/
  | log (stamp : String) (r : Record)
  /-- Records are drained, up to a limit. -/
  | drain (limit : Int)

/-- The record that a call logs, in the form that goes to the live queue. -/
def Call.logged : Call → List Json
  | .log stamp r => [r.form stamp]
  | .drain _ => []

/-- The queue after a call. -/
def step (q : Queue Json) : Call → Queue Json
  | .log stamp r => q.push (r.form stamp)
  | .drain limit => (q.drain limit).2

/-- The live queue after calls from the start on. -/
def after (calls : List Call) : Queue Json := calls.foldl step live

/-! ### What leaves the queue -/

/-- The records that a call returns. -/
def returned (q : Queue Json) : Call → List Json
  | .log .. => []
  | .drain limit => (q.drain limit).1

/-- The record that is lost in a call: the oldest one, when another one meets the full queue. -/
def lost (q : Queue Json) : Call → List Json
  | .log .. => if q.isFull then q.items.take 1 else []
  | .drain _ => []

/-- The records that leave a queue in the course of calls, returned or lost, in the order in which
they leave. -/
def gone (q : Queue Json) : List Call → List Json
  | [] => []
  | c :: rest => lost q c ++ returned q c ++ gone (step q c) rest

/-! ### The window -/

/-- What a call makes of the sequence of the records that are logged and not drained. The queue
holds the last ones, as many as its capacity says, and what stands before them is lost. A record
that is logged is appended, and a drain removes the first ones that the queue holds, with the lost
ones before them. -/
def pending (capacity : Nat) (sequence : List Json) : Call → List Json
  | .log stamp r => sequence ++ [r.form stamp]
  | .drain limit =>
    let newest := sequence.rtake capacity
    newest.drop (min (max limit 0) newest.length).toNat

/-- The queue that shows the end of a sequence. -/
def window (capacity : Nat) (sequence : List Json) : Queue Json :=
  ⟨capacity, sequence.rtake capacity⟩

variable {capacity : Nat} {q : Queue Json}

theorem fits_window (h : 0 < capacity) (sequence : List Json) : (window capacity sequence).Fits :=
  ⟨Int.natCast_pos.2 h, Int.ofNat_le.2 (Retention.length_rtake_le capacity sequence)⟩

/-- A call shifts the window: it shows the end of what the call makes of the sequence. -/
theorem step_window (h : 0 < capacity) (sequence : List Json) (c : Call) :
    step (window capacity sequence) c = window capacity (pending capacity sequence c) := by
  cases c with
  | log stamp r =>
    have hitems : ((window capacity sequence).push (r.form stamp)).items =
        (sequence ++ [r.form stamp]).rtake capacity :=
      ((fits_window h sequence).items_push_eq_rtake _).trans (Retention.rtake_rtake_append _ _ _)
    calc (window capacity sequence).push (r.form stamp)
        = ⟨((window capacity sequence).push (r.form stamp)).capacity,
            ((window capacity sequence).push (r.form stamp)).items⟩ := rfl
      _ = ⟨capacity, (sequence ++ [r.form stamp]).rtake capacity⟩ := by
          rw [push_capacity, hitems, window]
  | drain limit =>
    -- What is left is part of the window, so it needs no cut.
    have hshort : (pending capacity sequence (.drain limit)).length ≤ capacity :=
      (List.drop_sublist _ _).length_le.trans (Retention.length_rtake_le capacity sequence)
    rw [step, drain_eq_min, window, window, Retention.rtake_of_length_le hshort]
    rfl

theorem foldl_step_window (h : 0 < capacity) (sequence : List Json) (calls : List Call) :
    calls.foldl step (window capacity sequence) =
      window capacity (calls.foldl (pending capacity) sequence) :=
  List.foldl_hom (window capacity) (step_window h)

theorem live_eq_window : live = window 1000 [] := by
  rw [window, List.rtake_nil]
  rfl

/-- After any calls the live queue shows the end of the sequence. -/
theorem after_eq_window (calls : List Call) :
    after calls = window 1000 (calls.foldl (pending 1000) []) := by
  rw [after, live_eq_window, foldl_step_window (by decide)]

/-! ### Accounting -/

/-- A record that is logged makes the oldest one lost, and does so only if the queue is full. -/
theorem lost_log (h : q.Fits) (stamp : String) (r : Record) :
    lost q (.log stamp r) = if (q.size : Int) = q.capacity then q.items.take 1 else [] := by
  rw [lost]
  simp only [h.isFull_iff]

/-- In a call the queue gains what is logged at its end, and what leaves it leaves at the front. -/
theorem leaving_append_items (h : q.Fits) (c : Call) :
    lost q c ++ returned q c ++ (step q c).items = q.items ++ c.logged := by
  cases c with
  | log stamp r =>
    rw [lost_log h, returned, step, Call.logged, h.items_push, List.append_nil]
    split_ifs
    · rw [← List.append_assoc, List.take_append_drop]
    · rfl
  | drain limit =>
    rw [lost, returned, step, Call.logged, List.nil_append, drain_append, List.append_nil]

theorem fits_step (h : q.Fits) (c : Call) : (step q c).Fits := by
  cases c with
  | log stamp r => exact h.push (r.form stamp)
  | drain limit => exact h.drain limit

/-- What has left a queue in the course of calls, and what it holds then, are what it held before
and what was logged. -/
theorem gone_append_items (h : q.Fits) (calls : List Call) :
    gone q calls ++ (calls.foldl step q).items = q.items ++ calls.flatMap Call.logged := by
  -- The calls that follow the first one meet the queue that it leaves.
  induction calls generalizing q with
  | nil => exact (List.append_nil q.items).symm
  | cons c rest ih =>
    calc lost q c ++ returned q c ++ gone (step q c) rest ++ (rest.foldl step (step q c)).items
        = lost q c ++ returned q c ++
            (gone (step q c) rest ++ (rest.foldl step (step q c)).items) := List.append_assoc ..
      _ = lost q c ++ returned q c ++ ((step q c).items ++ rest.flatMap Call.logged) := by
          rw [ih (fits_step h c)]
      _ = lost q c ++ returned q c ++ (step q c).items ++ rest.flatMap Call.logged :=
          (List.append_assoc ..).symm
      _ = q.items ++ c.logged ++ rest.flatMap Call.logged := by
          rw [leaving_append_items h c]
      _ = q.items ++ (c :: rest).flatMap Call.logged := by
          rw [List.append_assoc, List.flatMap_cons]

/-! ### The live queue -/

theorem fits_live : (live : Queue Json).Fits := ⟨by decide, by decide⟩

theorem capacity_after (calls : List Call) : (after calls).capacity = 1000 := by
  rw [after_eq_window]
  rfl

theorem items_after (calls : List Call) :
    (after calls).items = (calls.foldl (pending 1000) []).rtake 1000 := by
  rw [after_eq_window, window]

theorem fits_after (calls : List Call) : (after calls).Fits := by
  rw [after_eq_window]
  exact fits_window (by decide) _

/-- After any calls that log and drain records, the live queue holds no more than a thousand of
them, and these are the last ones of the sequence to which every record that is logged is appended
and from which every drain removes the first ones that the queue holds, as many as its limit says,
none for a negative limit. All records that were logged are those that have left the queue,
returned or lost, in the order in which they did, and then those in the queue. Of these the next
drain returns exactly the ones that it removes, and it loses none. The next record that is logged
comes last; only if it meets the full queue a record is lost, and that is the oldest one there. -/
theorem newest_kept (calls : List Call) :
    let q := after calls
    q.size ≤ 1000 ∧
      q.items = (calls.foldl (pending 1000) []).rtake 1000 ∧
      gone live calls ++ q.items = calls.flatMap Call.logged ∧
      (∀ limit : Int, ∃ count : Nat, (count : Int) = min (max limit 0) q.size ∧
        q.drain limit = (q.items.take count, ⟨1000, q.items.drop count⟩) ∧
          lost q (.drain limit) = []) ∧
      ∀ stamp r,
        lost q (.log stamp r) = (if q.size = 1000 then q.items.take 1 else []) ∧
          lost q (.log stamp r) ++ (q.push (Record.form stamp r)).items =
            q.items ++ [Record.form stamp r] := by
  intro q
  have hfits : q.Fits := fits_after calls
  have hcapacity : q.capacity = 1000 := capacity_after calls
  have hfull : (q.size : Int) = q.capacity ↔ q.size = 1000 := by omega
  refine ⟨?_, items_after calls, gone_append_items fits_live calls, fun limit => ?_,
    fun stamp r => ⟨?_, ?_⟩⟩
  · have hle := hfits.size_le
    omega
  · refine ⟨(min (max limit 0) q.size).toNat, by omega, ?_, rfl⟩
    rw [drain_eq_min, hcapacity]
  · rw [lost_log hfits]
    simp only [hfull]
  · have hleaving := leaving_append_items hfits (.log stamp r)
    rwa [returned, List.append_nil] at hleaving

end Trail

end MissionConsole
