import MissionConsole.Proofs.Overlay.Submission
import MissionConsole.Proofs.Overlay.Transcript

/-!
# A callback that fails

The callback is told of an event once the overlay has carried it out, and what becomes of the call
goes no further than the journal. A console with a callback and the same console without one are
compared operation by operation: they go on alike but for the count of calls, which only the
callback sees, whichever of the calls fail.

An event that cannot be carried out is never told, nor are the events behind it: an alert that is
too long for the clock ends the line before its call, with a callback and without one.

## Main definitions

* `Console.telling`, `Console.silent` — a console with a callback, and without one
* `Overlay.Call`, `Overlay.calling` — the calls while events are carried out
* `Overlay.due` — what calls are due for events, told by a console without a callback
* `Overlay.replies`, `Overlay.journal`, `Overlay.callsOf`, `Overlay.dueOf` — the same for operations

## Main results

* `Overlay.applyAll_telling` — events are carried out alike with a callback and without one
* `Overlay.calling_telling` — the calls are the ones that are due
* `Overlay.run_telling` — operations, with a callback and without one
-/

namespace MissionConsole

namespace Console

/-- The console with a callback, whose calls fail as told. -/
def telling (c : Console) (fails : Nat → Event → Bool) : Console :=
  { c with callback := some fails }

/-- The console without a callback. -/
def silent (c : Console) : Console := { c with callback := none }

end Console

/-! ### Remarks -/

/-- A remark that a callback has failed. -/
def Journal.Entry.isCallbackFailed : Journal.Entry → Bool
  | .callbackFailed _ => true
  | _ => false

theorem Journal.records_filter_not_isCallbackFailed (entries : List Journal.Entry) :
    records (entries.filter (!·.isCallbackFailed)) = records entries := by
  rw [records, List.filterMap_filter, records]
  congr 1
  funext entry
  cases entry <;> rfl

namespace Dispatcher

variable {d : Dispatcher} {files : Filesystem} {s : Session} {entry : Journal.Entry}

theorem isCallbackFailed_of_mem_callCommand {name line : String} {args : List String}
    (h : entry ∈ (d.callCommand files s name args line).journal) :
    entry.isCallbackFailed = false := by
  rw [callCommand] at h
  split at h
  · exact absurd h List.not_mem_nil
  · split_ifs at h
    · exact absurd h List.not_mem_nil
    · exact absurd h List.not_mem_nil
    · simp only [runHandler] at h
      split_ifs at h
      · rw [List.mem_singleton.1 h]
        rfl
      · exact absurd h List.not_mem_nil

theorem isCallbackFailed_of_mem_answer {line : String}
    (h : entry ∈ (d.answer files s line).journal) : entry.isCallbackFailed = false := by
  rw [answer] at h
  split_ifs at h
  · simp only [answerRiddle] at h
    split_ifs at h
    · exact absurd h List.not_mem_nil
    · exact absurd h List.not_mem_nil
  · -- A password that is tried leaves its record, whether it is right or wrong.
    simp only [checkPassword] at h
    split_ifs at h <;> rw [List.mem_singleton.1 h] <;> rfl
  · rw [runCommand] at h
    split at h
    · exact absurd h List.not_mem_nil
    · split_ifs at h
      · exact absurd h List.not_mem_nil
      · exact isCallbackFailed_of_mem_callCommand h

/-- Whatever the commands are, no remark on a callback comes from the dispatcher. -/
theorem isCallbackFailed_of_mem_dispatch {rawLine : String}
    (h : entry ∈ (d.dispatch files s rawLine).journal) : entry.isCallbackFailed = false := by
  by_cases hline : Text.trim rawLine = ""
  · rw [dispatch_of_blank hline] at h
    exact absurd h List.not_mem_nil
  · rw [dispatch_of_ne hline, recorded] at h
    rcases List.mem_append.1 h with hanswer | hrecord
    · exact isCallbackFailed_of_mem_answer hanswer
    · rw [List.mem_singleton.1 hrecord]
      rfl

end Dispatcher

namespace Overlay

variable {τ : Type}

/-- An overlay with another count of calls. -/
def withCalls (o : Overlay τ) (n : Nat) : Overlay τ := { o with calls := n }

/-! ### Calls -/

/-- A call of the callback: the event that it is told of, and the overlay at that time, which counts
the calls before it. -/
structure Call (τ : Type) where
  overlay : Overlay τ
  event : Event

namespace Call

variable {fails : Nat → Event → Bool}

/-- The call, if so many were made before it. -/
def numbered (n : Nat) (call : Call τ) : Call τ := { call with overlay := call.overlay.withCalls n }

/-- Whether the call fails. -/
def isFailed (fails : Nat → Event → Bool) (call : Call τ) : Bool :=
  fails call.overlay.calls call.event

/-- The remark that the call leaves in the journal if it fails. -/
def remark (call : Call τ) : Journal.Entry := .callbackFailed call.event.kind

/-- The remarks that calls leave in the journal. -/
def remarks (fails : Nat → Event → Bool) (calls : List (Call τ)) : List Journal.Entry :=
  (calls.filter (isFailed fails)).map remark

theorem remarks_cons (call : Call τ) (calls : List (Call τ)) :
    remarks fails (call :: calls) =
      (if fails call.overlay.calls call.event then [.callbackFailed call.event.kind] else []) ++
        remarks fails calls := by
  rw [remarks, List.filter_cons, isFailed]
  split_ifs
  · rfl
  · rfl

theorem remarks_append (calls later : List (Call τ)) :
    remarks fails (calls ++ later) = remarks fails calls ++ remarks fails later := by
  rw [remarks, List.filter_append, List.map_append, remarks, remarks]

theorem isCallbackFailed_of_mem_remarks {calls : List (Call τ)} {entry : Journal.Entry}
    (h : entry ∈ remarks fails calls) : entry.isCallbackFailed = true := by
  obtain ⟨call, -, rfl⟩ := List.mem_map.1 h
  rfl

end Call

variable [Timescale τ]

/-- The calls of the callback while events are carried out: an event is carried out, and the
callback is told of it before the next one. -/
def calling (c : Console) (now : τ) (o : Overlay τ) : List Event → List (Call τ)
  | [] => []
  | e :: rest =>
    match c.callback, o.react? c now e with
    | some _, some after => ⟨after, e⟩ :: calling c now (o.apply c now e).overlay rest
    | _, _ => []

/-- The calls that are due for events: one for each event that is carried out, in order, at which
the overlay has carried out the events up to this one. -/
def due (c : Console) (now : τ) (o : Overlay τ) (events : List Event) : List (Call τ) :=
  (events.takeWhile (canCarryOut τ)).mapIdx fun k e =>
    ⟨(o.applyAll c now (events.take (k + 1))).overlay, e⟩

variable {c : Console} {fails : Nat → Event → Bool} {now : τ} {o : Overlay τ} {e : Event} {n : Nat}

/-- One call is due for each event that is carried out. -/
theorem map_event_due (events : List Event) :
    (o.due c now events).map Call.event = events.takeWhile (canCarryOut τ) := by
  exact List.ext_getElem (by simp [due]) (by simp [due])

/-! ### Events with a callback and without one -/

theorem react?_telling (n : Nat) (e : Event) :
    (o.withCalls n).react? (c.telling fails) now e =
      (o.react? c.silent now e).map (·.withCalls n) := by
  cases e with
  | alert durationMs =>
    rw [react?, react?, Option.map_map]
    rfl
  | _ => rfl

theorem apply_silent {after : Overlay τ} (h : o.react? c.silent now e = some after) :
    o.apply c.silent now e = ⟨after, [], none⟩ := by
  rw [apply, h]
  rfl

theorem apply_telling {after : Overlay τ} (h : o.react? c.silent now e = some after) :
    (o.withCalls n).apply (c.telling fails) now e =
      ⟨after.withCalls (n + 1), if fails n e then [.callbackFailed e.kind] else [], none⟩ := by
  rw [apply, react?_telling, h]
  rfl

/-- The first of several events, if it is carried out, and those behind it. -/
theorem applyAll_cons {rest : List Event} (h : (o.apply c now e).escaped = none) :
    o.applyAll c now (e :: rest) =
      ⟨((o.apply c now e).overlay.applyAll c now rest).overlay,
        (o.apply c now e).journal ++ ((o.apply c now e).overlay.applyAll c now rest).journal,
        ((o.apply c now e).overlay.applyAll c now rest).escaped⟩ := by
  simp only [applyAll, h, Option.isSome_none, Bool.false_eq_true, if_false]

/-- An event that cannot be carried out is the last one. -/
theorem applyAll_cons_of_not_canCarryOut {rest : List Event} (h : canCarryOut τ e = false) :
    o.applyAll c now (e :: rest) = ⟨o, [], some .durationTooLong⟩ := by
  rw [applyAll, apply_of_not_canCarryOut o h]
  rfl

/-- Without a callback events leave nothing in the journal. -/
theorem journal_applyAll_silent (events : List Event) :
    (o.applyAll c.silent now events).journal = [] := by
  induction events generalizing o with
  | nil => rfl
  | cons e rest ih =>
    cases hcan : canCarryOut τ e with
    | false => rw [applyAll_cons_of_not_canCarryOut hcan]
    | true =>
      obtain ⟨after, hreact, -⟩ := react?_of_canCarryOut c.silent now o hcan
      have hfirst := apply_silent hreact
      rw [applyAll_cons (by rw [hfirst]), hfirst, List.nil_append]
      exact ih

theorem calling_cons {rest : List Event} {after : Overlay τ}
    (h : o.react? c.silent now e = some after) :
    (o.withCalls n).calling (c.telling fails) now (e :: rest) =
      ⟨after.withCalls n, e⟩ ::
        (after.withCalls (n + 1)).calling (c.telling fails) now rest := by
  have hreact : (o.withCalls n).react? (c.telling fails) now e = some (after.withCalls n) := by
    rw [react?_telling, h, Option.map_some]
  have hcallback : (c.telling fails).callback = some fails := rfl
  rw [calling, hcallback, hreact, apply_telling h]

theorem calling_cons_of_not_canCarryOut {rest : List Event} (h : canCarryOut τ e = false) :
    o.calling c now (e :: rest) = [] := by
  have hescaped : (o.apply c now e).escaped = some .durationTooLong := by
    rw [apply_of_not_canCarryOut o h]
  rw [calling]
  split
  · rename_i after _ hreact
    rw [apply, hreact] at hescaped
    cases hescaped
  · rfl

theorem due_cons {rest : List Event} {after : Overlay τ}
    (h : o.react? c.silent now e = some after) (hcan : canCarryOut τ e = true) :
    o.due c.silent now (e :: rest) = ⟨after, e⟩ :: after.due c.silent now rest := by
  have hfirst := apply_silent h
  have hgoes : ∀ events, (o.applyAll c.silent now (e :: events)).overlay =
      (after.applyAll c.silent now events).overlay := by
    intro events
    rw [applyAll_cons (by rw [hfirst]), hfirst]
  rw [due, due, List.takeWhile_cons_of_pos hcan, List.mapIdx_cons]
  simp only [List.take_succ_cons, hgoes]
  rfl

/-- With a callback events are carried out as without one, but for the count of calls and for one
remark on each call that fails. -/
theorem applyAll_telling (c : Console) (fails : Nat → Event → Bool) (now : τ) (o : Overlay τ)
    (n : Nat) (events : List Event) :
    (o.withCalls n).applyAll (c.telling fails) now events =
      ⟨(o.applyAll c.silent now events).overlay.withCalls
          (n + ((o.withCalls n).calling (c.telling fails) now events).length),
        Call.remarks fails ((o.withCalls n).calling (c.telling fails) now events),
        (o.applyAll c.silent now events).escaped⟩ := by
  induction events generalizing o n with
  | nil => rfl
  | cons e rest ih =>
    cases hcan : canCarryOut τ e with
    | false =>
      rw [applyAll_cons_of_not_canCarryOut hcan, applyAll_cons_of_not_canCarryOut hcan,
        calling_cons_of_not_canCarryOut hcan]
      rfl
    | true =>
      obtain ⟨after, hreact, -⟩ := react?_of_canCarryOut c.silent now o hcan
      have hfirst := apply_silent hreact
      -- The event is told, and those behind it meet an overlay with one more call.
      rw [applyAll_cons (by rw [apply_telling hreact]), apply_telling hreact, ih after (n + 1),
        applyAll_cons (by rw [hfirst]), hfirst, calling_cons hreact, Call.remarks_cons,
        List.length_cons, Nat.add_assoc, Nat.add_comm 1]
      rfl

/-- The calls are the ones that are due, and they are counted. -/
theorem calling_telling (c : Console) (fails : Nat → Event → Bool) (now : τ) (o : Overlay τ)
    (n : Nat) (events : List Event) :
    (o.withCalls n).calling (c.telling fails) now events =
      (o.due c.silent now events).mapIdx fun k call => call.numbered (n + k) := by
  induction events generalizing o n with
  | nil => rfl
  | cons e rest ih =>
    cases hcan : canCarryOut τ e with
    | false =>
      rw [calling_cons_of_not_canCarryOut hcan, due, List.takeWhile_cons_of_neg (by simp [hcan])]
      rfl
    | true =>
      obtain ⟨after, hreact, -⟩ := react?_of_canCarryOut c.silent now o hcan
      rw [calling_cons hreact, due_cons hreact hcan, List.mapIdx_cons, ih after (n + 1)]
      simp only [Nat.add_assoc, Nat.add_comm 1]
      rfl

/-! ### A line with a callback and without one -/

/-- The overlay with a line and its answer on the screen. The events are still to be carried out. -/
def answered (c : Console) (o : Overlay τ) (line : String) : Overlay τ :=
  { o.append c [o.echoLine c line] with session := (o.turn c line).session }.append c
    (o.turn c line).reply.lines

theorem submit_eq (line : String) :
    o.submit c now line =
      ⟨⟨((o.answered c line).applyAll c now (o.turn c line).reply.events).overlay,
          (o.turn c line).journal ++
            ((o.answered c line).applyAll c now (o.turn c line).reply.events).journal,
          ((o.answered c line).applyAll c now (o.turn c line).reply.events).escaped⟩,
        (o.turn c line).reply⟩ :=
  rfl

omit [Timescale τ] in
/-- The answer to a line does not look at the callback or at the count of its calls. -/
theorem turn_telling (c : Console) (fails : Nat → Event → Bool) (o : Overlay τ) (n : Nat)
    (line : String) : (o.withCalls n).turn (c.telling fails) line = o.turn c.silent line :=
  rfl

omit [Timescale τ] in
theorem answered_telling (c : Console) (fails : Nat → Event → Bool) (o : Overlay τ) (n : Nat)
    (line : String) :
    (o.withCalls n).answered (c.telling fails) line = (o.answered c.silent line).withCalls n :=
  rfl

/-- The calls of the callback while a line is submitted. -/
def callsOn (c : Console) (now : τ) (o : Overlay τ) (line : String) : List (Call τ) :=
  (o.answered c line).calling c now (o.turn c line).reply.events

/-- The calls that are due for a line. -/
def dueOn (c : Console) (now : τ) (o : Overlay τ) (line : String) : List (Call τ) :=
  (o.answered c line).due c now (o.turn c line).reply.events

theorem callsOn_telling (c : Console) (fails : Nat → Event → Bool) (now : τ) (o : Overlay τ)
    (n : Nat) (line : String) :
    (o.withCalls n).callsOn (c.telling fails) now line =
      (o.dueOn c.silent now line).mapIdx fun k call => call.numbered (n + k) := by
  rw [callsOn, turn_telling, answered_telling, calling_telling, dueOn]

/-- With a callback a line is answered as without one, but for the count of calls and for one remark
on each call that fails. -/
theorem submit_telling (c : Console) (fails : Nat → Event → Bool) (now : τ) (o : Overlay τ)
    (n : Nat) (line : String) :
    (o.withCalls n).submit (c.telling fails) now line =
      ⟨⟨(o.submit c.silent now line).overlay.withCalls
            (n + ((o.withCalls n).callsOn (c.telling fails) now line).length),
          (o.submit c.silent now line).journal ++
            Call.remarks fails ((o.withCalls n).callsOn (c.telling fails) now line),
          (o.submit c.silent now line).escaped⟩,
        (o.submit c.silent now line).reply⟩ := by
  rw [submit_eq, submit_eq, callsOn, turn_telling, answered_telling, applyAll_telling,
    journal_applyAll_silent, List.append_nil]

/-- The same of a line at its moment. -/
theorem enter_telling (c : Console) (fails : Nat → Event → Bool) (o : Overlay τ) (n : Nat)
    (entry : Entry τ) :
    (o.withCalls n).enter (c.telling fails) entry =
      ⟨⟨(o.enter c.silent entry).overlay.withCalls
            (n + (o.dueOn (c.dated entry.date).silent entry.now entry.line).length),
          (o.enter c.silent entry).journal ++ Call.remarks fails
            ((o.withCalls n).callsOn ((c.dated entry.date).telling fails) entry.now entry.line),
          (o.enter c.silent entry).escaped⟩,
        (o.enter c.silent entry).reply⟩ := by
  have hline := submit_telling (c.dated entry.date) fails entry.now o n entry.line
  have htelling : (c.telling fails).dated entry.date = (c.dated entry.date).telling fails := rfl
  have hsilent : c.silent.dated entry.date = (c.dated entry.date).silent := rfl
  have hcount : ((o.withCalls n).callsOn ((c.dated entry.date).telling fails) entry.now
        entry.line).length =
      (o.dueOn (c.dated entry.date).silent entry.now entry.line).length := by
    rw [callsOn_telling, List.length_mapIdx]
  rw [enter, enter, htelling, hsilent, hline, hcount]

/-- All that a line leaves in the journal without a callback comes from the dispatcher. -/
theorem isCallbackFailed_of_mem_submit_silent {line : String} {entry : Journal.Entry}
    (h : entry ∈ (o.submit c.silent now line).journal) : entry.isCallbackFailed = false := by
  rw [submit_eq, journal_applyAll_silent, List.append_nil] at h
  exact Dispatcher.isCallbackFailed_of_mem_dispatch h

/-! ### Operations with a callback and without one -/

namespace Moment

/-- What is replied to the line that is submitted, with the failure that has kept it from being
told. -/
def replies (c : Console) : Moment τ → List (Reply × Option Fault)
  | ⟨o, .submit entry⟩ => [((o.enter c entry).reply, (o.enter c entry).escaped)]
  | _ => []

/-- What the line that is submitted leaves in the journal. -/
def journal (c : Console) : Moment τ → List Journal.Entry
  | ⟨o, .submit entry⟩ => (o.enter c entry).journal
  | _ => []

/-- The calls of the callback. -/
def calls (c : Console) : Moment τ → List (Call τ)
  | ⟨o, .submit entry⟩ => o.callsOn (c.dated entry.date) entry.now entry.line
  | _ => []

/-- The calls that are due. -/
def due (c : Console) : Moment τ → List (Call τ)
  | ⟨o, .submit entry⟩ => o.dueOn (c.dated entry.date) entry.now entry.line
  | _ => []

variable (o : Overlay τ) (entry : Entry τ)

theorem replies_submit :
    (⟨o, .submit entry⟩ : Moment τ).replies c =
      [((o.enter c entry).reply, (o.enter c entry).escaped)] :=
  rfl

theorem journal_submit :
    (⟨o, .submit entry⟩ : Moment τ).journal c = (o.enter c entry).journal :=
  rfl

theorem due_submit :
    (⟨o, .submit entry⟩ : Moment τ).due c =
      o.dueOn (c.dated entry.date) entry.now entry.line :=
  rfl

/-- One call is due for each event of a reply that is carried out. -/
theorem map_event_due (m : Moment τ) :
    (m.due c).map Call.event =
      (m.replies c).flatMap fun r => r.1.events.takeWhile (canCarryOut τ) := by
  obtain ⟨o, operation⟩ := m
  cases operation with
  | submit entry =>
    rw [due_submit, dueOn, Overlay.map_event_due, replies_submit, List.flatMap_singleton]
    rfl
  | «open» | hide | close | toggle | append lines => rfl

end Moment

section Course

/-- What is replied in the course of operations. -/
def replies (c : Console) (o : Overlay τ) (operations : List (Operation τ)) :
    List (Reply × Option Fault) :=
  (o.moments c operations).flatMap (Moment.replies c)

/-- What operations leave in the journal. -/
def journal (c : Console) (o : Overlay τ) (operations : List (Operation τ)) : List Journal.Entry :=
  (o.moments c operations).flatMap (Moment.journal c)

/-- The calls of the callback in the course of operations. -/
def callsOf (c : Console) (o : Overlay τ) (operations : List (Operation τ)) : List (Call τ) :=
  (o.moments c operations).flatMap (Moment.calls c)

/-- The calls that are due in the course of operations. -/
def dueOf (c : Console) (o : Overlay τ) (operations : List (Operation τ)) : List (Call τ) :=
  (o.moments c operations).flatMap (Moment.due c)

variable (first : Operation τ) (rest : List (Operation τ))

theorem replies_nil : o.replies c [] = [] := rfl

theorem replies_cons :
    o.replies c (first :: rest) =
      (⟨o, first⟩ : Moment τ).replies c ++ (o.perform c first).replies c rest := by
  rw [replies, moments, List.flatMap_cons, replies]

theorem journal_cons :
    o.journal c (first :: rest) =
      (⟨o, first⟩ : Moment τ).journal c ++ (o.perform c first).journal c rest := by
  rw [journal, moments, List.flatMap_cons, journal]

theorem callsOf_cons :
    o.callsOf c (first :: rest) =
      (⟨o, first⟩ : Moment τ).calls c ++ (o.perform c first).callsOf c rest := by
  rw [callsOf, moments, List.flatMap_cons, callsOf]

theorem dueOf_cons :
    o.dueOf c (first :: rest) =
      (⟨o, first⟩ : Moment τ).due c ++ (o.perform c first).dueOf c rest := by
  rw [dueOf, moments, List.flatMap_cons, dueOf]

end Course

theorem map_event_dueOf (operations : List (Operation τ)) :
    (o.dueOf c operations).map Call.event =
      (o.replies c operations).flatMap fun r => r.1.events.takeWhile (canCarryOut τ) := by
  rw [dueOf, replies, List.map_flatMap, List.flatMap_assoc]
  exact congrArg (fun f => (o.moments c operations).flatMap f)
    (funext fun m => m.map_event_due)

/-! ### One operation -/

section Step

variable (c : Console) (fails : Nat → Event → Bool) (o : Overlay τ) (n : Nat)
  (operation : Operation τ)

theorem perform_submit (entry : Entry τ) :
    o.perform c (.submit entry) = (o.enter c entry).overlay :=
  rfl

theorem perform_telling :
    (o.withCalls n).perform (c.telling fails) operation =
      (o.perform c.silent operation).withCalls
        (n + ((⟨o, operation⟩ : Moment τ).due c.silent).length) := by
  cases operation with
  | submit entry =>
    have hline := enter_telling c fails o n entry
    have hsilent : c.silent.dated entry.date = (c.dated entry.date).silent := rfl
    rw [perform_submit, perform_submit, Moment.due_submit, hsilent, hline]
  | toggle =>
    have hopen : (o.withCalls n).isOpen = o.isOpen := rfl
    rw [perform, perform, toggle, toggle, hopen]
    split_ifs
    · rfl
    · rfl
  | «open» | hide | close | append lines => rfl

theorem calls_telling :
    (⟨o.withCalls n, operation⟩ : Moment τ).calls (c.telling fails) =
      ((⟨o, operation⟩ : Moment τ).due c.silent).mapIdx fun k call => call.numbered (n + k) := by
  cases operation with
  | submit entry => exact callsOn_telling (c.dated entry.date) fails entry.now o n entry.line
  | «open» | hide | close | toggle | append lines => rfl

theorem replies_telling :
    (⟨o.withCalls n, operation⟩ : Moment τ).replies (c.telling fails) =
      (⟨o, operation⟩ : Moment τ).replies c.silent := by
  cases operation with
  | submit entry =>
    have hline := enter_telling c fails o n entry
    rw [Moment.replies_submit, Moment.replies_submit, hline]
  | «open» | hide | close | toggle | append lines => rfl

theorem journal_telling :
    (⟨o.withCalls n, operation⟩ : Moment τ).journal (c.telling fails) =
      (⟨o, operation⟩ : Moment τ).journal c.silent ++
        Call.remarks fails ((⟨o.withCalls n, operation⟩ : Moment τ).calls (c.telling fails)) := by
  cases operation with
  | submit entry =>
    have hline := enter_telling c fails o n entry
    rw [Moment.journal_submit, Moment.journal_submit, hline]
    rfl
  | «open» | hide | close | toggle | append lines => rfl

theorem isCallbackFailed_of_mem_journal_silent {entry : Journal.Entry}
    (h : entry ∈ (⟨o, operation⟩ : Moment τ).journal c.silent) :
    entry.isCallbackFailed = false := by
  cases operation with
  | submit line =>
    exact isCallbackFailed_of_mem_submit_silent (c := c.dated line.date) h
  | «open» | hide | close | toggle | append lines => exact absurd h List.not_mem_nil

end Step

/-! ### Any operations -/

/-- The overlay with a callback is the one without it, but for the count of calls. -/
theorem run_withCalls (c : Console) (fails : Nat → Event → Bool) (o : Overlay τ) (n : Nat)
    (operations : List (Operation τ)) :
    (o.withCalls n).run (c.telling fails) operations =
      (o.run c.silent operations).withCalls (n + (o.dueOf c.silent operations).length) := by
  induction operations generalizing o n with
  | nil => rfl
  | cons first rest ih =>
    rw [run_cons, run_cons, perform_telling, ih, dueOf_cons, List.length_append, Nat.add_assoc]

/-- The calls in the course of operations are the ones that are due, and they are counted. -/
theorem callsOf_telling (c : Console) (fails : Nat → Event → Bool) (o : Overlay τ) (n : Nat)
    (operations : List (Operation τ)) :
    (o.withCalls n).callsOf (c.telling fails) operations =
      (o.dueOf c.silent operations).mapIdx fun k call => call.numbered (n + k) := by
  induction operations generalizing o n with
  | nil => rfl
  | cons first rest ih =>
    have hcount : ∀ m k, n + m + k = n + (k + m) := by
      intro m k
      omega
    rw [callsOf_cons, calls_telling, perform_telling, ih, dueOf_cons, List.mapIdx_append]
    simp only [hcount]

theorem replies_withCalls (c : Console) (fails : Nat → Event → Bool) (o : Overlay τ) (n : Nat)
    (operations : List (Operation τ)) :
    (o.withCalls n).replies (c.telling fails) operations = o.replies c.silent operations := by
  induction operations generalizing o n with
  | nil => rw [replies_nil, replies_nil]
  | cons first rest ih =>
    rw [replies_cons, replies_cons, replies_telling, perform_telling, ih]

/-- The calls that fail are all that the journal tells of the callback, each by one remark. -/
theorem filter_journal_telling (c : Console) (fails : Nat → Event → Bool) (o : Overlay τ) (n : Nat)
    (operations : List (Operation τ)) :
    ((o.withCalls n).journal (c.telling fails) operations).filter (·.isCallbackFailed) =
        Call.remarks fails ((o.withCalls n).callsOf (c.telling fails) operations) ∧
      ((o.withCalls n).journal (c.telling fails) operations).filter (!·.isCallbackFailed) =
        o.journal c.silent operations := by
  induction operations generalizing o n with
  | nil => exact ⟨rfl, rfl⟩
  | cons first rest ih =>
    obtain ⟨hremarks, hothers⟩ := ih (o.perform c.silent first)
      (n + ((⟨o, first⟩ : Moment τ).due c.silent).length)
    have hsilent : ∀ entry ∈ (⟨o, first⟩ : Moment τ).journal c.silent,
        entry.isCallbackFailed = false := fun entry h =>
      isCallbackFailed_of_mem_journal_silent c o first h
    have hcalls : ∀ entry ∈ Call.remarks fails
        ((⟨o.withCalls n, first⟩ : Moment τ).calls (c.telling fails)),
        entry.isCallbackFailed = true := fun entry h =>
      Call.isCallbackFailed_of_mem_remarks h
    rw [journal_cons, callsOf_cons, perform_telling, journal_telling, Call.remarks_append,
      List.filter_append, List.filter_append, List.filter_append, List.filter_append, hremarks,
      hothers, journal_cons]
    constructor
    · rw [List.filter_eq_nil_iff.2 (by simpa using hsilent), List.filter_eq_self.2 hcalls,
        List.nil_append]
    · rw [List.filter_eq_self.2 (by simpa using hsilent),
        List.filter_eq_nil_iff.2 (by simpa using hcalls), List.append_nil]

/-- Whatever is done with an overlay, and whichever calls of its callback fail: but for the count of
calls it becomes what it becomes without a callback, and lines are replied to and recorded alike, or
fail alike. In the order of the replies, one call is made for each event that is carried out; when
it is made, the overlay has carried out this event and the events before it, and none behind it. The
journal has one remark for each call that fails, and is otherwise the one without a callback. -/
theorem run_telling (c : Console) (fails : Nat → Event → Bool) (o : Overlay τ)
    (operations : List (Operation τ)) :
    let told := c.telling fails
    let silent := c.silent
    let calls := o.callsOf told operations
    o.run told operations = (o.run silent operations).withCalls (o.calls + calls.length) ∧
      o.replies told operations = o.replies silent operations ∧
      Journal.records (o.journal told operations) =
        Journal.records (o.journal silent operations) ∧
      calls = (o.dueOf silent operations).mapIdx (fun k call => call.numbered (o.calls + k)) ∧
      calls.map Call.event = (o.replies silent operations).flatMap
        (fun r => r.1.events.takeWhile (canCarryOut τ)) ∧
      (o.journal told operations).filter (·.isCallbackFailed) =
        (calls.filter (Call.isFailed fails)).map Call.remark ∧
      (o.journal told operations).filter (!·.isCallbackFailed) = o.journal silent operations := by
  intro told silent calls
  -- An overlay is one that has counted its own calls.
  have hcalls : calls =
      (o.dueOf silent operations).mapIdx fun k call => call.numbered (o.calls + k) :=
    callsOf_telling c fails o o.calls operations
  have hlength : calls.length = (o.dueOf silent operations).length := by
    rw [hcalls, List.length_mapIdx]
  obtain ⟨hremarks, hothers⟩ := filter_journal_telling c fails o o.calls operations
  refine ⟨?_, replies_withCalls c fails o o.calls operations, ?_, hcalls, ?_, hremarks, hothers⟩
  · rw [hlength]
    exact run_withCalls c fails o o.calls operations
  · rw [← hothers, Journal.records_filter_not_isCallbackFailed]
    rfl
  · rw [hcalls, ← map_event_dueOf]
    exact List.ext_getElem (by simp) (by simp [Call.numbered])

/-- An alert that is too long for the clock is an event of a reply that no call tells of. -/
theorem alert_too_long_is_not_told :
    let p : Profile := { Profile.map .standard with alertDurationMs := Nat.pow 10 400 }
    let c : Console := ⟨.standard p [] (.ok ""), .empty, 200, 500, some fun _ _ => true⟩
    let o : Overlay Float := new c "id" "local"
    let operations : List (Operation Float) := [.submit ⟨⟨"sudo su", .ok ""⟩, 0⟩]
    (o.replies c operations).flatMap (fun r => r.1.events.map Event.kind) = [.alert] ∧
      (o.callsOf c operations).map (fun call => call.event.kind) = [] ∧
      (o.run c operations).calls = 0 ∧
      (o.journal c operations).filter (·.isCallbackFailed) = [] := by
  decide +kernel

end Overlay

end MissionConsole
