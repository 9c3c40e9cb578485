import MissionConsole.Proofs.Overlay.Operation
import MissionConsole.Web.SessionTable

/-!
# Requests, one after the other

Visitors send requests in any order, and each is answered at its moment on the table that the
requests before it have left. A request that names a session is answered from that session alone;
one that creates a session names none.

## Main definitions

* `SessionTable.Request`, `SessionTable.Request.addressee?` — a request, and the session it names
* `SessionTable.Moment` — a request at its moment
* `SessionTable.answer`, `SessionTable.step` — what a request leads to
* `SessionTable.Exchange`, `SessionTable.exchanges` — requests with what they have led to
* `SessionTable.Response.reply?` — the reply that a response brings
* `SessionTable.after`, `SessionTable.records` — the table after requests, and what was recorded
* `SessionTable.Entry.submit`, `SessionTable.Entry.ends` — a line on a session, and whether it is
  the last one
* `SessionTable.Answers` — what a request may lead to
* `WebHost.sample` — a host whose clock is exact

## Main results

* `SessionTable.find?_drop`, `SessionTable.find?_add`, … — what is found after a change
* `SessionTable.command_of_ends`, `SessionTable.command_of_goesOn` — the two ways of a line
* `SessionTable.answers_answer` — a request leads to nothing else
-/

namespace MissionConsole

/-- A host whose clock shows a date, or fails. -/
def WebHost.dated {τ : Type} (h : WebHost τ) (date : Except String String) : WebHost τ :=
  { h with console := fun p => (h.console p).dated date }

namespace SessionTable

variable {τ : Type}

/-! ### Requests -/

/-- What a visitor may ask for. -/
inductive Request where
  | create (profile origin : String)
  | command (id line : String)
  | get (id : String)
  | delete (id : String)

/-- The session that a request names. -/
def Request.addressee? : Request → Option String
  | .create .. => none
  | .command id _ => some id
  | .get id => some id
  | .delete id => some id

/-- A request, the reading of the clock when it is answered, and the date or the failure of the
calendar at that moment. -/
structure Moment (τ : Type) where
  request : Request
  now : τ
  date : Except String String

/-- The request of a moment names a session. -/
def Moment.isTo (m : Moment τ) (id : String) : Bool := m.request.addressee? == some id

/-- A request with what it has led to. -/
structure Exchange (τ : Type) where
  moment : Moment τ
  outcome : Outcome τ

/-- The reply to a line that a response brings. -/
def Response.reply? : Response → Option Reply
  | .answered _ reply => some reply
  | _ => none

section Run

variable [Timescale τ]

/-- What a request leads to. -/
def answer (h : WebHost τ) (now : τ) (t : SessionTable τ) : Request → Outcome τ
  | .create profile origin => t.create h now profile origin
  | .command id line => t.command h now id line
  | .get id => t.get h now id
  | .delete id => t.delete h id

/-- What a request leads to at its moment. -/
def step (h : WebHost τ) (t : SessionTable τ) (m : Moment τ) : Outcome τ :=
  t.answer (h.dated m.date) m.now m.request

/-- Requests with what they have led to. -/
def exchanges (h : WebHost τ) (t : SessionTable τ) : List (Moment τ) → List (Exchange τ)
  | [] => []
  | m :: rest => ⟨m, t.step h m⟩ :: exchanges h (t.step h m).table rest

/-- The table after requests. -/
def after (h : WebHost τ) (t : SessionTable τ) : List (Moment τ) → SessionTable τ
  | [] => t
  | m :: rest => after h (t.step h m).table rest

/-- What was recorded of requests. -/
def records (h : WebHost τ) (t : SessionTable τ) (ms : List (Moment τ)) : List Record :=
  Journal.records ((t.exchanges h ms).flatMap (·.outcome.journal))

variable {h : WebHost τ} {t : SessionTable τ}

theorem after_concat (ms : List (Moment τ)) (m : Moment τ) :
    t.after h (ms ++ [m]) = ((t.after h ms).step h m).table := by
  induction ms generalizing t with
  | nil => rfl
  | cons first ms ih => rw [List.cons_append, after, after, ih]

theorem exchanges_concat (ms : List (Moment τ)) (m : Moment τ) :
    t.exchanges h (ms ++ [m]) = t.exchanges h ms ++ [⟨m, (t.after h ms).step h m⟩] := by
  induction ms generalizing t with
  | nil => rfl
  | cons first ms ih => rw [List.cons_append, exchanges, exchanges, after, ih, List.cons_append]

theorem records_concat (ms : List (Moment τ)) (m : Moment τ) :
    t.records h (ms ++ [m]) =
      t.records h ms ++ Journal.records ((t.after h ms).step h m).journal := by
  rw [records, exchanges_concat, List.flatMap_append, Journal.records_append,
    List.flatMap_singleton, records]

end Run

/-! ### What is found in the table -/

section Find

variable {t : SessionTable τ} {id other : String} {e : Entry τ} {now : τ}

theorem mem_ids_of_find? (h : t.find? id = some e) : id ∈ t.ids := Keyed.mem_keys_of_lookup h

theorem find?_eq_none_iff : t.find? id = none ↔ id ∉ t.ids := Keyed.lookup_eq_none_iff

theorem exists_find?_of_mem (h : id ∈ t.ids) : ∃ e, t.find? id = some e :=
  Keyed.exists_lookup_of_mem h

@[simp] theorem find?_touch : (t.touch id now).find? other = t.find? other := rfl

theorem find?_update :
    (t.update id e).find? other = if other = id then some e else t.find? other :=
  Keyed.lookup_put t.sessions id other e

theorem find?_add :
    (t.add id e now).find? other = if other = id then some e else t.find? other :=
  Keyed.lookup_put t.sessions id other e

theorem find?_drop : (t.drop id).find? other = if other = id then none else t.find? other :=
  Keyed.lookup_erase t.sessions id other

/-- What is dropped may as well not have been used or changed before. -/
theorem drop_update_touch : ((t.touch id now).update id e).drop id = t.drop id := by
  simp only [drop, update, touch, Keyed.erase_put]

end Find

/-! ### A line on a session -/

section Line

variable [Timescale τ]

/-- The answer to a line that is submitted on a session. -/
def Entry.submit (h : WebHost τ) (now : τ) (e : Entry τ) (line : String) : Overlay.Submission τ :=
  e.overlay.submit (h.console e.profile) now line

/-- A session after a line. -/
def Entry.next (h : WebHost τ) (now : τ) (e : Entry τ) (line : String) : Entry τ :=
  { e with overlay := (e.submit h now line).overlay }

/-- A line is the last one of its session: it is answered, and the events say so. -/
def Entry.ends (h : WebHost τ) (now : τ) (e : Entry τ) (line : String) : Bool :=
  (e.submit h now line).escaped.isNone && Event.endsSession (e.submit h now line).reply.events

/-- The response to a line that is not the last one. -/
def Entry.response (h : WebHost τ) (now : τ) (e : Entry τ) (line : String) : Response :=
  match (e.submit h now line).escaped with
  | some f => .failed f
  | none => .answered (view h now (e.next h now line)) (e.submit h now line).reply

variable {h : WebHost τ} {now : τ} {t : SessionTable τ} {id line : String} {e : Entry τ}

theorem command_of_none (hfind : t.find? id = none) :
    t.command h now id line = t.refuse .unknownSession := by
  rw [command, hfind]

/-- The last line of a session takes it out of the table. -/
theorem command_of_ends (hfind : t.find? id = some e) (hends : e.ends h now line = true) :
    t.command h now id line =
      ⟨t.drop id,
        .answered { view h now (e.next h now line) with isOpen := false }
          (e.submit h now line).reply,
        (e.submit h now line).journal ++ [(remove h .exited id (e.next h now line)).record],
        [remove h .exited id (e.next h now line)]⟩ := by
  rw [Entry.ends, Bool.and_eq_true, Option.isNone_iff_eq_none] at hends
  obtain ⟨hanswered, hclose⟩ := hends
  rw [Entry.submit] at hanswered hclose
  -- The session is touched and changed before it is dropped, and nothing of that is left.
  simp only [command, hfind, hanswered, hclose, if_true, drop_update_touch, Entry.next,
    Entry.submit]

/-- After any other line the session goes on. -/
theorem command_of_goesOn (hfind : t.find? id = some e) (hends : e.ends h now line = false) :
    t.command h now id line =
      ⟨(t.touch id now).update id (e.next h now line), e.response h now line,
        (e.submit h now line).journal, []⟩ := by
  simp only [command, hfind, Entry.response, Entry.next, Entry.submit]
  cases hescaped : (e.overlay.submit (h.console e.profile) now line).escaped with
  | some f => rfl
  | none =>
    have hclose : Event.endsSession (e.submit h now line).reply.events = false := by
      simpa [Entry.ends, Entry.submit, hescaped] using hends
    rw [Entry.submit] at hclose
    simp only [hclose, if_neg Bool.false_ne_true]

theorem get_of_none (hfind : t.find? id = none) :
    t.get h now id = t.refuse .unknownSession := by
  rw [get, hfind]

theorem get_of_some (hfind : t.find? id = some e) :
    t.get h now id =
      ⟨t.touch id now, .shown (view h now e) e.overlay.session e.overlay.lines, [], []⟩ := by
  rw [get, hfind]

end Line

section Delete

variable {h : WebHost τ} {t : SessionTable τ} {id : String} {e : Entry τ}

theorem delete_of_none (hfind : t.find? id = none) :
    t.delete h id = (t.drop id).refuse .unknownSession := by
  rw [delete, hfind]

theorem delete_of_some (hfind : t.find? id = some e) :
    t.delete h id =
      ⟨t.drop id, .deleted id, [(remove h .deleted id e).record], [remove h .deleted id e]⟩ := by
  rw [delete, hfind]

end Delete

/-! ### What a request may lead to -/

/-- The record of a session's beginning. -/
def opening (origin id profile : String) : Record :=
  .lifecycle "OPEN" origin [("session_id", .str id), ("profile", .str profile)]

section Answers

variable [Timescale τ]

/-- A session at its beginning. -/
def Entry.new (h : WebHost τ) (p : Profile) (id origin : String) : Entry τ :=
  ⟨p, (Overlay.new (h.console p) id origin).opened⟩

/-- What a request may lead to, with one case for each way through it. -/
inductive Answers (h : WebHost τ) (now : τ) (t : SessionTable τ) : Request → Outcome τ → Prop
  /-- There is no such profile. -/
  | unknownProfile {profile origin : String} {e : UnknownProfile}
    (hprofile : h.profiles profile = .error e) :
    Answers h now t (.create profile origin) (t.refuse (.unknownProfile e))
  /-- A session is added under the next id to what eviction leaves, and it is recorded after what
  eviction has dropped. -/
  | created {profile origin id : String} {p : Profile} {t' : SessionTable τ}
    {gone : List (Removal τ)} (hprofile : h.profiles profile = .ok p)
    (hevict : t.evict h h.ttl h.capacity now = (t', gone)) (hid : h.newId t'.issued = id) :
    Answers h now t (.create profile origin)
      ⟨t'.add id (.new h p id origin) now,
        .created (view h now (.new h p id origin)) (Entry.new h p id origin).overlay.lines,
        gone.map Removal.record ++ [.record (opening origin id p.name)], gone⟩
  /-- There is no such session. -/
  | unknownSession {request : Request} {id : String} {t' : SessionTable τ}
    (hto : request.addressee? = some id) (hfind : t.find? id = none)
    (htable : t' = t ∨ t' = t.drop id) : Answers h now t request (t'.refuse .unknownSession)
  /-- A line is the last one of its session. -/
  | ended {id line : String} {e : Entry τ} (hfind : t.find? id = some e)
    (hends : e.ends h now line = true) :
    Answers h now t (.command id line)
      ⟨t.drop id,
        .answered { view h now (e.next h now line) with isOpen := false }
          (e.submit h now line).reply,
        (e.submit h now line).journal ++ [(remove h .exited id (e.next h now line)).record],
        [remove h .exited id (e.next h now line)]⟩
  /-- The session goes on after a line. -/
  | entered {id line : String} {e : Entry τ} (hfind : t.find? id = some e)
    (hends : e.ends h now line = false) :
    Answers h now t (.command id line)
      ⟨(t.touch id now).update id (e.next h now line), e.response h now line,
        (e.submit h now line).journal, []⟩
  | shown {id : String} {e : Entry τ} (hfind : t.find? id = some e) :
    Answers h now t (.get id)
      ⟨t.touch id now, .shown (view h now e) e.overlay.session e.overlay.lines, [], []⟩
  | deleted {id : String} {e : Entry τ} (hfind : t.find? id = some e) :
    Answers h now t (.delete id)
      ⟨t.drop id, .deleted id, [(remove h .deleted id e).record], [remove h .deleted id e]⟩

/-- A request leads to nothing else. -/
theorem answers_answer (h : WebHost τ) (now : τ) (t : SessionTable τ) (request : Request) :
    Answers h now t request (t.answer h now request) := by
  cases request with
  | create profile origin =>
    rw [answer, create]
    cases hprofile : h.profiles profile with
    | error e => exact .unknownProfile hprofile
    | ok p => exact .created hprofile rfl rfl
  | command id line =>
    rw [answer]
    cases hfind : t.find? id with
    | none =>
      rw [command_of_none hfind]
      exact .unknownSession rfl hfind (.inl rfl)
    | some e =>
      cases hends : e.ends h now line with
      | true =>
        rw [command_of_ends hfind hends]
        exact .ended hfind hends
      | false =>
        rw [command_of_goesOn hfind hends]
        exact .entered hfind hends
  | get id =>
    rw [answer]
    cases hfind : t.find? id with
    | none =>
      rw [get_of_none hfind]
      exact .unknownSession rfl hfind (.inl rfl)
    | some e =>
      rw [get_of_some hfind]
      exact .shown hfind
  | delete id =>
    rw [answer]
    cases hfind : t.find? id with
    | none =>
      rw [delete_of_none hfind]
      exact .unknownSession rfl hfind (.inr rfl)
    | some e =>
      rw [delete_of_some hfind]
      exact .deleted hfind

end Answers

end SessionTable

/-! ### A host whose clock is exact -/

namespace WebHost

/-- A host of the standard profiles over whole milliseconds. Sessions may be idle for a minute, and
their ids get longer and longer. -/
def sample (capacity : Int) : WebHost Int where
  profiles := Profile.named .standard
  console p := ⟨.standard p [] (.ok ""), .empty, 0, 0, none⟩
  newId n := String.ofList (List.replicate n 'i')
  ttl := .seconds 60
  capacity

theorem sample_registry (capacity : Int) (p : Profile) :
    ((sample capacity).console p).dispatcher.registry = .standard := rfl

theorem sample_newId_injective (capacity : Int) : Function.Injective (sample capacity).newId := by
  intro m n hsame
  have hlists : List.replicate m 'i' = List.replicate n 'i' := String.ofList_injective hsame
  simpa using congrArg List.length hlists

end WebHost

end MissionConsole
