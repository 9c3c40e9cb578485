import MissionConsole.Web.EventStream
import Mathlib.Data.List.Basic

/-!
# What a stream writes

A stream looks into the queue of its client once for every turn it gets, while records come onto the
queue at any time between two turns. A look finds nothing and the stream waits, or finds nothing
once too often and breaks the silence; or it takes a record, and forwards it or passes it over. The
turns go on until the client has gone or as many records are forwarded as were asked for.

What was taken and what is still there are what was put on the queue, in order. What was forwarded
is what was taken and is for the stream, so nothing is written twice and nothing is left out.

## Main definitions

* `EventStream.IsFor` — a record is for a stream that asks for a session
* `EventStream.Look`, `EventStream.look` — what one look into the queue comes to
* `EventStream.Progress.advance`, `EventStream.run` — one poll, and a stream poll by poll
* `EventStream.Course` — a stream and all its looks, over the records that come before each turn
* `EventStream.Course.Sound` — what holds at every point of a course

## Main results

* `EventStream.poll_eq` — a poll does what its look says
* `EventStream.Process.turn_eq` — what a stream does from one question to the next is a poll
* `EventStream.serve_eq` — what a client is served are the polls of its stream
* `EventStream.Course.taken_step` — a turn takes the oldest record
* `EventStream.Course.Sound.step`, `EventStream.Course.Sound.after` — a turn, and a course, keeps a
  course sound
-/

namespace MissionConsole

namespace EventStream

/-! ### Records for a stream -/

/-- A record is for a stream: every record if no session is asked for, and otherwise each one that
carries the id of the session. -/
def IsFor (session : Option String) (record : Json) : Prop :=
  session = none ∨ session = some "" ∨
    ∃ id, session = some id ∧ record.field? "session_id" = some (.str id)

theorem wants_iff {s : EventStream} {record : Json} :
    s.wants record = true ↔ IsFor s.session record := by
  rw [wants, IsFor]
  cases s.session with
  | none => simp
  | some id =>
    cases record.field? "session_id" with
    | none => simp
    | some v =>
      cases v with
      | str other => simp [@eq_comm _ other]
      | _ => simp

instance (session : Option String) (record : Json) : Decidable (IsFor session record) :=
  decidable_of_iff ((start session 0).wants record = true) wants_iff

/-! ### Looks -/

/-- What one look into the queue comes to. -/
inductive Look where
  /-- Nothing is there. -/
  | waited
  /-- Nothing is there, and it is time to break the silence. -/
  | heartbeat
  /-- A record that is not for the stream. -/
  | passedOver (record : Json)
  /-- A record that is for the stream. -/
  | forwarded (record : Json)

namespace Look

/-- The frame that is written. -/
def text? : Look → Option String
  | heartbeat => some EventStream.heartbeat
  | forwarded record => some (frame record)
  | _ => none

/-- The record that is taken from the queue. -/
def taken? : Look → Option Json
  | passedOver record | forwarded record => some record
  | _ => none

/-- The record that is written. -/
def forwarded? : Look → Option Json
  | forwarded record => some record
  | _ => none

/-- Whether nothing was there. -/
def isIdle : Look → Bool
  | waited | heartbeat => true
  | _ => false

/-- Whether the silence is broken. -/
def isHeartbeat : Look → Bool
  | heartbeat => true
  | _ => false

theorem filterMap_text?_eq (looks : List Look) :
    (looks.filter (!·.isHeartbeat)).filterMap text? = (looks.filterMap forwarded?).map frame := by
  rw [List.filterMap_filter, List.map_filterMap]
  congr 1
  funext l
  cases l <;> rfl

end Look

theorem filterMap_concat {α : Type} (f : Look → Option α) (looks : List Look) (l : Look) :
    (looks ++ [l]).filterMap f = looks.filterMap f ++ (f l).toList := by
  rw [List.filterMap_append]
  cases h : f l <;> simp [h]

/-- What a look of a stream comes to, by what it finds. -/
def look (s : EventStream) : Option Json → Look
  | none => if heartbeatTicks ≤ s.idle + 1 then .heartbeat else .waited
  | some record => if s.wants record then .forwarded record else .passedOver record

/-- A stream after a look. -/
def noted (s : EventStream) : Look → EventStream
  | .waited => { s with idle := s.idle + 1 }
  | .heartbeat | .passedOver _ => { s with idle := 0 }
  | .forwarded _ => { s with idle := 0, sent := s.sent + 1 }

/-- Whether a stream ends with a look. -/
def endsWith (s : EventStream) : Look → Bool
  | .forwarded _ => s.limit != 0 && decide (s.limit ≤ (s.sent + 1 : Nat))
  | _ => false

/-- A poll does what its look says. -/
theorem poll_eq (s : EventStream) (found : Option Json) :
    s.poll found =
      (s.noted (s.look found), (s.look found).text?, s.endsWith (s.look found)) := by
  cases found with
  | none =>
    rw [poll, look]
    split <;> rfl
  | some record =>
    have hwants : ({ s with idle := 0 } : EventStream).wants record = s.wants record := rfl
    simp only [poll, look, hwants]
    split <;> rfl

section Look

variable (s : EventStream) (found : Option Json) (l : Look)

@[simp] theorem session_noted : (s.noted l).session = s.session := by cases l <;> rfl

@[simp] theorem limit_noted : (s.noted l).limit = s.limit := by cases l <;> rfl

@[simp] theorem sent_noted : (s.noted l).sent = s.sent + l.forwarded?.toList.length := by
  cases l <;> rfl

@[simp] theorem taken?_look : (s.look found).taken? = found := by
  cases found <;> rw [look] <;> split <;> rfl

@[simp] theorem isIdle_look : (s.look found).isIdle = found.isNone := by
  cases found <;> rw [look] <;> split <;> rfl

/-- A look forwards what it takes if that is for the stream. -/
theorem forwarded?_look :
    (s.look found).forwarded?.toList = found.toList.filter (IsFor s.session ·) := by
  cases found with
  | none =>
    rw [look]
    split <;> rfl
  | some record =>
    rw [look]
    split
    · rename_i hwants
      simp [Look.forwarded?, wants_iff.1 hwants]
    · rename_i hwants
      simp [Look.forwarded?, mt wants_iff.2 hwants]

variable {s l}

theorem endsWith_eq_true_iff : s.endsWith l = true ↔
    ∃ record, l = .forwarded record ∧ s.limit ≠ 0 ∧ s.limit ≤ (s.sent + 1 : Nat) := by
  cases l <;> simp [endsWith]

theorem of_endsWith_eq_false (h : s.endsWith l = false) :
    l.forwarded?.toList.length = 0 ∨ s.limit = 0 ∨ (s.noted l).sent < s.limit := by
  cases l with
  | forwarded record =>
    have hnot : ¬ (s.limit ≠ 0 ∧ s.limit ≤ (s.sent + 1 : Nat)) := fun ⟨hne, hle⟩ =>
      Bool.false_ne_true (h.symm.trans (endsWith_eq_true_iff.2 ⟨record, rfl, hne, hle⟩))
    have hsent : (s.noted (.forwarded record)).sent = s.sent + 1 := rfl
    omega
  | _ => exact .inl rfl

end Look

/-! ### Turns -/

/-- One poll: a look into the queue and, if it was empty, a wait. -/
def Progress.advance (arrivals : Arrivals) (p : Progress) : Progress × Bool :=
  match p.queue.pop? with
  | some (record, queue) =>
    let (stream, written, ends) := p.stream.poll (some record)
    ({ p with stream, queue, frames := p.frames ++ written.toList }, ends)
  | none =>
    let waits := p.waits + 1
    let (stream, written, ends) := p.stream.poll none
    ({ stream, waits
       queue := { p.queue with items := p.queue.items ++ arriving arrivals waits }
       frames := p.frames ++ written.toList }, ends)

/-- Polls until the stream ends or the client has gone, which is seen before the poll after the
count given. -/
def Progress.run (arrivals : Arrivals) : (polls : Nat) → Progress → Progress
  | 0, p => p
  | polls + 1, p =>
    match p.advance arrivals with
    | (p, true) => p
    | (p, false) => Progress.run arrivals polls p

/-- A stream from its first frame to its end. -/
def run (s : EventStream) (queue : Queue Json) (arrivals : Arrivals) (polls : Nat) : Progress :=
  Progress.run arrivals polls ⟨s, queue, [s.connected], 0⟩

namespace Progress

variable (p : Progress)

/-- What the next look comes to. -/
def look : Look := p.stream.look p.queue.items.head?

/-- Records come onto the queue. -/
def receive (came : List Json) : Progress :=
  { p with queue := { p.queue with items := p.queue.items ++ came } }

@[simp] theorem receive_nil : p.receive [] = p := by
  rw [receive, List.append_nil]

/-- The records that come during the wait after a look, if there is one. -/
def arrivingAfter (arrivals : Arrivals) (l : Look) : List Json :=
  if l.isIdle then arriving arrivals (p.waits + 1) else []

@[simp] theorem arrivingAfter_nil (l : Look) : p.arrivingAfter [] l = [] := ite_self _

/-- A poll by its look. -/
theorem advance_eq (arrivals : Arrivals) :
    p.advance arrivals =
      ({ stream := p.stream.noted p.look
         queue := { p.queue with
           items := p.queue.items.drop 1 ++ p.arrivingAfter arrivals p.look }
         frames := p.frames ++ p.look.text?.toList
         waits := p.waits + p.look.isIdle.toNat },
        p.stream.endsWith p.look) := by
  cases hitems : p.queue.items with
  | nil => simp [advance, Queue.pop?, hitems, poll_eq, look, arrivingAfter]
  | cons record rest => simp [advance, Queue.pop?, hitems, poll_eq, look, arrivingAfter]

end Progress

/-! ### From one question to the next -/

section Poll

variable {s stream : EventStream} {found : Option Json} {written : Option String} {ends : Bool}

theorem ends_of_poll_none (h : s.poll none = (stream, written, ends)) : ends = false := by
  rw [poll] at h
  split at h <;> exact (congrArg (·.2.2) h).symm

/-- Only a record that is written ends a stream. -/
theorem ends_of_unwritten (h : s.poll found = (stream, none, ends)) : ends = false := by
  rw [poll_eq, Prod.mk.injEq, Prod.mk.injEq] at h
  obtain ⟨-, htext, rfl⟩ := h
  cases hl : s.look found with
  | forwarded record => rw [hl] at htext; cases htext
  | waited | heartbeat | passedOver => rfl

end Poll

namespace Process

variable {p : Process} {polls : Nat} {arrivals : Arrivals}

/-- From one question to the next a stream polls once. It is over if it ends with that poll, and
asks again otherwise. -/
theorem turn_eq (hasking : p.halt = some .asking) (arrivals : Arrivals) :
    p.turn arrivals =
      ⟨(p.progress.advance arrivals).1, p.registered && !(p.progress.advance arrivals).2,
        if (p.progress.advance arrivals).2 then none else some .asking⟩ := by
  cases hpop : p.progress.queue.pop? with
  | none =>
    rcases hpoll : p.progress.stream.poll none with ⟨stream, written, ends⟩
    have hends : ends = false := ends_of_poll_none hpoll
    -- A wait, and behind it the heartbeat if there is one.
    cases written <;>
      simp [turn, step, resume, settle, due, after, look, wake, put, Progress.advance, hasking,
        hpop, hpoll, hends]
  | some found =>
    obtain ⟨record, queue⟩ := found
    rcases hpoll : p.progress.stream.poll (some record) with ⟨stream, written, ends⟩
    cases written with
    | none =>
      have hends : ends = false := ends_of_unwritten hpoll
      simp [turn, step, resume, settle, due, after, look, Progress.advance, hasking, hpop, hpoll,
        hends]
    | some text =>
      cases ends <;>
        simp [turn, step, resume, settle, due, after, look, finish, Progress.advance, hasking, hpop,
          hpoll]

theorem turn_of_over (h : p.halt = none) : p.turn arrivals = p := by
  simp [turn, step, resume, settle, due, after, h]

theorem drive_of_over (h : p.halt = none) : p.drive arrivals polls = p := by
  induction polls with
  | zero => rw [drive, step, resume, h]
  | succ polls ih => rw [drive, turn_of_over h, ih]

/-- A stream that asks takes one poll after the other, and has unregistered its client at the end of
them. -/
theorem drive_eq (hasking : p.halt = some .asking) :
    p.drive arrivals polls = ⟨p.progress.run arrivals polls, false, none⟩ := by
  induction polls generalizing p with
  | zero =>
    rw [drive, step, resume, hasking]
    rfl
  | succ polls ih =>
    rw [drive, turn_eq hasking, Progress.run]
    rcases p.progress.advance arrivals with ⟨q, ends⟩
    cases ends with
    | true =>
      rw [drive_of_over rfl]
      simp
    | false => exact ih rfl

end Process

/-- What a client of the feed is served are the polls of its stream; its client is then no longer
registered, and all others are as they were. -/
theorem serve_eq (s : EventStream) {f : Feed} {place : Nat} {client : Client}
    (hclient : f.clients[place]? = some client) (arrivals : Arrivals) (polls : Nat) :
    s.serve f place arrivals polls =
      (s.run client.queue arrivals polls,
        ⟨f.clients.set place ⟨(s.run client.queue arrivals polls).queue, false⟩⟩) := by
  have hasking : ((Process.start s client).settle arrivals).halt = some .asking := rfl
  rw [serve, hclient, Option.getD_some, Process.drive_eq hasking]
  rfl

/-- A stream, its looks so far, and whether it has ended. -/
structure Course where
  progress : Progress
  looks : List Look
  ended : Bool

namespace Course

/-- A stream that has written its first frame. -/
def start (session : Option String) (limit : Int) (queue : Queue Json) : Course :=
  ⟨⟨EventStream.start session limit, queue, [(EventStream.start session limit).connected], 0⟩, [],
    false⟩

/-- Records come onto the queue, and then the stream has a turn if it has not ended. -/
def step (c : Course) (came : List Json) : Course :=
  let p := c.progress.receive came
  if c.ended then { c with progress := p }
  else ⟨(p.advance []).1, c.looks ++ [p.look], (p.advance []).2⟩

/-- A stream after the turns of a schedule, which gives the records that come before each. -/
def after (c : Course) (schedule : List (List Json)) : Course := schedule.foldl step c

/-- The records that were taken from the queue. -/
def taken (c : Course) : List Json := c.looks.filterMap Look.taken?

/-- The records that were written. -/
def forwarded (c : Course) : List Json := c.looks.filterMap Look.forwarded?

variable {c : Course} {came : List Json}

theorem step_of_ended (h : c.ended = true) (came : List Json) :
    c.step came = { c with progress := c.progress.receive came } := if_pos h

theorem step_of_not_ended (h : c.ended = false) (came : List Json) :
    c.step came =
      ⟨((c.progress.receive came).advance []).1, c.looks ++ [(c.progress.receive came).look],
        ((c.progress.receive came).advance []).2⟩ := by
  rw [step, h, if_neg Bool.false_ne_true]

/-- A turn by its look. -/
theorem step_of_look {l : Look} (h : c.ended = false) (hlook : (c.progress.receive came).look = l) :
    c.step came =
      ⟨{ stream := c.progress.stream.noted l
         queue := { c.progress.queue with items := (c.progress.queue.items ++ came).drop 1 }
         frames := c.progress.frames ++ l.text?.toList
         waits := c.progress.waits + l.isIdle.toNat },
        c.looks ++ [l], c.progress.stream.endsWith l⟩ := by
  rw [step_of_not_ended h, Progress.advance_eq, Progress.arrivingAfter_nil, List.append_nil, hlook]
  rfl

/-- A turn takes the oldest record, if there is one. -/
theorem taken_step (h : c.ended = false) (came : List Json) :
    (c.step came).taken = c.taken ++ (c.progress.queue.items ++ came).take 1 := by
  have hlook : (c.progress.receive came).look.taken?.toList =
      (c.progress.queue.items ++ came).take 1 := by
    rw [Progress.look, taken?_look, List.take_one]
    rfl
  rw [step_of_not_ended h, taken, filterMap_concat, hlook]
  rfl

@[simp] theorem after_cons (c : Course) (came : List Json) (rest : List (List Json)) :
    c.after (came :: rest) = (c.step came).after rest := rfl

theorem after_append (c : Course) (schedule more : List (List Json)) :
    c.after (schedule ++ more) = (c.after schedule).after more := List.foldl_append

/-- What holds at every point of a course: what was put on the queue is taken or still there, what
is taken and for the stream is forwarded, and the stream ends as soon as it has forwarded as many
records as were asked for. -/
structure Sound (session : Option String) (limit : Int) (put : List Json) (c : Course) : Prop where
  session_eq : c.progress.stream.session = session
  limit_eq : c.progress.stream.limit = limit
  sent_eq : c.progress.stream.sent = c.forwarded.length
  frames_eq : c.progress.frames =
    (EventStream.start session limit).connected :: c.looks.filterMap Look.text?
  taken_append : c.taken ++ c.progress.queue.items = put
  forwarded_eq : c.forwarded = c.taken.filter (IsFor session ·)
  ongoing : c.ended = false → limit = 0 ∨ c.forwarded.length < limit
  atLimit : c.ended = true → 0 < limit ∧ c.forwarded.length = limit ∧
    ∃ earlier record, c.looks = earlier ++ [.forwarded record]

variable {session : Option String} {limit : Int} {put : List Json}

theorem sound_start (hlimit : 0 ≤ limit) (queue : Queue Json) :
    (Course.start session limit queue).Sound session limit queue.items where
  session_eq := rfl
  limit_eq := rfl
  sent_eq := rfl
  frames_eq := rfl
  taken_append := rfl
  forwarded_eq := rfl
  ongoing _ := (Int.lt_or_eq_of_le hlimit).symm.imp_left Eq.symm
  atLimit := nofun

namespace Sound

/-- A turn keeps a course sound. -/
theorem step (h : c.Sound session limit put) (came : List Json) :
    (c.step came).Sound session limit (put ++ came) := by
  have hitems : c.taken ++ (c.progress.queue.items ++ came) = put ++ came := by
    rw [← List.append_assoc, h.taken_append]
  cases hended : c.ended with
  | true =>
    rw [step_of_ended hended]
    exact { h with taken_append := hitems }
  | false =>
    obtain ⟨l, hlook⟩ : ∃ l, (c.progress.receive came).look = l := ⟨_, rfl⟩
    have htaken := taken_step hended came
    have hforwarded : l.forwarded?.toList = l.taken?.toList.filter (IsFor session ·) := by
      rw [← hlook, Progress.look, forwarded?_look, taken?_look, ← h.session_eq]
      rfl
    have hforwardedAll : (c.looks ++ [l]).filterMap Look.forwarded? =
        c.forwarded ++ l.forwarded?.toList := filterMap_concat ..
    have htakenAll : (c.looks ++ [l]).filterMap Look.taken? = c.taken ++ l.taken?.toList :=
      filterMap_concat ..
    rw [step_of_look hended hlook] at htaken ⊢
    constructor
    case session_eq => rw [session_noted, h.session_eq]
    case limit_eq => rw [limit_noted, h.limit_eq]
    case sent_eq => rw [sent_noted, forwarded, hforwardedAll, List.length_append, h.sent_eq]
    case frames_eq => rw [filterMap_concat, h.frames_eq, List.cons_append]
    case taken_append =>
      rw [htaken, List.append_assoc, List.take_append_drop, hitems]
    case forwarded_eq =>
      rw [forwarded, taken, hforwardedAll, htakenAll, List.filter_append, h.forwarded_eq,
        hforwarded]
    case ongoing =>
      intro hends
      have hbelow := h.ongoing hended
      have hsent := of_endsWith_eq_false hends
      rw [sent_noted, h.sent_eq, h.limit_eq] at hsent
      rw [forwarded, hforwardedAll, List.length_append]
      omega
    case atLimit =>
      intro hends
      obtain ⟨record, hl, hne, hle⟩ := endsWith_eq_true_iff.1 hends
      have hone : l.forwarded?.toList.length = 1 := by rw [hl]; rfl
      -- Before this look the count was below the limit, so it has come to it and no further.
      have hbelow := h.ongoing hended
      rw [h.limit_eq] at hne hle
      rw [h.sent_eq] at hle
      rw [forwarded, hforwardedAll, List.length_append, hone]
      exact ⟨by omega, by omega, c.looks, record, by rw [hl]⟩

/-- So does a course. -/
theorem after (h : c.Sound session limit put) (schedule : List (List Json)) :
    (c.after schedule).Sound session limit (put ++ schedule.flatten) := by
  induction schedule generalizing c put with
  | nil => rwa [List.flatten_nil, List.append_nil]
  | cons came rest ih =>
    rw [List.flatten_cons, ← List.append_assoc]
    exact ih (h.step came)

end Sound

end Course

end EventStream

end MissionConsole
