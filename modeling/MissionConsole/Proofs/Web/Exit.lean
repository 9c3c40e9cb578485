import MissionConsole.Proofs.Web.Stream
import Mathlib.Data.List.Basic

/-!
# How a stream ends

A stream can be stopped wherever it stands, and records come onto its queue at any time between two
of its steps. Whatever happens, what it has written are the looks of a course, so nothing that it
has taken is lost or written twice, and it takes nothing more once it has forwarded as many records
as were asked for.

With its last step a stream unregisters its client and leaves all others as they are, also if its
client is no longer registered by then. There is one exception. A stream that is closed at its first
frame leaves its client registered, and the records of the feed keep coming onto a queue into which
nobody looks, until it is full.

## Main definitions

* `EventStream.Process.puts` — the records that are put on the queue
* `EventStream.Process.Follows` — a stream goes along a course
* `EventStream.Process.Exact` — what a stream has written of what was put on its queue
* `EventStream.Process.IsDone` — a stream that takes nothing more
* `EventStream.Process.Ends` — when a stream ends, and what it leaves
* `EventStream.Process.cutAtOnce` — a stream is closed at its first frame

## Main results

* `EventStream.Process.Follows.step`, `EventStream.Process.Follows.after` — whatever happens to a
  stream, it goes on along its course
* `EventStream.Process.registered_after_iff` — the streams that leave their client registered
* `EventStream.Process.exists_drive` — a stream over a schedule is one that nobody stops
* `EventStream.stream_exact` — what a stream takes and writes, when it ends and what it leaves
* `EventStream.registered_after_cut` — a client that nobody serves any more is still registered
-/

namespace MissionConsole

namespace Feed

/-- A client that leaves takes no other one with it. -/
theorem registered_unregister (f : Feed) (place : Nat) :
    (f.unregister place).registered = (f.clients.eraseIdx place).filter (·.registered) := by
  obtain ⟨clients⟩ := f
  simp only [unregister, registered]
  induction clients generalizing place with
  | nil => rw [List.modify_nil, List.eraseIdx_nil]
  | cons c rest ih =>
    cases place with
    | zero => simp [Client.leave]
    | succ place => simp [List.filter_cons, ih]

end Feed

namespace EventStream

/-- Whether a stream has written the last record that is wanted. -/
def Halt.isLast : Halt → Bool
  | forwarding last => last
  | _ => false

namespace Process

variable {p : Process} {a : Action}

/-! ### Records that come -/

/-- The records that something puts on the queue. -/
def Action.records : Action → List Json
  | .put records => records
  | _ => []

/-- The records that are put on the queue by all that happens. -/
def puts (actions : List Action) : List Json := actions.flatMap Action.records

@[simp] theorem puts_cons (a : Action) (rest : List Action) :
    puts (a :: rest) = a.records ++ puts rest := rfl

@[simp] theorem puts_append (actions more : List Action) :
    puts (actions ++ more) = puts actions ++ puts more := List.flatMap_append

@[simp] theorem after_cons (p : Process) (a : Action) (rest : List Action) :
    p.after (a :: rest) = (p.step a).after rest := rfl

theorem after_append (p : Process) (actions more : List Action) :
    p.after (actions ++ more) = (p.after actions).after more := List.foldl_append

/-! ### Steps -/

theorem look_of_nil (hitems : p.progress.queue.items = []) :
    p.look =
      { p with
        progress := { p.progress with waits := p.progress.waits + 1 }
        halt := some .waiting } := by
  rw [look, Queue.pop?, hitems]

/-- A look that finds a record does what it comes to. -/
theorem look_of_cons {record : Json} {rest : List Json} {l : Look}
    (hitems : p.progress.queue.items = record :: rest)
    (hlook : p.progress.stream.look (some record) = l) :
    p.look =
      { p with
        progress := { p.progress with
          stream := p.progress.stream.noted l
          queue := { p.progress.queue with items := rest }
          frames := p.progress.frames ++ l.text?.toList }
        halt := some (if l.text?.isSome then .forwarding (p.progress.stream.endsWith l)
          else .asking) } := by
  subst hlook
  rw [look, Queue.pop?, hitems]
  simp only [poll_eq]

/-- The end of a wait is what a look that finds nothing comes to. -/
theorem wake_eq {l : Look} (hlook : p.progress.stream.look none = l) :
    p.wake =
      { p with
        progress := { p.progress with
          stream := p.progress.stream.noted l
          frames := p.progress.frames ++ l.text?.toList }
        halt := some (if l.text?.isSome then .heartbeat else .asking) } := by
  subst hlook
  rw [wake, poll_eq]

theorem step_of_asking (hasking : p.halt = some .asking) : p.step (.resume false) = p.look := by
  rw [step, resume, hasking]
  rfl

/-- A stream that asks takes the oldest record, if there is one. -/
theorem items_step_of_asking (hasking : p.halt = some .asking) :
    (p.step (.resume false)).progress.queue.items = p.progress.queue.items.drop 1 := by
  rw [step_of_asking hasking]
  cases hitems : p.progress.queue.items with
  | nil =>
    rw [look_of_nil hitems]
    exact hitems
  | cons record rest => rw [look_of_cons hitems rfl, List.drop_one, List.tail_cons]

/-! ### Courses -/

/-- A stream goes along a course, with the records on its queue that have come since its last look.
A stream that waits has found nothing, and is yet to count it. -/
structure Follows (c : Course) (left : List Json) (p : Process) : Prop where
  stream_eq : p.progress.stream = c.progress.stream
  frames_eq : p.progress.frames = c.progress.frames
  items_eq : p.progress.queue.items = c.progress.queue.items ++ left
  ended_eq : ∀ h, p.halt = some h → c.ended = h.isLast
  waiting : p.halt = some .waiting → c.progress.queue.items = []

variable {c : Course} {left : List Json}

theorem follows_start (session : Option String) (limit : Int) (client : Client) :
    (Process.start (.start session limit) client).Follows
      (Course.start session limit client.queue) [] where
  stream_eq := rfl
  frames_eq := rfl
  items_eq := (List.append_nil _).symm
  ended_eq := by rintro _ ⟨⟩; rfl
  waiting := nofun

namespace Follows

/-- A stream that is over follows its course still. -/
theorem ended (hp : p.Follows c left) (registered : Bool) :
    Follows c left { p with registered, halt := none } :=
  { hp with ended_eq := nofun, waiting := nofun }

theorem asking (hp : p.Follows c left) (hended : c.ended = false) :
    Follows c left { p with halt := some .asking } :=
  { hp with ended_eq := by rintro _ ⟨⟩; exact hended, waiting := nofun }

/-- A look is a turn of the course if it finds a record; otherwise the turn comes with the end of
the wait. -/
theorem look (hp : p.Follows c left) (hended : c.ended = false) :
    ∃ schedule rest, p.look.Follows (c.after schedule) rest ∧ left = schedule.flatten ++ rest := by
  cases hitems : p.progress.queue.items with
  | nil =>
    -- The course has nothing to take either, so its turn is put off to the end of the wait.
    have hempty : c.progress.queue.items = [] ∧ left = [] :=
      List.append_eq_nil_iff.1 (hp.items_eq ▸ hitems)
    refine ⟨[], left, ?_, rfl⟩
    rw [look_of_nil hitems]
    exact { hp with ended_eq := by rintro _ ⟨⟩; exact hended, waiting := fun _ => hempty.1 }
  | cons record rest =>
    obtain ⟨l, hl⟩ : ∃ l, p.progress.stream.look (some record) = l := ⟨_, rfl⟩
    have hfound : c.progress.queue.items ++ left = record :: rest := hp.items_eq ▸ hitems
    have hlook : (c.progress.receive left).look = l := by
      rw [Progress.look, Progress.receive, hfound, ← hl, hp.stream_eq]
      rfl
    refine ⟨[left], [], ?_, by simp⟩
    rw [look_of_cons hitems hl, Course.after_cons, Course.step_of_look hended hlook, hfound,
      hp.stream_eq]
    refine ⟨rfl, congrArg (· ++ l.text?.toList) hp.frames_eq, (List.append_nil rest).symm, ?_, ?_⟩
    · rintro _ ⟨⟩
      cases l <;> rfl
    · intro hwaiting
      cases l <;> cases hwaiting

/-- The end of a wait is the turn of a course that finds nothing. -/
theorem wake (hp : p.Follows c left) (hwaiting : p.halt = some .waiting) :
    p.wake.Follows (c.after [[]]) left := by
  obtain ⟨l, hl⟩ : ∃ l, p.progress.stream.look none = l := ⟨_, rfl⟩
  have hempty : c.progress.queue.items = [] := hp.waiting hwaiting
  have hlook : (c.progress.receive []).look = l := by
    rw [Progress.receive_nil, Progress.look, hempty, ← hl, hp.stream_eq]
    rfl
  rw [wake_eq hl, Course.after_cons, Course.step_of_look (hp.ended_eq _ hwaiting) hlook, hempty,
    hp.stream_eq]
  refine ⟨rfl, congrArg (· ++ l.text?.toList) hp.frames_eq, ?_, ?_, ?_⟩
  · exact hp.items_eq.trans (congrArg (· ++ left) hempty)
  · rintro _ ⟨⟩
    rw [EventStream.look] at hl
    split at hl <;> (subst hl; rfl)
  · exact fun _ => rfl

/-- A step takes a stream along its course. -/
theorem resume (hp : p.Follows c left) (gone : Bool) :
    ∃ schedule rest, (p.resume gone).Follows (c.after schedule) rest ∧
      left = schedule.flatten ++ rest := by
  cases hhalt : p.halt with
  | none =>
    rw [Process.resume, hhalt]
    exact ⟨[], left, hp, rfl⟩
  | some h =>
    have hended : c.ended = h.isLast := hp.ended_eq h hhalt
    rw [Process.resume, hhalt]
    cases h with
    | asking =>
      cases gone with
      | false => exact hp.look hended
      | true => exact ⟨[], left, hp.ended false, rfl⟩
    | waiting => exact ⟨[[]], left, hp.wake hhalt, rfl⟩
    | connecting | heartbeat => exact ⟨[], left, hp.asking hended, rfl⟩
    | forwarding last =>
      cases last with
      | false => exact ⟨[], left, hp.asking hended, rfl⟩
      | true => exact ⟨[], left, hp.ended false, rfl⟩

/-- Whatever happens to it, a stream goes on along its course. -/
theorem step (hp : p.Follows c left) (a : Action) :
    ∃ schedule rest, (p.step a).Follows (c.after schedule) rest ∧
      left ++ a.records = schedule.flatten ++ rest := by
  cases a with
  | resume gone =>
    have hnone : (Action.resume gone).records = [] := rfl
    rw [hnone, List.append_nil]
    exact hp.resume gone
  | cut =>
    refine ⟨[], left, ?_, List.append_nil left⟩
    rw [Process.step, cut]
    split
    · exact hp
    · exact hp.ended p.registered
    · exact hp.ended false
  | put records =>
    refine ⟨[], left ++ records, { hp with items_eq := ?_ }, rfl⟩
    exact (congrArg (· ++ records) hp.items_eq).trans (List.append_assoc ..)
  | drop => exact ⟨[], left, { hp with }, List.append_nil left⟩

/-- So it does through all that happens. -/
theorem after (hp : p.Follows c left) (actions : List Action) :
    ∃ schedule rest, (p.after actions).Follows (c.after schedule) rest ∧
      left ++ puts actions = schedule.flatten ++ rest := by
  induction actions generalizing p c left with
  | nil => exact ⟨[], left, hp, List.append_nil left⟩
  | cons a later ih =>
    obtain ⟨schedule, rest, hstep, hrecords⟩ := hp.step a
    obtain ⟨more, last, hafter, hputs⟩ := ih hstep
    refine ⟨schedule ++ more, last, ?_, ?_⟩
    · rwa [Course.after_append]
    · rw [puts_cons, ← List.append_assoc, hrecords, List.append_assoc, hputs, List.flatten_append,
        List.append_assoc]

end Follows

/-! ### The last record -/

/-- A stream takes nothing more: it is over, or has written the last record that is wanted. -/
def IsDone (p : Process) : Prop := p.halt = none ∨ p.halt = some (.forwarding true)

namespace IsDone

theorem step (h : p.IsDone) (a : Action) :
    (p.step a).IsDone ∧ (p.step a).progress.frames = p.progress.frames ∧
      (p.step a).progress.queue.items = p.progress.queue.items ++ a.records := by
  cases a with
  | resume gone =>
    rw [Process.step, Process.resume]
    rcases h with hover | hlast
    · rw [hover]
      exact ⟨.inl hover, rfl, (List.append_nil _).symm⟩
    · rw [hlast]
      exact ⟨.inl rfl, rfl, (List.append_nil _).symm⟩
  | cut =>
    rw [Process.step, cut]
    rcases h with hover | hlast
    · rw [hover]
      exact ⟨.inl hover, rfl, (List.append_nil _).symm⟩
    · rw [hlast]
      exact ⟨.inl rfl, rfl, (List.append_nil _).symm⟩
  | put records => exact ⟨h, rfl, rfl⟩
  | drop => exact ⟨h, rfl, (List.append_nil _).symm⟩

/-- Whatever comes onto the queue of such a stream stays there, and nothing more is written. -/
theorem after (h : p.IsDone) (actions : List Action) :
    (p.after actions).progress.frames = p.progress.frames ∧
      (p.after actions).progress.queue.items = p.progress.queue.items ++ puts actions := by
  induction actions generalizing p with
  | nil => exact ⟨rfl, (List.append_nil _).symm⟩
  | cons a rest ih =>
    obtain ⟨hdone, hframes, hitems⟩ := h.step a
    obtain ⟨hframesRest, hitemsRest⟩ := ih hdone
    rw [after_cons, puts_cons, ← List.append_assoc, ← hitems, ← hframes]
    exact ⟨hframesRest, hitemsRest⟩

end IsDone

theorem Follows.isDone (hp : p.Follows c left) (hended : c.ended = true) : p.IsDone := by
  cases hhalt : p.halt with
  | none => exact .inl hhalt
  | some h =>
    have hlast : h.isLast = true := (hp.ended_eq h hhalt).symm.trans hended
    cases h with
    | forwarding last => exact .inr (hlast ▸ hhalt)
    | connecting | asking | waiting | heartbeat => cases hlast

/-- What a stream has written of what was put on its queue, by its looks. -/
structure Exact (session : Option String) (limit : Int) (put : List Json) (p : Process)
    (looks : List Look) : Prop where
  /-- The first frame comes first, and then each look has written its own. -/
  frames_eq : p.progress.frames =
    (EventStream.start session limit).connected :: looks.filterMap Look.text?
  /-- Heartbeats aside, the frames are the records that were forwarded. -/
  records_eq : (looks.filter (!·.isHeartbeat)).filterMap Look.text? =
    (looks.filterMap Look.forwarded?).map frame
  /-- Those are the ones for the stream among all that were taken. -/
  forwarded_eq : looks.filterMap Look.forwarded? =
    (looks.filterMap Look.taken?).filter (IsFor session ·)
  /-- What was taken and what is still there are what was put on the queue. -/
  taken_append : looks.filterMap Look.taken? ++ p.progress.queue.items = put
  within : limit = 0 ∨ (looks.filterMap Look.forwarded?).length ≤ limit
  last : p.halt = some (.forwarding true) →
    0 < limit ∧ (looks.filterMap Look.forwarded?).length = limit
  /-- The last record that is wanted is the last that is taken, and nothing is written behind it. -/
  done : 0 < limit → (looks.filterMap Look.forwarded?).length = limit →
    p.IsDone ∧ (∃ earlier record, looks = earlier ++ [.forwarded record]) ∧
      ∀ more, (p.after more).progress.frames = p.progress.frames ∧
        (p.after more).progress.queue.items = p.progress.queue.items ++ puts more

theorem exists_exact (session : Option String) {limit : Int} (hlimit : 0 ≤ limit) (client : Client)
    (actions : List Action) :
    ∃ looks, ((Process.start (.start session limit) client).after actions).Exact session limit
      (client.queue.items ++ puts actions) looks := by
  obtain ⟨schedule, rest, hp, hputs⟩ :=
    (follows_start session limit client).after actions
  have hstart : (Course.start session limit client.queue).Sound session limit client.queue.items :=
    Course.sound_start hlimit client.queue
  have hsound := hstart.after schedule
  set c := (Course.start session limit client.queue).after schedule
  refine ⟨c.looks, ?_⟩
  constructor
  case frames_eq => exact hp.frames_eq.trans hsound.frames_eq
  case records_eq => exact Look.filterMap_text?_eq c.looks
  case forwarded_eq => exact hsound.forwarded_eq
  case taken_append =>
    rw [hp.items_eq, ← List.append_assoc]
    exact (congrArg (· ++ rest) hsound.taken_append).trans
      ((List.append_assoc ..).trans (congrArg (client.queue.items ++ ·) hputs.symm))
  case within =>
    cases hended : c.ended with
    | false => exact (hsound.ongoing hended).imp_right Int.le_of_lt
    | true => exact .inr (Int.le_of_eq (hsound.atLimit hended).2.1)
  case last =>
    intro hlast
    obtain ⟨hpos, hlength, -⟩ := hsound.atLimit (hp.ended_eq _ hlast)
    exact ⟨hpos, hlength⟩
  case done =>
    intro hpos hlength
    have hended : c.ended = true := by
      by_contra hgoing
      have hbelow := hsound.ongoing (eq_false_of_ne_true hgoing)
      rw [Course.forwarded, hlength] at hbelow
      omega
    have hdone := hp.isDone hended
    exact ⟨hdone, (hsound.atLimit hended).2.2, hdone.after⟩

/-! ### Ends -/

/-- Where a look leads to. -/
theorem look_halt (p : Process) :
    p.look.halt = some .waiting ∨ p.look.halt = some .asking ∨
      ∃ last, p.look.halt = some (.forwarding last) := by
  rw [look]
  split
  · simp only [Option.some.injEq]
    split <;> simp
  · exact .inl rfl

/-- Where the end of a wait leads to. -/
theorem wake_halt (p : Process) : p.wake.halt = some .heartbeat ∨ p.wake.halt = some .asking := by
  rw [wake]
  simp only [Option.some.injEq]
  split <;> simp

/-- A stream ends when it is closed, when it hears that its client has gone, and when it goes on
behind the last record that is wanted. -/
theorem step_halt_eq_none_iff {h : Halt} (hp : p.halt = some h) (a : Action) :
    (p.step a).halt = none ↔
      a = .cut ∨ (h = .asking ∧ a = .resume true) ∨
        (h = .forwarding true ∧ ∃ gone, a = .resume gone) := by
  cases a with
  | resume gone =>
    rw [step, resume, hp]
    cases h with
    | asking =>
      cases gone with
      | false => rcases p.look_halt with hlook | hlook | ⟨last, hlook⟩ <;> simp [hlook]
      | true => simp [finish]
    | waiting => rcases p.wake_halt with hwake | hwake <;> simp [hwake]
    | forwarding last => cases last <;> simp [finish]
    | connecting | heartbeat => simp
  | cut =>
    rw [step, cut, hp]
    cases h <;> simp [finish]
  | put records => simp [step, put, hp]
  | drop => simp [step, hp]

/-- With its last step a stream changes nothing but the registration of its client. -/
theorem step_of_halt_eq_none {h : Halt} (hp : p.halt = some h) (hover : (p.step a).halt = none) :
    p.step a = if h = .connecting then { p with halt := none } else p.finish := by
  rcases (step_halt_eq_none_iff hp a).1 hover with rfl | ⟨rfl, rfl⟩ | ⟨rfl, gone, rfl⟩
  · rw [step, cut, hp]
    cases h <;> rfl
  · rw [step, resume, hp]
    rfl
  · rw [step, resume, hp]
    rfl

theorem inFeed_finish (p : Process) (f : Feed) (place : Nat) :
    p.finish.inFeed f place = (p.inFeed f place).unregister place := by
  refine congrArg Feed.mk (List.ext_getElem? fun n => ?_)
  simp only [inFeed, finish, List.getElem?_modify, List.getElem?_set]
  split
  · split <;> rfl
  · exact Option.map_id'.symm

/-- When a stream that stands somewhere ends, and what it leaves. -/
structure Ends (p : Process) (h : Halt) : Prop where
  over_iff : ∀ a, (p.step a).halt = none ↔
    a = .cut ∨ (h = .asking ∧ a = .resume true) ∨ (h = .forwarding true ∧ ∃ gone, a = .resume gone)
  /-- It takes and writes nothing with its end. -/
  progress_eq : ∀ a, (p.step a).halt = none → (p.step a).progress = p.progress
  /-- Its client is no longer registered, and the others are, in the same order. -/
  leaves : h ≠ .connecting → ∀ a, (p.step a).halt = none → ∀ f place,
    (p.step a).inFeed f place = (p.inFeed f place).unregister place ∧
      ((p.step a).inFeed f place).registered =
        (f.clients.eraseIdx place).filter (·.registered)
  /-- At its first frame everybody stays registered, itself included. -/
  stays : h = .connecting → ∀ a, (p.step a).halt = none → ∀ f place,
    (p.step a).inFeed f place = p.inFeed f place

theorem ends {h : Halt} (hp : p.halt = some h) : p.Ends h where
  over_iff := step_halt_eq_none_iff hp
  progress_eq a hover := by
    rw [step_of_halt_eq_none hp hover]
    split <;> rfl
  leaves hne a hover f place := by
    rw [step_of_halt_eq_none hp hover, if_neg hne, inFeed_finish, Feed.registered_unregister]
    exact ⟨rfl, congrArg (·.filter Client.registered) List.eraseIdx_set_eq⟩
  stays heq a hover f place := by
    rw [step_of_halt_eq_none hp hover, if_pos heq]
    rfl

/-! ### Who stays registered -/

/-- Whether a stream is closed at its first frame: before it goes on for the first time. -/
def cutAtOnce : List Action → Bool
  | .cut :: _ => true
  | .put _ :: rest | .drop :: rest => cutAtOnce rest
  | .resume _ :: _ | [] => false

/-- Once a stream is over, its client stays registered until it is found with a full queue. -/
theorem registered_after_of_over (hover : p.halt = none) (actions : List Action) :
    (p.after actions).registered = true ↔ p.registered = true ∧ .drop ∉ actions := by
  induction actions generalizing p with
  | nil => simp [after]
  | cons a rest ih =>
    have hrest : (p.step a).halt = none := by
      cases a <;> simp [step, resume, cut, put, hover]
    rw [after_cons, ih hrest]
    cases a <;> simp [step, resume, cut, put, hover]

/-- No stream gets back to its first frame. -/
theorem step_halt_ne_connecting (hp : p.halt ≠ some .connecting) (a : Action) :
    (p.step a).halt ≠ some .connecting := by
  cases a with
  | resume gone =>
    rw [step, resume]
    split
    · exact hp
    · split
      · simp [finish]
      · rcases p.look_halt with hlook | hlook | ⟨last, hlook⟩ <;> simp [hlook]
    · rcases p.wake_halt with hwake | hwake <;> simp [hwake]
    all_goals simp [finish]
  | cut =>
    rw [step, cut]
    split
    · exact hp
    all_goals simp [finish]
  | put records => exact hp
  | drop => exact hp

/-- A stream that has got behind its first frame, and whose client is not registered once it is
over. -/
structure Tidy (p : Process) : Prop where
  begun : p.halt ≠ some .connecting
  unregistered : p.halt = none → p.registered = false

theorem Tidy.step (hp : p.Tidy) (a : Action) : (p.step a).Tidy where
  begun := step_halt_ne_connecting hp.begun a
  unregistered hover := by
    cases hhalt : p.halt with
    | none =>
      have hregistered : p.registered = false := hp.unregistered hhalt
      cases a <;> simp [Process.step, resume, cut, put, hhalt, hregistered]
    | some h =>
      have hne : h ≠ .connecting := fun heq => hp.begun (heq ▸ hhalt)
      rw [step_of_halt_eq_none hhalt hover, if_neg hne]
      rfl

theorem Tidy.after (hp : p.Tidy) (actions : List Action) : (p.after actions).Tidy := by
  induction actions generalizing p with
  | nil => exact hp
  | cons a rest ih => exact ih (hp.step a)

/-- A stream that is over has left its client registered just when it was closed at its first frame
and its client was never found with a full queue. -/
theorem registered_after_iff (hp : p.halt = some .connecting) (actions : List Action)
    (hover : (p.after actions).halt = none) :
    (p.after actions).registered = true ↔
      p.registered = true ∧ .drop ∉ actions ∧ cutAtOnce actions = true := by
  induction actions generalizing p with
  | nil => exact absurd (hp.symm.trans hover) (Option.some_ne_none _)
  | cons a rest ih =>
    rw [after_cons] at hover ⊢
    cases a with
    | resume gone =>
      have hasking : (p.step (.resume gone)).halt = some .asking := by rw [step, resume, hp]
      have htidy : (p.step (.resume gone)).Tidy := by
        constructor <;> simp [hasking]
      rw [(htidy.after rest).unregistered hover]
      simp [cutAtOnce]
    | cut =>
      have hcut : p.step .cut = { p with halt := none } := by rw [step, cut, hp]
      rw [hcut, registered_after_of_over rfl]
      simp [cutAtOnce]
    | put records =>
      rw [@ih (p.step (.put records)) hp hover]
      simp [cutAtOnce, step, put]
    | drop =>
      rw [@ih (p.step .drop) hp hover]
      simp [step]

/-! ### The feed -/

/-- When a record is copied to all clients, it is put on the queue of a stream, or its client is
found with a full queue, or nothing happens to it. -/
theorem exists_fanOut (p : Process) (f : Feed) (place : Nat) (record : Json) :
    ∃ actions, (actions = [] ∨ actions = [.put [record]] ∨ actions = [.drop]) ∧
      (p.inFeed f place).fanOut record = (p.after actions).inFeed (f.fanOut record) place := by
  have hfanOut : (p.inFeed f place).fanOut record =
      ⟨(f.clients.map (Client.receive record)).set place
        (Client.receive record ⟨p.progress.queue, p.registered⟩)⟩ :=
    congrArg Feed.mk List.map_set
  rw [hfanOut, Client.receive, Queue.offer?]
  split_ifs
  · exact ⟨[.drop], .inr (.inr rfl), rfl⟩
  · exact ⟨[.put [record]], .inr (.inl rfl), rfl⟩
  · exact ⟨[], .inl rfl, rfl⟩

end Process

/-! ### Schedules -/

/-- The records that arrive during the first waits. -/
def arrived (arrivals : Arrivals) (waits : Nat) : List Json :=
  (List.range waits).flatMap fun n => arriving arrivals (n + 1)

theorem arrived_succ (arrivals : Arrivals) (waits : Nat) :
    arrived arrivals (waits + 1) = arrived arrivals waits ++ arriving arrivals (waits + 1) := by
  rw [arrived, arrived, List.range_succ, List.flatMap_append, List.flatMap_singleton]

theorem Progress.arrived_advance (p : Progress) (arrivals : Arrivals) :
    arrived arrivals (p.advance arrivals).1.waits =
      arrived arrivals p.waits ++ p.arrivingAfter arrivals p.look := by
  have hwaits : (p.advance arrivals).1.waits = p.waits + p.look.isIdle.toNat := by rw [advance_eq]
  rw [hwaits, arrivingAfter]
  cases p.look.isIdle with
  | true => exact arrived_succ arrivals p.waits
  | false => exact (List.append_nil _).symm

namespace Process

variable {p : Process} (arrivals : Arrivals)

/-- What happens to a stream from one question to the next. -/
def turnActions (p : Process) : List Action :=
  let asked := p.step (.resume false)
  .resume false :: (asked.due arrivals ++ (asked.settle arrivals).due arrivals)

theorem turn_eq_after (p : Process) : p.turn arrivals = p.after (p.turnActions arrivals) := by
  rw [turnActions, after_cons, after_append]
  rfl

/-- Nobody stops a stream over a schedule. -/
theorem ordinary_due (p : Process) : .cut ∉ p.due arrivals ∧ .drop ∉ p.due arrivals := by
  rw [due]
  split <;> simp

theorem ordinary_turnActions (p : Process) :
    .cut ∉ p.turnActions arrivals ∧ .drop ∉ p.turnActions arrivals := by
  simp [turnActions, ordinary_due]

theorem puts_due_of_ne (hp : p.halt ≠ some .waiting) : puts (p.due arrivals) = [] := by
  cases hhalt : p.halt with
  | none => rw [due, hhalt]; rfl
  | some h =>
    cases h with
    | waiting => exact absurd hhalt hp
    | connecting | asking | heartbeat | forwarding => rw [due, hhalt]; rfl

theorem settle_halt_ne_waiting (p : Process) : (p.settle arrivals).halt ≠ some .waiting := by
  cases hhalt : p.halt with
  | none => simp [settle, due, after, hhalt]
  | some h =>
    cases h with
    | waiting =>
      have hwake : p.settle arrivals = (p.put (arriving arrivals p.progress.waits)).wake := by
        simp [settle, due, after, step, resume, put, hhalt]
      rw [hwake]
      rcases wake_halt (p.put (arriving arrivals p.progress.waits)) with hbeat | hasking
      · simp [hbeat]
      · simp [hasking]
    | forwarding last => cases last <;> simp [settle, due, after, step, resume, finish, hhalt]
    | connecting | asking | heartbeat => simp [settle, due, after, step, resume, hhalt]

/-- Between two questions comes what arrives during the wait, if there is one. -/
theorem puts_turnActions (hasking : p.halt = some .asking) :
    puts (p.turnActions arrivals) = p.progress.arrivingAfter arrivals p.progress.look := by
  rw [turnActions, step_of_asking hasking, puts_cons, puts_append,
    puts_due_of_ne arrivals (p.look.settle_halt_ne_waiting arrivals), List.append_nil,
    Progress.arrivingAfter, Progress.look, isIdle_look]
  cases hitems : p.progress.queue.items with
  | nil =>
    rw [look_of_nil hitems]
    exact List.append_nil _
  | cons record rest =>
    refine puts_due_of_ne arrivals ?_
    rw [look_of_cons hitems rfl]
    simp only [ne_eq, Option.some.injEq]
    split <;> simp

/-- A stream over a schedule is one that nobody stops, and on whose queue comes what arrives during
its waits. -/
theorem exists_drive (polls : Nat) (hasking : p.halt = some .asking) :
    ∃ actions, p.drive arrivals polls = p.after actions ∧ .cut ∉ actions ∧ .drop ∉ actions ∧
      arrived arrivals p.progress.waits ++ puts actions =
        arrived arrivals (p.drive arrivals polls).progress.waits := by
  induction polls generalizing p with
  | zero =>
    refine ⟨[.resume true], rfl, by simp, by simp, ?_⟩
    rw [drive, step, resume, hasking]
    exact List.append_nil _
  | succ polls ih =>
    obtain ⟨hcut, hdrop⟩ := ordinary_turnActions arrivals p
    have hturn := turn_eq hasking arrivals
    have hputs : arrived arrivals p.progress.waits ++ puts (p.turnActions arrivals) =
        arrived arrivals (p.turn arrivals).progress.waits := by
      rw [hturn, puts_turnActions arrivals hasking, Progress.arrived_advance]
    cases hends : (p.progress.advance arrivals).2 with
    | true =>
      have hover : (p.turn arrivals).halt = none := by rw [hturn, hends]; rfl
      rw [drive, drive_of_over hover]
      exact ⟨p.turnActions arrivals, turn_eq_after arrivals p, hcut, hdrop, hputs⟩
    | false =>
      have hagain : (p.turn arrivals).halt = some .asking := by rw [hturn, hends]; rfl
      obtain ⟨later, hdrive, hcutLater, hdropLater, hputsLater⟩ := ih hagain
      refine ⟨p.turnActions arrivals ++ later, ?_, ?_, ?_, ?_⟩
      · rw [drive, hdrive, after_append, turn_eq_after]
      · exact fun hmem => (List.mem_append.1 hmem).elim hcut hcutLater
      · exact fun hmem => (List.mem_append.1 hmem).elim hdrop hdropLater
      · rw [puts_append, ← List.append_assoc, hputs, hputsLater, drive]

end Process

/-! ### The stream of a client -/

/-- The stream that a client of the feed is served is one that nobody stops and that is over at the
end. -/
theorem exists_serve (s : EventStream) {f : Feed} {place : Nat} {client : Client}
    (hclient : f.clients[place]? = some client) (arrivals : Arrivals) (polls : Nat) :
    ∃ actions, .cut ∉ actions ∧ .drop ∉ actions ∧
      Process.puts actions = arrived arrivals (s.serve f place arrivals polls).1.waits ∧
      ((Process.start s client).after actions).halt = none ∧
      ((Process.start s client).after actions).progress = (s.serve f place arrivals polls).1 ∧
      ((Process.start s client).after actions).inFeed f place =
        (s.serve f place arrivals polls).2 := by
  have hasking : ((Process.start s client).settle arrivals).halt = some .asking := rfl
  obtain ⟨actions, hdrive, hcut, hdrop, hputs⟩ := Process.exists_drive arrivals polls hasking
  have hafter : (Process.start s client).after (.resume false :: actions) =
      ((Process.start s client).settle arrivals).drive arrivals polls := hdrive.symm
  have hover : (((Process.start s client).settle arrivals).drive arrivals polls).halt = none := by
    rw [Process.drive_eq hasking]
  rw [serve, hclient, Option.getD_some]
  refine ⟨.resume false :: actions, by simpa using hcut, by simpa using hdrop, hputs, ?_, ?_, ?_⟩
  · rw [hafter, hover]
  · rw [hafter]
  · rw [hafter]

/-- Whatever a stream asks for, whoever its client is, and whatever happens to the two. The frames
are the first one, those of the records that were taken and are for the stream, and the heartbeats
between them; what was taken, followed by what is still there, is what was put on the queue. With
the last record that is wanted the stream takes nothing more. It ends when it goes on after that
record, when it hears that its client has gone, and when it is closed; its client is then no longer
registered, and all others are as they were, unless it was closed at its first frame: then its
client stays registered until the feed finds it with a full queue. Over a schedule of arrivals
nobody closes a stream, and its client is not registered at the end. -/
theorem stream_exact (session : Option String) {limit : Int} (hlimit : 0 ≤ limit)
    (client : Client) :
    (∀ actions : List Process.Action,
      let p := (Process.start (start session limit) client).after actions
      (∃ looks, p.Exact session limit (client.queue.items ++ Process.puts actions) looks) ∧
        (p.halt = some .asking →
          (p.step (.resume false)).progress.queue.items = p.progress.queue.items.drop 1) ∧
        (∀ h, p.halt = some h → p.Ends h) ∧
        (p.halt = none → (p.registered = true ↔
          client.registered = true ∧ .drop ∉ actions ∧ Process.cutAtOnce actions = true)) ∧
        ∀ f place record, ∃ more, (more = [] ∨ more = [.put [record]] ∨ more = [.drop]) ∧
          (p.inFeed f place).fanOut record = (p.after more).inFeed (f.fanOut record) place) ∧
      ∀ (f : Feed) place, f.clients[place]? = some client → ∀ arrivals polls,
        let served := (start session limit).serve f place arrivals polls
        served.1 = (start session limit).run client.queue arrivals polls ∧
          served.2.clients = f.clients.set place ⟨served.1.queue, false⟩ ∧
          ∃ actions, .cut ∉ actions ∧ .drop ∉ actions ∧
            Process.puts actions = arrived arrivals served.1.waits ∧
            let p := (Process.start (start session limit) client).after actions
            p.halt = none ∧ p.progress = served.1 ∧ p.inFeed f place = served.2 := by
  refine ⟨fun actions => ?_, fun f place hclient arrivals polls => ?_⟩
  · exact ⟨Process.exists_exact session hlimit client actions, Process.items_step_of_asking,
      fun h hp => Process.ends hp, Process.registered_after_iff rfl actions,
      Process.exists_fanOut _⟩
  · rw [serve_eq _ hclient]
    exact ⟨rfl, rfl, serve_eq _ hclient arrivals polls ▸ exists_serve _ hclient arrivals polls⟩

/-- A stream that asks for one record of a session: it waits, passes a record of another session
over, forwards the first of two and leaves the second one on the queue. Its client is then no longer
registered, but it would be if the stream had been closed at its first frame. -/
theorem stream_exact_one :
    let a : Json := .obj [("session_id", .str "a")]
    let b : Json := .obj [("session_id", .str "b")]
    let client : Client := .new Client.capacity
    let actions : List Process.Action :=
      [.resume false, .resume false, .put [b, a, a], .resume false, .resume false, .resume false,
        .resume false, .put [b]]
    let p := (Process.start (start (some "a") 1) client).after actions
    let f : Feed := ⟨[client, client]⟩
    let served := (start (some "a") 1).serve f 1 [(1, [b]), (2, [a, a])] 9
    (0 : Int) ≤ 1 ∧
      ((∃ looks, p.Exact (some "a") 1 [b, a, a, b] looks) ∧
        p.progress.frames = [(start (some "a") 1).connected, frame a] ∧
        p.progress.queue.items.length = 2 ∧ p.halt = none ∧ ¬ p.registered = true) ∧
      ((Process.start (start (some "a") 1) client).after [.cut]).registered = true ∧
      f.clients[1]? = some client ∧
        served.1.frames = p.progress.frames ∧
        served.2.clients = [client, ⟨served.1.queue, false⟩] := by
  intro a b client actions p f served
  obtain ⟨hstream, hserve⟩ := stream_exact (some "a") (show (0 : Int) ≤ 1 by decide) client
  obtain ⟨hexact, -, -, hregistered, -⟩ := hstream actions
  obtain ⟨-, -, -, hcut, -⟩ := hstream [.cut]
  obtain ⟨-, hclients, -⟩ := hserve f 1 rfl [(1, [b]), (2, [a, a])] 9
  have hover : p.halt = none := by decide +kernel
  have hopen : Process.cutAtOnce actions = false := rfl
  have hframes : p.progress.frames = [(start (some "a") 1).connected, frame a] := by
    decide +kernel
  refine ⟨by decide, ⟨hexact, hframes, by decide +kernel, hover, ?_⟩, (hcut rfl).2 ⟨rfl, ?_, rfl⟩,
    rfl, by decide +kernel, hclients⟩
  · rw [hregistered hover, hopen]
    exact fun h => Bool.false_ne_true h.2.2
  · simp

/-- A client is lost while its first frame is on the way. Its stream is over, and the client is in
the feed as before. -/
theorem registered_after_cut :
    let client : Client := .new Client.capacity
    let p := (Process.start (start (some "a") 1) client).after [.cut]
    p.progress.frames = [(start (some "a") 1).connected] ∧ p.halt = none ∧ p.registered = true ∧
      p.inFeed ⟨[client]⟩ 0 = ⟨[client]⟩ :=
  ⟨rfl, rfl, rfl, rfl⟩

end EventStream

end MissionConsole
