import MissionConsole.Proofs.Web.Stream
import Mathlib.Data.List.Basic

/-!
# How long a stream is silent

A stream counts the polls that find nothing, and breaks the silence with a heartbeat when the count
is full. The count starts anew with every record that is taken from the queue, also with one that is
passed over and of which the client hears nothing. So the count bounds the silence of a stream that
passes nothing over. A stream that asks for a session is silent for as long as records of other
sessions keep coming before the count is full.

## Main definitions

* `EventStream.Look.count`, `EventStream.counted` — the count after a look, and after some looks
* `EventStream.StaysBelow` — the count never comes to its bound
* `EventStream.Course.Timed` — the count at every point of a course
* `EventStream.Course.HasGap` — looks between two frames of a course
* `EventStream.Course.Silent` — a stream that has written nothing since its first frame

## Main results

* `EventStream.Course.Timed.step`, `EventStream.Course.Timed.after` — a turn, and a course, keeps
  the count below its bound
* `EventStream.StaysBelow.countP_isIdle_le` — the polls between two frames that find nothing, by the
  records that are passed over
* `EventStream.Course.silent_after` — records that are passed over keep a stream silent
* `EventStream.silence_bounded_iff` — the silence is bounded just when nothing is passed over
-/

namespace MissionConsole

namespace EventStream

/-! ### Counting -/

namespace Look

/-- The polls since the last record or heartbeat that found nothing, after one more look. -/
def count (idle : Nat) : Look → Nat
  | waited => idle + 1
  | _ => 0

/-- Whether a record is passed over. -/
def isPassedOver : Look → Bool
  | passedOver _ => true
  | _ => false

end Look

/-- The count after some looks. -/
def counted (idle : Nat) (looks : List Look) : Nat := looks.foldl Look.count idle

theorem counted_append (idle : Nat) (looks more : List Look) :
    counted idle (looks ++ more) = counted (counted idle looks) more := List.foldl_append

theorem idle_noted (s : EventStream) (l : Look) : (s.noted l).idle = l.count s.idle := by
  cases l <;> rfl

/-- A look that would fill the count is a heartbeat. -/
theorem count_look_lt (s : EventStream) (found : Option Json) :
    (s.look found).count s.idle < heartbeatTicks := by
  cases found with
  | none =>
    rw [look]
    split
    · exact Nat.zero_lt_succ _
    · rename_i hbelow
      exact Nat.lt_of_not_le hbelow
  | some record =>
    rw [look]
    split <;> exact Nat.zero_lt_succ _

theorem not_isFor_of_look {s : EventStream} {found : Option Json} {record : Json}
    (h : s.look found = .passedOver record) : ¬ IsFor s.session record := by
  cases found with
  | none =>
    rw [look] at h
    split at h <;> cases h
  | some other =>
    rw [look] at h
    split at h
    · cases h
    · rename_i hwants
      cases h
      exact mt wants_iff.2 hwants

/-- The count is below its bound at every point of some looks. -/
def StaysBelow (idle : Nat) (looks : List Look) : Prop :=
  ∀ seen, seen <+: looks → counted idle seen < heartbeatTicks

namespace StaysBelow

variable {idle : Nat} {l : Look} {looks more gap : List Look}

theorem start : StaysBelow 0 [] := by
  intro seen hseen
  rw [List.prefix_nil.1 hseen]
  exact Nat.zero_lt_succ _

theorem concat (h : StaysBelow idle looks) (hl : l.count (counted idle looks) < heartbeatTicks) :
    StaysBelow idle (looks ++ [l]) := by
  intro seen hseen
  rcases List.prefix_concat_iff.1 hseen with rfl | hearlier
  · rwa [counted_append]
  · exact h seen hearlier

theorem of_append_left (h : StaysBelow idle (looks ++ more)) : StaysBelow idle looks :=
  fun seen hseen => h seen (hseen.trans (List.prefix_append looks more))

theorem of_append_right (h : StaysBelow idle (looks ++ more)) :
    StaysBelow (counted idle looks) more := by
  intro seen hseen
  rw [← counted_append]
  exact h _ ((List.prefix_append_right_inj looks).2 hseen)

/-- While nothing is written, the polls that find nothing are in the count, except those that a
record passed over has removed from it: fewer than a full count for each such record. -/
theorem countP_isIdle_add_le (h : StaysBelow idle looks) (hsilent : ∀ l ∈ looks, l.text? = none) :
    looks.countP Look.isIdle + idle ≤
      (heartbeatTicks - 1) * looks.countP Look.isPassedOver + counted idle looks := by
  induction looks generalizing idle with
  | nil => simp [counted]
  | cons l rest ih =>
    have hidle : idle < heartbeatTicks := h [] List.nil_prefix
    have hcounted : counted idle (l :: rest) = counted (l.count idle) rest := rfl
    have hbelow : StaysBelow (l.count idle) rest :=
      of_append_right (show StaysBelow idle ([l] ++ rest) from h)
    obtain ⟨hl, hsilent⟩ := List.forall_mem_cons.1 hsilent
    have hrest := ih hbelow hsilent
    rw [hcounted]
    cases l with
    | waited =>
      rw [List.countP_cons_of_pos rfl, List.countP_cons_of_neg Bool.false_ne_true]
      have hcount : Look.waited.count idle = idle + 1 := rfl
      rw [hcount] at hrest ⊢
      omega
    | passedOver record =>
      -- The count that the record removes is the share of the bound that it adds.
      rw [List.countP_cons_of_neg Bool.false_ne_true, List.countP_cons_of_pos rfl, Nat.mul_succ]
      have hcount : (Look.passedOver record).count idle = 0 := rfl
      rw [hcount] at hrest ⊢
      omega
    | heartbeat => cases hl
    | forwarded record => cases hl

/-- Between two frames the silence may end with a heartbeat, for one more such poll. -/
theorem countP_isIdle_le (h : StaysBelow idle looks) (hgap : gap <:+: looks)
    (hsilent : ∀ l ∈ gap.dropLast, l.text? = none) :
    gap.countP Look.isIdle ≤
      (heartbeatTicks - 1) * gap.countP Look.isPassedOver + heartbeatTicks := by
  obtain ⟨earlier, later, rfl⟩ := hgap
  rcases gap.eq_nil_or_concat' with rfl | ⟨silent, l, rfl⟩
  · exact Nat.zero_le _
  · rw [List.dropLast_concat] at hsilent
    have hbelow : StaysBelow (counted idle earlier) silent :=
      h.of_append_left.of_append_right.of_append_left
    have hcounts := hbelow.countP_isIdle_add_le hsilent
    have hfull : counted (counted idle earlier) silent < heartbeatTicks :=
      hbelow silent (List.prefix_refl silent)
    have hlast : [l].countP Look.isIdle ≤ 1 := List.countP_le_length
    rw [List.countP_append, List.countP_append, Nat.mul_add]
    omega

end StaysBelow

/-! ### Courses -/

namespace Course

variable {c : Course} {session : Option String}

/-- What the count is at every point of a course: it is the stream's own, it has never been full,
and no record for the stream is passed over. -/
structure Timed (session : Option String) (c : Course) : Prop where
  session_eq : c.progress.stream.session = session
  idle_eq : c.progress.stream.idle = counted 0 c.looks
  below : StaysBelow 0 c.looks
  not_isFor : ∀ record, .passedOver record ∈ c.looks → ¬ IsFor session record

theorem timed_start (session : Option String) (limit : Int) (queue : Queue Json) :
    (Course.start session limit queue).Timed session where
  session_eq := rfl
  idle_eq := rfl
  below := .start
  not_isFor := nofun

namespace Timed

/-- A turn keeps the count below its bound. -/
theorem step (h : c.Timed session) (came : List Json) : (c.step came).Timed session := by
  cases hended : c.ended with
  | true =>
    rw [step_of_ended hended]
    exact { h with }
  | false =>
    obtain ⟨l, hlook⟩ : ∃ l, (c.progress.receive came).look = l := ⟨_, rfl⟩
    rw [step_of_look hended hlook]
    constructor
    case session_eq => rw [session_noted, h.session_eq]
    case idle_eq => rw [idle_noted, h.idle_eq, counted_append]; rfl
    case below =>
      refine h.below.concat ?_
      rw [← h.idle_eq, ← hlook]
      exact count_look_lt ..
    case not_isFor =>
      intro record hrecord
      rcases List.mem_append.1 hrecord with hearlier | hlast
      · exact h.not_isFor record hearlier
      · rw [← h.session_eq]
        exact not_isFor_of_look (hlook.trans (List.mem_singleton.1 hlast).symm)

/-- So does a course. -/
theorem after (h : c.Timed session) (schedule : List (List Json)) :
    (c.after schedule).Timed session := by
  induction schedule generalizing c with
  | nil => exact h
  | cons came rest ih => exact ih (h.step came)

end Timed

/-- Looks that follow each other in a course between two frames: only the last one may write a
frame. -/
def HasGap (c : Course) (gap : List Look) : Prop :=
  gap <:+: c.looks ∧ ∀ l ∈ gap.dropLast, l.text? = none

theorem Timed.countP_isIdle_le (h : c.Timed session) {gap : List Look} (hgap : c.HasGap gap) :
    gap.countP Look.isIdle ≤
      (heartbeatTicks - 1) * gap.countP Look.isPassedOver + heartbeatTicks :=
  h.below.countP_isIdle_le hgap.1 hgap.2

/-- A stream for which every record is passes nothing over. -/
theorem Timed.countP_isPassedOver_eq_zero (h : c.Timed session) (hall : ∀ r, IsFor session r)
    {gap : List Look} (hgap : c.HasGap gap) : gap.countP Look.isPassedOver = 0 := by
  refine List.countP_eq_zero.2 fun l hl hpassed => ?_
  cases l with
  | passedOver record => exact h.not_isFor record (hgap.1.subset hl) (hall record)
  | waited | heartbeat | forwarded => cases hpassed

/-- A stream that has been silent so far: its count, the polls that found nothing, and an empty
queue. -/
structure Silent (session : Option String) (idle polls : Nat) (frames : List String) (c : Course) :
    Prop where
  ended_eq : c.ended = false
  session_eq : c.progress.stream.session = session
  items_eq : c.progress.queue.items = []
  idle_eq : c.progress.stream.idle = idle
  frames_eq : c.progress.frames = frames
  polls_eq : c.looks.countP Look.isIdle = polls
  silent : ∀ l ∈ c.looks, l.text? = none

namespace Silent

variable {idle polls : Nat} {frames : List String}

/-- A look that writes nothing and leaves nothing on the queue keeps a stream silent. -/
theorem step_of_look (h : c.Silent session idle polls frames) {came : List Json} {l : Look}
    (hlook : (c.progress.receive came).look = l) (hl : l.text? = none) (hcame : came.drop 1 = []) :
    (c.step came).Silent session (l.count idle) (polls + [l].countP Look.isIdle) frames := by
  rw [Course.step_of_look h.ended_eq hlook]
  constructor
  case ended_eq =>
    cases l with
    | forwarded record => cases hl
    | waited | heartbeat | passedOver => rfl
  case session_eq => rw [session_noted, h.session_eq]
  case items_eq => rwa [h.items_eq]
  case idle_eq => rw [idle_noted, h.idle_eq]
  case frames_eq =>
    rw [hl, h.frames_eq]
    exact List.append_nil _
  case polls_eq => rw [List.countP_append, h.polls_eq]
  case silent =>
    intro m hm
    rcases List.mem_append.1 hm with hearlier | hlast
    · exact h.silent m hearlier
    · rwa [List.mem_singleton.1 hlast]

/-- A poll in vain that does not fill the count. -/
theorem wait (h : c.Silent session idle polls frames) (hidle : idle + 1 < heartbeatTicks) :
    (c.step []).Silent session (idle + 1) (polls + 1) frames := by
  have hlook : (c.progress.receive []).look = .waited := by
    rw [Progress.receive_nil, Progress.look, h.items_eq, List.head?_nil, EventStream.look,
      h.idle_eq, if_neg (Nat.not_le_of_lt hidle)]
  exact h.step_of_look hlook rfl rfl

/-- A record that is passed over empties the count. -/
theorem pass_over (h : c.Silent session idle polls frames) {record : Json}
    (hrecord : ¬ IsFor session record) :
    (c.step [record]).Silent session 0 polls frames := by
  have hlook : (c.progress.receive [record]).look = .passedOver record := by
    have hwants : ¬ c.progress.stream.wants record = true := by
      rwa [wants_iff, h.session_eq]
    rw [Progress.look, Progress.receive, h.items_eq]
    exact if_neg hwants
  exact h.step_of_look hlook rfl rfl

end Silent

theorem silent_start (session : Option String) (limit room : Int) :
    (Course.start session limit (Queue.empty room)).Silent session 0 0
      [(EventStream.start session limit).connected] :=
  ⟨rfl, rfl, rfl, rfl, rfl, rfl, nofun⟩

/-- A record that is passed over after every poll keeps a stream silent. -/
theorem silent_after {polls : Nat} {frames : List String} {record : Json}
    (hrecord : ¬ IsFor session record) (more : Nat) (h : c.Silent session 0 polls frames) :
    (c.after (List.replicate more [[], [record]]).flatten).Silent session 0 (polls + more)
      frames := by
  induction more generalizing c polls with
  | zero => exact h
  | succ more ih =>
    rw [List.replicate_succ, List.flatten_cons, Nat.add_comm more, ← Nat.add_assoc]
    exact ih ((h.wait (by decide)).pass_over hrecord)

end Course

/-! ### The bound -/

theorem isFor_all_iff {session : Option String} :
    (∀ record, IsFor session record) ↔ session = none ∨ session = some "" := by
  refine ⟨fun hall => ?_, fun h record => h.elim .inl fun hempty => .inr (.inl hempty)⟩
  rcases hall .null with hnone | hempty | ⟨id, -, hid⟩
  · exact .inl hnone
  · exact .inr hempty
  · cases hid

/-- Whatever a stream asks for. Between two frames it polls in vain at most as often as a heartbeat
takes, and one time less than that again for each record that it passes over. With a record that is
not for it after each such poll it is silent for any number of them. So the heartbeat bounds that
number just when no session is asked for. -/
theorem silence_bounded_iff (session : Option String) (limit : Int) :
    (∀ queue schedule gap, ((Course.start session limit queue).after schedule).HasGap gap →
      gap.countP Look.isIdle ≤
        (heartbeatTicks - 1) * gap.countP Look.isPassedOver + heartbeatTicks) ∧
      (∀ record, ¬ IsFor session record → ∀ room polls,
        let c := (Course.start session limit (Queue.empty room)).after
          (List.replicate polls [[], [record]]).flatten
        c.progress.frames = [(start session limit).connected] ∧
          c.looks.countP Look.isIdle = polls) ∧
      ((∀ queue schedule gap, ((Course.start session limit queue).after schedule).HasGap gap →
          gap.countP Look.isIdle ≤ heartbeatTicks) ↔
        session = none ∨ session = some "") := by
  have htimed : ∀ queue schedule,
      ((Course.start session limit queue).after schedule).Timed session := fun queue schedule =>
    (Course.timed_start session limit queue).after schedule
  have hsilent : ∀ record, ¬ IsFor session record → ∀ room polls,
      ((Course.start session limit (Queue.empty room)).after
        (List.replicate polls [[], [record]]).flatten).Silent session 0 (0 + polls)
          [(start session limit).connected] := fun record hrecord room polls =>
    Course.silent_after hrecord polls (Course.silent_start session limit room)
  refine ⟨fun queue schedule gap hgap => (htimed queue schedule).countP_isIdle_le hgap,
    fun record hrecord room polls => ?_, ?_⟩
  · have h := hsilent record hrecord room polls
    exact ⟨h.frames_eq, h.polls_eq.trans (Nat.zero_add polls)⟩
  · rw [← isFor_all_iff]
    constructor
    · intro hbounded record
      by_contra hrecord
      have h := hsilent record hrecord Client.capacity (heartbeatTicks + 1)
      have hle := hbounded _ _ _ ⟨List.infix_refl _,
        fun l hl => h.silent l (List.dropLast_subset _ hl)⟩
      rw [h.polls_eq] at hle
      omega
    · intro hall queue schedule gap hgap
      have hle := (htimed queue schedule).countP_isIdle_le hgap
      rwa [(htimed queue schedule).countP_isPassedOver_eq_zero hall hgap, Nat.mul_zero,
        Nat.zero_add] at hle

/-- A record of another session comes during the hundredth poll, and one for the stream during the
two hundredth: no heartbeat is written in between. -/
theorem silence_exceeded :
    let a : Json := .obj [("event_type", .str "command"), ("n", .int 1), ("session_id", .str "a")]
    let b : Json := .obj [("event_type", .str "command"), ("n", .int 0), ("session_id", .str "b")]
    let s := start (some "a") 1
    let p := s.run (Queue.empty Client.capacity) [(100, [b]), (200, [a])] 400
    p.frames = [s.connected, frame a] ∧ p.waits = 200 ∧ heartbeatTicks < p.waits := by
  intro a b s p
  exact ⟨by decide +kernel, by decide +kernel, by decide +kernel⟩

end EventStream

end MissionConsole
