import MissionConsole.Proofs.Dispatch.Step

/-!
# What a line asks the host for

A line may ask for many things at once, but alarms and the end of a session stand alone: an alert is
the only event of its reply, and so is a close that ends the session. Where the map or the vehicle
is to be seen, the close comes last and only hides the console.

## Main definitions

* `Event.isMild` — an event that neither raises an alert nor closes the console
* `Event.Shape` — the four kinds of reply
* `Event.GoesOn` — the three of them after which the session goes on
* `Reply.moves` — what a reply moves

## Main results

* `Event.Shape.endsSession_iff` — only a close that stands alone ends the session
* `Event.Shape.kind_ne_close`, `Event.Shape.countP_close_le` — a close comes last, and once
* `Event.Shape.eq_alarm` — an alert stands alone, and all alerts are equally long
* `Builtin.goesOn_run` — the session goes on after every command but one
* `Builtin.shape_run`, `Dispatcher.shape_dispatch` — commands and lines ask for nothing else
-/

namespace MissionConsole

namespace Event

/-- An event neither raises an alert nor closes the console. -/
def isMild (e : Event) : Bool := e.kind != .alert && e.kind != .close

/-- An event moves the map or the vehicle. -/
def isMove (e : Event) : Bool := e.kind == .navigate || e.kind == .uxv

/-- What the events of a reply may be, where alerts are as long as a profile has them. -/
inductive Shape (p : Profile) : List Event → Prop
  | mild {events : List Event} (hmild : events.all isMild = true) : Shape p events
  | alarm : Shape p [.alert p.alertDurationMs]
  | closing : Shape p [.close]
  /-- The console is hidden behind what moves. -/
  | leaving {events : List Event} (hmild : events.all isMild = true)
    (hmove : events.any isMove = true) : Shape p (events ++ [.close])

theorem kind_ne_close_of_mild {events : List Event} (h : events.all isMild = true) {e : Event}
    (he : e ∈ events) : e.kind ≠ .close := by
  have hmild : e.isMild = true := List.all_eq_true.1 h e he
  rw [isMild, Bool.and_eq_true, bne_iff_ne, bne_iff_ne] at hmild
  exact hmild.2

theorem endsSession_of_mild {events : List Event} (h : events.all isMild = true) :
    endsSession events = false := by
  have hclose : events.any (·.kind == .close) = false := by
    rw [List.any_eq_false]
    exact fun e he hkind => kind_ne_close_of_mild h he (beq_iff_eq.1 hkind)
  rw [endsSession, hclose, Bool.false_and]

theorem endsSession_of_move {events : List Event} (h : events.any isMove = true) :
    endsSession events = false := by
  have hmove : (events.any fun e => e.kind == .navigate || e.kind == .uxv) = true := h
  rw [endsSession, hmove, Bool.not_true, Bool.and_false]

/-- Only a close that stands alone ends the session. -/
theorem Shape.endsSession_iff {p : Profile} {events : List Event} (h : Shape p events) :
    endsSession events = true ↔ events = [.close] := by
  cases h with
  | mild hmild =>
    rw [endsSession_of_mild hmild]
    refine iff_of_false Bool.false_ne_true ?_
    rintro rfl
    exact Bool.false_ne_true hmild
  | alarm => exact iff_of_false Bool.false_ne_true nofun
  | closing => exact iff_of_true rfl rfl
  | @leaving events hmild hmove =>
    have hmoves : (events ++ [Event.close]).any isMove = true := by
      rw [List.any_append, hmove, Bool.true_or]
    rw [endsSession_of_move hmoves]
    refine iff_of_false Bool.false_ne_true fun hlist => ?_
    -- Something moves, so the close does not stand alone.
    have hnil : events = [] := by simpa using hlist
    rw [hnil] at hmove
    exact Bool.false_ne_true hmove

/-- Before the last event of a reply there is no close. -/
theorem Shape.kind_ne_close {p : Profile} {events : List Event} (h : Shape p events) {e : Event}
    (he : e ∈ events.dropLast) : e.kind ≠ .close := by
  cases h with
  | mild hmild => exact kind_ne_close_of_mild hmild (List.dropLast_subset _ he)
  | alarm => exact absurd he List.not_mem_nil
  | closing => exact absurd he List.not_mem_nil
  | leaving hmild =>
    rw [List.dropLast_concat] at he
    exact kind_ne_close_of_mild hmild he

/-- A reply closes the console at most once. -/
theorem Shape.countP_close_le {p : Profile} {events : List Event} (h : Shape p events) :
    events.countP (·.kind == .close) ≤ 1 := by
  rcases List.eq_nil_or_concat events with rfl | ⟨before, last, rfl⟩
  · exact Nat.zero_le 1
  · have hbefore : before.countP (·.kind == .close) = 0 := by
      refine List.countP_eq_zero.2 fun e he hclose => ?_
      refine h.kind_ne_close (e := e) ?_ (beq_iff_eq.1 hclose)
      rwa [List.concat_eq_append, List.dropLast_concat]
    rw [List.concat_eq_append, List.countP_append, hbefore, Nat.zero_add]
    exact List.countP_le_length

/-- An alert stands alone, and is as long as the profile has it. -/
theorem Shape.eq_alarm {p : Profile} {events : List Event} (h : Shape p events)
    {durationMs : Int} (halert : .alert durationMs ∈ events) :
    events = [.alert p.alertDurationMs] := by
  have hmild : ∀ {events : List Event}, events.all isMild = true → .alert durationMs ∉ events :=
    fun hmild hin => Bool.false_ne_true (List.all_eq_true.1 hmild _ hin)
  cases h with
  | mild hall => exact absurd halert (hmild hall)
  | alarm => rfl
  | closing => exact Event.noConfusion (List.mem_singleton.1 halert)
  | leaving hall =>
    rcases List.mem_append.1 halert with hin | hlast
    · exact absurd hin (hmild hall)
    · exact Event.noConfusion (List.mem_singleton.1 hlast)

theorem Shape.durationMs_eq {p : Profile} {events : List Event} (h : Shape p events)
    {durationMs : Int} (halert : .alert durationMs ∈ events) : durationMs = p.alertDurationMs := by
  rw [h.eq_alarm halert] at halert
  exact Event.alert.inj (List.mem_singleton.1 halert)

/-- Events of one of the four kinds after which the session goes on. -/
structure GoesOn (p : Profile) (events : List Event) : Prop where
  shape : Shape p events
  endsSession_eq : endsSession events = false

namespace GoesOn

variable {p : Profile} {events : List Event}

theorem mild (hmild : events.all isMild = true) : GoesOn p events :=
  ⟨.mild hmild, endsSession_of_mild hmild⟩

theorem alarm : GoesOn p [.alert p.alertDurationMs] := ⟨.alarm, rfl⟩

theorem leaving (hmild : events.all isMild = true) (hmove : events.any isMove = true) :
    GoesOn p (events ++ [.close]) := by
  refine ⟨.leaving hmild hmove, endsSession_of_move ?_⟩
  rw [List.any_append, hmove, Bool.true_or]

end GoesOn

end Event

/-- The events of a reply that move the map or the vehicle. -/
def Reply.moves (r : Reply) : List Event := r.events.filter Event.isMove

/-! ### Commands -/

open Event (Shape GoesOn)

namespace System

variable (ctx : Context)

theorem goesOn_login : GoesOn ctx.profile (login ctx).events := by
  rw [login]
  split_ifs <;> exact .mild rfl

theorem goesOn_cd : GoesOn ctx.profile (cd ctx).events := by
  rw [cd]
  dsimp only
  split_ifs <;> exact .mild rfl

theorem goesOn_ls : GoesOn ctx.profile (ls ctx).events := by
  simp only [ls]
  split
  · exact .mild rfl
  · exact .mild rfl
  · split_ifs <;> exact .mild rfl

theorem goesOn_cat : GoesOn ctx.profile (cat ctx).events := by
  rw [cat]
  split
  · exact .mild rfl
  · dsimp only
    split_ifs
    · exact .mild rfl
    · split <;> exact .mild rfl
    · split <;> exact .mild rfl

theorem goesOn_date : GoesOn ctx.profile (date ctx).events := by
  rw [date]
  split <;> exact .mild rfl

theorem goesOn_superuser : GoesOn ctx.profile (superuser ctx).events := by
  rw [superuser]
  split_ifs
  · exact .alarm
  · exact .mild rfl

end System

namespace MapLink

variable (ctx : Context)

/-- The effects of the screen are mild, whatever the time between them. -/
theorem all_isMild_staggered (stepMs : Int) : (staggered stepMs).all Event.isMild = true := by
  rw [List.all_eq_true]
  intro e he
  obtain ⟨i, -, rfl⟩ := List.mem_mapIdx.1 he
  rfl

/-- Events that move the map are followed by a sound and the closing. -/
theorem goesOn_leaveFor {p : Profile} {events : List Event}
    (hmild : events.all Event.isMild = true) (hmove : events.any Event.isMove = true) :
    GoesOn p (leaveFor events) := by
  have hlist : leaveFor events = (events ++ [.sound "navigate"]) ++ [.close] := by
    rw [leaveFor, List.append_assoc]
    rfl
  rw [hlist]
  refine .leaving ?_ ?_
  · rw [List.all_append, hmild]
    rfl
  · rw [List.any_append, hmove, Bool.true_or]

theorem goesOn_goToCompany (query : String) :
    GoesOn ctx.profile (goToCompany ctx query).events := by
  rw [goToCompany]
  split_ifs
  · exact .mild rfl
  · split
    · exact .mild rfl
    · exact goesOn_leaveFor rfl rfl

theorem goesOn_goToRegion (key : String) : GoesOn ctx.profile (goToRegion ctx key).events := by
  rw [goToRegion]
  split
  · exact .mild rfl
  · exact goesOn_leaveFor rfl rfl

theorem goesOn_goto : GoesOn ctx.profile (goto ctx).events := by
  rw [goto]
  split
  · exact .mild rfl
  · dsimp only
    split_ifs
    · exact .mild rfl
    · exact goesOn_goToCompany ctx _
    · exact goesOn_goToRegion ctx _

theorem goesOn_zoom : GoesOn ctx.profile (zoom ctx).events := by
  rw [zoom]
  split <;> exact .mild rfl

theorem goesOn_center : GoesOn ctx.profile (center ctx).events := by
  rw [center]
  split <;> exact .mild rfl

theorem goesOn_scan : GoesOn ctx.profile (scan ctx).events :=
  .mild (all_isMild_staggered sweepStepMs)

end MapLink

namespace Vehicle

variable (ctx : Context)

/-- An order moves the vehicle, whatever sound goes with it. -/
theorem goesOn_order (action : String) (params : List (String × Json)) (line : String)
    (sound : Option String) : GoesOn ctx.profile (order ctx action params line sound).events := by
  refine .leaving ?_ rfl
  cases sound <;> rfl

theorem goesOn_goToRegion : GoesOn ctx.profile (goToRegion ctx).events := by
  rw [goToRegion]
  split
  · exact .mild rfl
  · dsimp only
    split_ifs
    · exact .mild rfl
    · split
      · exact .mild rfl
      · exact goesOn_order ctx _ _ _ _

theorem goesOn_goto : GoesOn ctx.profile (goto ctx).events := by
  rw [goto]
  split_ifs
  · exact goesOn_goToRegion ctx
  · split
    · exact .mild rfl
    · exact goesOn_order ctx _ _ _ _

theorem goesOn_speed : GoesOn ctx.profile (speed ctx).events := by
  rw [speed]
  split
  · exact .mild rfl
  · exact goesOn_order ctx _ _ _ _

theorem goesOn_follow : GoesOn ctx.profile (follow ctx).events := by
  rw [follow]
  split
  · exact goesOn_order ctx _ _ _ _
  · exact goesOn_order ctx _ _ _ _
  · exact .mild rfl

theorem goesOn_uxv : GoesOn ctx.profile (uxv ctx).events := by
  rw [uxv]
  split
  · exact .mild rfl
  · exact .mild rfl
  · exact goesOn_order ctx _ _ _ _
  · exact goesOn_order ctx _ _ _ _
  · exact goesOn_goto ctx
  · exact goesOn_speed ctx
  · exact goesOn_order ctx _ _ _ _
  · exact goesOn_order ctx _ _ _ _
  · exact goesOn_follow ctx
  · exact .mild rfl

end Vehicle

namespace Eggs

variable (ctx : Context)

theorem goesOn_trigger : GoesOn ctx.profile (trigger ctx).events := by
  rw [trigger]
  split
  · exact .mild rfl
  · dsimp only
    split_ifs <;> exact .mild rfl

theorem goesOn_unlockAll : GoesOn ctx.profile (unlockAll ctx).events := by
  refine .mild ?_
  rw [unlockAll, Context.answer, List.all_append, MapLink.all_isMild_staggered]
  rfl

end Eggs

/-- The session goes on after every command but one. -/
theorem Builtin.goesOn_run {b : Builtin} (hb : b ≠ .close) (ctx : Context) :
    GoesOn ctx.profile (b.run ctx).events := by
  cases b with
  | close => exact absurd rfl hb
  | login => exact System.goesOn_login ctx
  | cd => exact System.goesOn_cd ctx
  | ls => exact System.goesOn_ls ctx
  | cat => exact System.goesOn_cat ctx
  | date => exact System.goesOn_date ctx
  | superuser => exact System.goesOn_superuser ctx
  | goto => exact MapLink.goesOn_goto ctx
  | hq => exact MapLink.goesOn_goToCompany ctx _
  | zoom => exact MapLink.goesOn_zoom ctx
  | center => exact MapLink.goesOn_center ctx
  | scan => exact MapLink.goesOn_scan ctx
  | uxv => exact Vehicle.goesOn_uxv ctx
  | trigger => exact Eggs.goesOn_trigger ctx
  | unlockAll => exact Eggs.goesOn_unlockAll ctx
  -- The other commands answer with lines and at most clear the screen.
  | _ => exact .mild rfl

/-- Whatever a command asks for, its events are of one of the four kinds. -/
theorem Builtin.shape_run (b : Builtin) (ctx : Context) : Shape ctx.profile (b.run ctx).events := by
  by_cases hb : b = .close
  · subst hb
    exact .closing
  · exact (goesOn_run hb ctx).shape

/-! ### Lines -/

namespace Dispatcher

variable {d : Dispatcher} {files : Filesystem} {s : Session}

theorem goesOn_answerRiddle (line : String) :
    GoesOn d.profile (d.answerRiddle s line).reply.events := by
  simp only [answerRiddle]
  split_ifs <;> exact .mild rfl

theorem goesOn_checkPassword (line : String) :
    GoesOn d.profile (d.checkPassword s line).reply.events := by
  simp only [checkPassword]
  split_ifs
  · exact .mild rfl
  · exact .alarm
  · exact .mild rfl

theorem shape_runHandler (b : Builtin) (args : List String) (line : String) :
    Shape d.profile (d.runHandler files s ⟨b.command, b.run⟩ args line).reply.events := by
  simp only [runHandler]
  split_ifs
  · exact .mild rfl
  · exact b.shape_run (d.context files s b.command args)

theorem shape_runCommand (hd : d.registry = .standard) (line : String) :
    Shape d.profile (d.runCommand files s line).reply.events := by
  rw [runCommand]
  split
  · exact .mild rfl
  · split_ifs
    · exact .mild rfl
    · rw [callCommand, hd]
      split
      · exact .mild rfl
      · rename_i hfound
        obtain ⟨b, rfl⟩ := Registry.exists_builtin_of_lookup hfound
        -- Too few arguments, or too little clearance, and nothing is asked for.
        split_ifs
        · exact .mild rfl
        · exact .mild rfl
        · exact shape_runHandler b _ _

/-- Whatever a line asks for, the events are of one of the four kinds. -/
theorem shape_dispatch (hd : d.registry = .standard) (files : Filesystem) (s : Session)
    (rawLine : String) : Shape d.profile (d.dispatch files s rawLine).reply.events := by
  by_cases hline : Text.trim rawLine = ""
  · rw [dispatch_of_blank hline]
    exact .mild rfl
  · rw [dispatch_of_ne hline, recorded_reply, answer]
    split_ifs
    · exact (goesOn_answerRiddle _).shape
    · exact (goesOn_checkPassword _).shape
    · exact shape_runCommand hd _

end Dispatcher

end MissionConsole
