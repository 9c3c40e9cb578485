import MissionConsole.Proofs.Dispatch.Invocation
import MissionConsole.Proofs.Overlay.Submission

/-!
# Orders with numbers

Three orders to the vehicle take numbers: two for a place to start at, which may be left out, two
for a place to go to, and one for the speed. An order is given exactly as it is written or not at
all, except for one: a start at a place that cannot be read is given without the place.

## Main definitions

* `Vehicle.Order` — the three orders
* `Vehicle.Order.params?` — what an order says, if its numbers can be read
* `Overlay.OrderChecked` — an order is given as it is written, or refused with its usage

## Main results

* `Overlay.order_checked_iff` — which lines are checked, and what the others do
-/

namespace MissionConsole

namespace Vehicle

/-- The orders that take numbers. -/
inductive Order where
  | start
  | goto
  | speed
  deriving DecidableEq

namespace Order

/-- The word for an order. -/
def word : Order → String
  | start => "start"
  | goto => "goto"
  | speed => "speed"

/-- Two words as a longitude and a latitude. -/
def place? (lng lat : String) : Option (Float × Float) := do
  let x ← MapLink.finite? lng
  let y ← MapLink.finite? lat
  some (x, y)

/-- What an order says with the words behind it, unless a number is missing or cannot be read. -/
def params? : Order → List String → Option (List (String × Json))
  | start, [] => some []
  | start, lng :: lat :: _ => (place? lng lat).map (place "position")
  | goto, lng :: lat :: _ => (place? lng lat).map (place "target")
  | speed, mps :: _ => (MapLink.finite? mps).map fun v => [("speed", .float v)]
  | _, _ => none

/-- The words behind an order name no region. -/
def NamesNoRegion : Order → List String → Prop
  | goto, args => args.head?.map Text.lower ≠ some "region"
  | _, _ => True

end Order

/-! ### The command -/

section

variable {ctx : Context} {order : Order} {name : String} {args : List String}
  {params : List (String × Json)}

namespace Order

/-- Both handlers that take a place read two words behind the order. -/
theorem position?_cons_cons (name lng lat : String) (more : List String) :
    MapLink.position? (name :: lng :: lat :: more) 1 = place? lng lat := by
  simp only [MapLink.position?, MapLink.argument?, place?, List.getElem?_cons_succ,
    List.getElem?_cons_zero, Option.bind_some]

/-- Half a place is none. -/
theorem position?_of_length_lt (name : String) (args : List String) (h : args.length < 2) :
    MapLink.position? (name :: args) 1 = none := by
  -- The latitude is missing, whether or not the longitude is.
  have hlat : MapLink.argument? (name :: args) 2 = none := by
    rw [MapLink.argument?, List.getElem?_eq_none (Nat.succ_le_succ (Nat.le_of_lt_succ h)),
      Option.bind_none]
  rw [MapLink.position?, hlat]
  cases MapLink.argument? (name :: args) 1 <;> rfl

theorem params?_goto (name : String) (args : List String) :
    goto.params? args = (MapLink.position? (name :: args) 1).map (place "target") := by
  -- Fewer than two words are no place on either side.
  match args with
  | [] =>
    rw [position?_of_length_lt name [] Nat.zero_lt_two]
    rfl
  | [lng] =>
    rw [position?_of_length_lt name [lng] Nat.one_lt_two]
    rfl
  | lng :: lat :: more => rw [position?_cons_cons, params?]

theorem params?_start (name : String) (hne : args ≠ []) :
    start.params? args = (MapLink.position? (name :: args) 1).map (place "position") := by
  match args with
  | [lng] =>
    rw [position?_of_length_lt name [lng] Nat.one_lt_two]
    rfl
  | lng :: lat :: more => rw [position?_cons_cons, params?]

theorem params?_speed (name : String) (args : List String) :
    speed.params? args =
      (MapLink.argument? (name :: args) 1).map fun v => [("speed", .float v)] := by
  rw [MapLink.argument?, List.getElem?_cons_succ]
  cases args with
  | nil => rfl
  | cons mps more => rw [List.getElem?_cons_zero, Option.bind_some, params?]

end Order

/-- An order that takes numbers is left to its own handler. -/
theorem uxv_of_lower_eq (hargs : ctx.args = name :: args) (hname : Text.lower name = order.word) :
    uxv ctx =
      match order with
      | .start => start ctx
      | .goto => goto ctx
      | .speed => speed ctx := by
  have hsub : (ctx.args[0]?.map Text.lower).getD "" = order.word := by
    rw [hargs]
    exact hname
  rw [uxv, hsub]
  cases order <;> rfl

theorem goto_of_namesNoRegion (hargs : ctx.args = name :: args)
    (hnoRegion : Order.goto.NamesNoRegion args) :
    goto ctx =
      match MapLink.position? (name :: args) 1 with
      | none => ctx.say "Usage: uxv goto <lng> <lat>"
      | some p =>
        Vehicle.order ctx "goto" (place "target" p)
          ("UXV: target set to " ++ Decimal.brief p.1 ++ ", " ++ Decimal.brief p.2)
          (some "navigate") := by
  have hregion : ¬ ctx.args[1]?.map Text.lower = some "region" := by
    rw [hargs, List.getElem?_cons_succ, ← List.head?_eq_getElem?]
    exact hnoRegion
  rewrite [goto, if_neg hregion, hargs]
  rfl

/-- An order whose numbers can be read is given. -/
theorem moves_uxv (hargs : ctx.args = name :: args) (hname : Text.lower name = order.word)
    (hnoRegion : order.NamesNoRegion args) (h : order.params? args = some params) :
    (uxv ctx).events.filter Event.isMove = [.uxv order.word params] := by
  rw [uxv_of_lower_eq hargs hname]
  cases order with
  | start =>
    rw [start, hargs]
    by_cases hne : args = []
    -- Without words there is nothing to read, which is no mistake here.
    · subst hne
      obtain rfl := Option.some.inj h
      rw [Order.position?_of_length_lt name [] Nat.zero_lt_two]
      rfl
    · rw [Order.params?_start name hne] at h
      obtain ⟨p, hp, rfl⟩ := Option.map_eq_some_iff.1 h
      rw [hp]
      rfl
  | goto =>
    rw [Order.params?_goto name] at h
    obtain ⟨p, hp, rfl⟩ := Option.map_eq_some_iff.1 h
    dsimp only
    rw [goto_of_namesNoRegion hargs hnoRegion, hp]
    rfl
  | speed =>
    rw [Order.params?_speed name] at h
    obtain ⟨v, hv, rfl⟩ := Option.map_eq_some_iff.1 h
    dsimp only
    rw [speed, hargs, hv]
    rfl

/-- A start whose place cannot be read is a start without a place. -/
theorem uxv_start_of_none (hargs : ctx.args = name :: args) (hname : Text.lower name = "start")
    (h : Order.start.params? args = none) :
    uxv ctx = Vehicle.order ctx "start" [] "UXV: start" (some "engage") := by
  -- A start without words is readable, so there are some.
  have hne : args ≠ [] := by
    rintro rfl
    exact Option.some_ne_none _ h
  rw [Order.params?_start name hne, Option.map_eq_none_iff] at h
  have hword : Text.lower name = Order.start.word := hname
  rw [uxv_of_lower_eq hargs hword]
  dsimp only
  rw [start, hargs, h]

/-- Another order whose numbers cannot be read is refused. -/
theorem uxv_refused (hargs : ctx.args = name :: args) (hname : Text.lower name = order.word)
    (hnoRegion : order.NamesNoRegion args) (h : order.params? args = none)
    (horder : order ≠ .start) :
    ∃ usage, uxv ctx = ctx.say ("Usage: uxv " ++ order.word ++ usage) := by
  rw [uxv_of_lower_eq hargs hname]
  cases order with
  | start => exact absurd rfl horder
  | goto =>
    rw [Order.params?_goto name, Option.map_eq_none_iff] at h
    refine ⟨" <lng> <lat>", ?_⟩
    dsimp only
    rw [goto_of_namesNoRegion hargs hnoRegion, h]
    rfl
  | speed =>
    rw [Order.params?_speed name, Option.map_eq_none_iff] at h
    refine ⟨" <mps>", ?_⟩
    dsimp only
    rw [speed, hargs, h]
    rfl

end

end Vehicle

/-! ### Lines -/

namespace Overlay

theorem takesCommand_remember {s : Session} (hs : s.takesCommand = true) (c : Console)
    (line : String) : (remember c s line).takesCommand = true := by
  rcases remember_cases c s line with h | h
  · rw [h, hs]
  · rw [h]
    exact hs

variable {τ : Type} [Timescale τ] {c : Console} {now : τ} {o : Overlay τ} {line word : String}
  {args : List String} {order : Vehicle.Order} {params : List (String × Json)}

/-- An order that can be read is given, and nothing else moves. One that cannot is answered with one
line of usage, and the overlay is left as it was. -/
def OrderChecked (order : Vehicle.Order) (args : List String) (before : Overlay τ)
    (after : Submission τ) : Prop :=
  match order.params? args with
  | some params => after.reply.moves = [.uxv order.word params]
  | none =>
    (∃ usage, after.reply = ⟨["Usage: uxv " ++ order.word ++ usage], []⟩) ∧
      after.overlay.isOpen = before.isOpen

/-- A line without an alert does not fail. -/
theorem escaped_of_no_alert
    (h : ∀ durationMs, .alert durationMs ∉ (o.submit c now line).reply.events) :
    (o.submit c now line).escaped = none := by
  by_contra hescaped
  obtain ⟨durationMs, halert, -⟩ := alert_of_submit_escaped hescaped
  exact h durationMs halert

section

-- The line is for the vehicle, which is told a word and what follows it.
variable (hline : c.dispatcher.Invokes (remember c o.session line) line .uxv (word :: args))

include hline

theorem reply_submit_uxv (now : τ) :
    ∃ ctx : Context, ctx.args = word :: args ∧
      (o.submit c now line).reply = ⟨(Vehicle.uxv ctx).lines, (Vehicle.uxv ctx).events⟩ := by
  refine ⟨c.dispatcher.context c.files (remember c o.session line) Builtin.uxv.command
    (word :: args), rfl, ?_⟩
  rw [reply_submit, hline.reply_eq (by decide)]
  rfl

theorem moves_of_readable (hword : Text.lower word = order.word)
    (hnoRegion : order.NamesNoRegion args) (h : order.params? args = some params) :
    (o.submit c now line).reply.moves = [.uxv order.word params] := by
  obtain ⟨ctx, hargs, hreply⟩ := reply_submit_uxv hline now
  rw [hreply]
  exact Vehicle.moves_uxv hargs hword hnoRegion h

theorem refused_of_unreadable (hword : Text.lower word = order.word)
    (hnoRegion : order.NamesNoRegion args) (h : order.params? args = none)
    (horder : order ≠ .start) :
    (∃ usage, (o.submit c now line).reply = ⟨["Usage: uxv " ++ order.word ++ usage], []⟩) ∧
      (o.submit c now line).overlay.isOpen = o.isOpen := by
  obtain ⟨ctx, hargs, hreply⟩ := reply_submit_uxv hline now
  obtain ⟨usage, hrefused⟩ := Vehicle.uxv_refused hargs hword hnoRegion h horder
  rw [hrefused] at hreply
  refine ⟨⟨usage, hreply⟩, ?_⟩
  -- A reply without events neither fails nor closes.
  rw [isOpen_submit (escaped_of_no_alert (by rw [hreply]; exact fun _ => List.not_mem_nil)), hreply]
  exact Bool.and_true _

/-- A start whose place cannot be read is a start all the same, and hides the overlay. -/
theorem start_of_unreadable (now : τ) (hword : Text.lower word = "start")
    (h : Vehicle.Order.start.params? args = none) :
    (o.submit c now line).reply = ⟨["UXV: start"], [.uxv "start" [], .sound "engage", .close]⟩ ∧
      (o.submit c now line).overlay.isOpen = false := by
  obtain ⟨ctx, hargs, hreply⟩ := reply_submit_uxv hline now
  rw [Vehicle.uxv_start_of_none hargs hword h] at hreply
  refine ⟨hreply, ?_⟩
  rw [isOpen_submit (escaped_of_no_alert ?_), hreply]
  · exact Bool.and_false _
  · rw [hreply]
    simp [Vehicle.order, Context.answer]

end

/-- In whatever way the words behind an order are written, the order is checked, except for a start
at a place that cannot be read: that one is given without the place. -/
theorem order_checked_iff (c : Console) (hd : c.dispatcher.registry = .standard)
    (hriddle : c.dispatcher.profile.riddle.command ≠ "uxv") (now : τ) (o : Overlay τ)
    (hs : o.session.takesCommand = true) (line name word : String) (args : List String)
    (hwords : Text.words line = name :: word :: args) (hname : Text.lower name = "uxv")
    (order : Vehicle.Order) (hword : Text.lower word = order.word)
    (hnoRegion : order.NamesNoRegion args) :
    (OrderChecked order args o (o.submit c now line) ↔
        ¬(order = .start ∧ order.params? args = none)) ∧
      (order = .start → order.params? args = none →
        (o.submit c now line).reply =
            ⟨["UXV: start"], [.uxv "start" [], .sound "engage", .close]⟩ ∧
          (o.submit c now line).overlay.isOpen = false) := by
  have hline : c.dispatcher.Invokes (remember c o.session line) line .uxv (word :: args) :=
    ⟨hd, takesCommand_remember hs c line, ⟨name, hwords, hname⟩, hriddle, Int.natCast_nonneg _, rfl⟩
  have hstarted (hstart : order = .start) (hnone : order.params? args = none) :=
    start_of_unreadable hline now (hword.trans (congrArg _ hstart)) (hstart ▸ hnone)
  refine ⟨?_, hstarted⟩
  rw [OrderChecked]
  cases hparams : order.params? args with
  | some params =>
    refine iff_of_true ?_ fun h => Option.some_ne_none _ h.2
    exact moves_of_readable hline hword hnoRegion hparams
  | none =>
    -- Only the start has no usage to tell.
    by_cases hstart : order = .start
    · refine iff_of_false (fun ⟨⟨usage, hreply⟩, _⟩ => ?_) fun h => h ⟨hstart, rfl⟩
      rw [(hstarted hstart hparams).1] at hreply
      exact List.cons_ne_nil _ _ (congrArg Reply.events hreply)
    · refine iff_of_true ?_ fun h => hstart h.1
      exact refused_of_unreadable hline hword hnoRegion hparams hstart

/-- Of two orders, the one with a latitude that is no number is refused, and the one with a speed is
given. -/
theorem order_checked_iff_latitude :
    let c : Console := ⟨.standard (Profile.map .standard) [] (.ok ""), .empty, 200, 500, none⟩
    let o : Overlay Int := (new c "id" "local").opened
    let goto := o.submit c 7 "UXV GoTo -104.5 nan"
    let speed := o.submit c 7 "uxv speed 1.5 now"
    o.session.takesCommand = true ∧
      Text.words "UXV GoTo -104.5 nan" = ["UXV", "GoTo", "-104.5", "nan"] ∧
      Vehicle.Order.goto.NamesNoRegion ["-104.5", "nan"] ∧
      Vehicle.Order.goto.params? ["-104.5", "nan"] = none ∧
      (∃ usage, goto.reply = ⟨["Usage: uxv goto" ++ usage], []⟩) ∧ goto.overlay.isOpen = true ∧
      ∃ v, MapLink.finite? "1.5" = some v ∧
        speed.reply.moves = [.uxv "speed" [("speed", .float v)]] := by
  intro c o goto speed
  have hwords : Text.words "UXV GoTo -104.5 nan" = ["UXV", "GoTo", "-104.5", "nan"] := by
    decide +kernel
  have hnoRegion : Vehicle.Order.goto.NamesNoRegion ["-104.5", "nan"] :=
    (by decide : ["-104.5", "nan"].head?.map Text.lower ≠ some "region")
  have hlat : MapLink.finite? "nan" = none := by decide
  have hnone : Vehicle.Order.goto.params? ["-104.5", "nan"] = none := by
    rw [Vehicle.Order.params?, Vehicle.Order.place?, hlat]
    generalize MapLink.finite? "-104.5" = lng
    cases lng <;> rfl
  have hgoto := (order_checked_iff c rfl (by decide) 7 o rfl "UXV GoTo -104.5 nan" "UXV" "GoTo"
    ["-104.5", "nan"] hwords (by decide) .goto (by decide) hnoRegion).1.2 (fun h => nomatch h.1)
  rw [OrderChecked, hnone] at hgoto
  obtain ⟨v, hv⟩ : ∃ v, MapLink.finite? "1.5" = some v := ⟨_, rfl⟩
  have hspeed := (order_checked_iff c rfl (by decide) 7 o rfl "uxv speed 1.5 now" "uxv" "speed"
    ["1.5", "now"] (by decide +kernel) (by decide) .speed (by decide) trivial).1.2
    (fun h => nomatch h.1)
  rw [OrderChecked, Vehicle.Order.params?, hv] at hspeed
  exact ⟨rfl, hwords, hnoRegion, hnone, hgoto.1, hgoto.2, v, hv, hspeed⟩

/-- A start at a place that is no place is given, and hides the overlay. -/
theorem start_at_no_place :
    let c : Console := ⟨.standard (Profile.map .standard) [] (.ok ""), .empty, 200, 500, none⟩
    let o : Overlay Int := (new c "id" "local").opened
    let start := o.submit c 7 "uxv start north pole"
    MapLink.finite? "north" = none ∧ MapLink.finite? "pole" = none ∧
      o.session.takesCommand = true ∧ o.isOpen = true ∧
      start.reply = ⟨["UXV: start"], [.uxv "start" [], .sound "engage", .close]⟩ ∧
      start.overlay.isOpen = false := by
  intro c o start
  have hlng : MapLink.finite? "north" = none := by decide
  have hnone : Vehicle.Order.start.params? ["north", "pole"] = none := by
    rw [Vehicle.Order.params?, Vehicle.Order.place?, hlng]
    rfl
  have hline : c.dispatcher.Invokes (remember c o.session "uxv start north pole")
      "uxv start north pole" .uxv ["start", "north", "pole"] :=
    Dispatcher.invokes_of_words rfl rfl (by decide +kernel) (by decide) (by decide) rfl
  obtain ⟨hreply, hclosed⟩ := start_of_unreadable (o := o) hline 7 (by decide) hnone
  exact ⟨hlng, by decide, rfl, rfl, hreply, hclosed⟩

end Overlay

end MissionConsole
