import MissionConsole.Overlay
import MissionConsole.Proofs.Session.Sound

/-!
# What a host does with an overlay

Besides submitting lines, a host opens, hides, closes and toggles an overlay and adds lines to its
screen, in any order. All of it leaves the session to the dispatcher, but for closing, which puts
the session back; so what lines keep and new sessions have, every overlay has at any time.

## Main definitions

* `Console.dated` — a console at the moment of a line
* `Overlay.Entry`, `Overlay.enter` — a line at its moment, and the line submitted
* `Overlay.Operation`, `Overlay.perform`, `Overlay.run` — what is done with an overlay
* `Overlay.Moment`, `Overlay.moments` — operations with the overlays on which they were performed

## Main results

* `Overlay.submit_session` — a line does to the session what the dispatcher does to it
* `Overlay.sound_run` — the session of an overlay is sound, whatever has been done with it
-/

namespace MissionConsole

/-- A console whose clock shows a date, or fails. -/
def Console.dated (c : Console) (date : Except String String) : Console :=
  { c with dispatcher := c.dispatcher.dated date }

namespace Overlay

/-- A line at its moment, with the reading of the clock. -/
structure Entry (τ : Type) extends Dispatcher.Input where
  now : τ

/-- What a host does with an overlay. -/
inductive Operation (τ : Type) where
  | submit (entry : Entry τ)
  | open
  | hide
  | close
  | toggle
  | append (lines : List String)

variable {τ : Type}

section Screen

variable {c : Console} {o : Overlay τ}

@[simp] theorem append_session (lines : List String) : (o.append c lines).session = o.session := rfl

@[simp] theorem notify_session (e : Event) : (o.notify c e).1.session = o.session := by
  rw [notify]
  split <;> rfl

theorem toggle_session :
    (o.toggle c).session = if o.isOpen then o.session.reset else o.session := by
  rw [toggle]
  split_ifs <;> rfl

/-- What is remembered of a line changes the history at most. -/
theorem remember_cases (c : Console) (s : Session) (line : String) :
    remember c s line = s ∨
      remember c s line = s.record (Text.trim line) c.historySize := by
  rw [remember]
  split_ifs
  · exact .inr rfl
  · exact .inl rfl

end Screen

variable [Timescale τ]

/-- Submits a line at its moment. -/
def enter (c : Console) (o : Overlay τ) (entry : Entry τ) : Submission τ :=
  o.submit (c.dated entry.date) entry.now entry.line

/-- An overlay after an operation. -/
def perform (c : Console) (o : Overlay τ) : Operation τ → Overlay τ
  | .submit entry => (o.enter c entry).overlay
  | .open => o.opened
  | .hide => o.hide
  | .close => o.close c
  | .toggle => o.toggle c
  | .append lines => o.append c lines

/-- An overlay after operations. -/
def run (c : Console) (o : Overlay τ) (operations : List (Operation τ)) : Overlay τ :=
  operations.foldl (perform c) o

variable {c : Console} {o : Overlay τ} {now : τ}

theorem run_cons (first : Operation τ) (rest : List (Operation τ)) :
    o.run c (first :: rest) = (o.perform c first).run c rest := by
  rw [run, List.foldl_cons, run]

/-- What every operation keeps, a run keeps. -/
theorem run_invariant (Holds : Overlay τ → Prop)
    (hstep : ∀ o operation, Holds o → Holds (o.perform c operation)) (ho : Holds o)
    (operations : List (Operation τ)) : Holds (o.run c operations) := by
  induction operations generalizing o with
  | nil => exact ho
  | cons first rest ih =>
    rw [run_cons]
    exact ih (hstep o first ho)

theorem run_concat (before : List (Operation τ)) (last : Operation τ) :
    o.run c (before ++ [last]) = (o.run c before).perform c last := by
  rw [run, List.foldl_append, List.foldl_cons, List.foldl_nil, run]

/-! ### Operations at their moments -/

/-- An operation, with the overlay on which it is performed. -/
structure Moment (τ : Type) where
  overlay : Overlay τ
  operation : Operation τ

/-- Operations, each with the overlay that those before it have left. -/
def moments (c : Console) (o : Overlay τ) : List (Operation τ) → List (Moment τ)
  | [] => []
  | first :: rest => ⟨o, first⟩ :: moments c (o.perform c first) rest

theorem moments_concat (before : List (Operation τ)) (last : Operation τ) :
    o.moments c (before ++ [last]) = o.moments c before ++ [⟨o.run c before, last⟩] := by
  induction before generalizing o with
  | nil => rfl
  | cons first rest ih => rw [List.cons_append, moments, moments, ih, run_cons, List.cons_append]

/-! ### The session under events and lines -/

theorem react?_session {after : Overlay τ} {e : Event} (h : o.react? c now e = some after) :
    after.session = o.session := by
  cases e
  case alert durationMs =>
    obtain ⟨duration, -, rfl⟩ := Option.map_eq_some_iff.1 h
    rfl
  all_goals
    obtain rfl := Option.some.inj h
    rfl

@[simp] theorem apply_session (e : Event) : (o.apply c now e).overlay.session = o.session := by
  rw [apply]
  split
  · rfl
  · rename_i after hreact
    exact (notify_session e).trans (react?_session hreact)

/-- Events never touch the session. -/
@[simp] theorem applyAll_session (events : List Event) :
    (o.applyAll c now events).overlay.session = o.session := by
  induction events generalizing o with
  | nil => rfl
  | cons e rest ih =>
    simp only [applyAll]
    -- An event that fails is the last one.
    split_ifs
    · exact apply_session e
    · exact ih.trans (apply_session e)

/-- A line does to the session what the dispatcher does to it, once the line is remembered. -/
theorem submit_session (line : String) :
    (o.submit c now line).overlay.session =
      (c.dispatcher.dispatch c.files (remember c o.session line) line).session := by
  simp only [submit, applyAll_session, append_session]

/-! ### Sound sessions -/

omit [Timescale τ] in
theorem sound_remember {s : Session} (h : s.Sound c.dispatcher.profile c.files) (line : String) :
    (remember c s line).Sound c.dispatcher.profile c.files := by
  rcases remember_cases c s line with hsame | hrecord
  · rwa [hsame]
  · rw [hrecord]
    exact h.record _ _

theorem sound_submit (hd : c.dispatcher.registry = .standard)
    (h : o.session.Sound c.dispatcher.profile c.files) (line : String) :
    (o.submit c now line).overlay.session.Sound c.dispatcher.profile c.files := by
  rw [submit_session]
  have hchange := Dispatcher.change_dispatch hd c.files (remember c o.session line) line
  exact (sound_remember h line).change hchange

/-- Whatever is done with an overlay, a sound session stays sound. -/
theorem sound_perform (hd : c.dispatcher.registry = .standard)
    (h : o.session.Sound c.dispatcher.profile c.files) (operation : Operation τ) :
    (o.perform c operation).session.Sound c.dispatcher.profile c.files := by
  cases operation with
  | submit entry =>
    rw [perform, enter]
    exact sound_submit (c := c.dated entry.date) hd h entry.line
  | «open» => exact h
  | hide => exact h
  | close => exact .reset _ _ _
  | toggle =>
    rw [perform, toggle_session]
    split_ifs
    · exact .reset _ _ _
    · exact h
  | append lines => exact h

/-- The session of an overlay is sound, whatever has been done with it and in whatever order. -/
theorem sound_run (c : Console) (hd : c.dispatcher.registry = .standard) (id origin : String)
    (operations : List (Operation τ)) :
    ((Overlay.new c id origin : Overlay τ).run c operations).session.Sound c.dispatcher.profile
      c.files := by
  refine run_invariant (fun o => o.session.Sound c.dispatcher.profile c.files) ?_ ?_ operations
  · exact fun o operation h => sound_perform hd h operation
  · exact .fresh _ _ id origin

/-- On the map's console the command of the riddle is taken as a password after `login`. -/
theorem sound_run_login :
    let c : Console := ⟨.standard (Profile.map .standard) [] (.ok ""), .empty, 0, 0, none⟩
    let operations : List (Operation Float) :=
      [.open, .submit ⟨⟨"login", .ok ""⟩, 0⟩, .submit ⟨⟨"probe", .ok ""⟩, 0⟩, .toggle,
        .append ["again"], .submit ⟨⟨"cd /", .ok ""⟩, 0⟩]
    c.dispatcher.registry = .standard ∧
      ((Overlay.new c "id" "local").run c operations).session.Sound c.dispatcher.profile
        c.files := by
  intro c operations
  have hd : c.dispatcher.registry = .standard := rfl
  exact ⟨hd, sound_run c hd "id" "local" operations⟩

end Overlay

end MissionConsole
