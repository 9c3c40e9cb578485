import MissionConsole.Proofs.Host.Visit

/-!
# Closing forgets everything

Closing an overlay puts the session back and clears the screen. What stays is whose session it is,
until when an alert is on, and how often the callback was called. None of the three is seen in what
happens later: an overlay that was closed and is opened again goes on like one that was never used,
whatever was entered on it before.

The commands are given the session with its id and its origin, and a command may look at them. Two
sessions that the commands cannot tell apart are therefore equal, or differ in these two alone
while no command looks at them. That this is kept is the step from which the run follows.

## Main definitions

* `Session.SameTo` — sessions that the commands of a registry do not tell apart
* `Overlay.ShowsLike` — overlays that differ only in what is never seen
* `Overlay.Sight`, `Overlay.sights` — what is seen of operations

## Main results

* `Overlay.ShowsLike.perform`, `Overlay.ShowsLike.sights_eq` — such overlays go on alike
* `Overlay.closing_forgets` — a closed overlay goes on like a new one
-/

namespace MissionConsole

/-! ### Sessions that are one to the commands -/

namespace Session

/-- Sessions that the commands of a registry do not tell apart: they are equal, or differ in the id
and the origin alone while no command looks at these. -/
def SameTo (r : Registry) (s s' : Session) : Prop :=
  s = s' ∨ r.Impartial ∧ s.anonymous = s'.anonymous

variable {r : Registry} {s s' : Session}

namespace SameTo

theorem anonymous_eq (h : s.SameTo r s') : s.anonymous = s'.anonymous :=
  h.elim (congrArg Session.anonymous) And.right

theorem awaitingPassword_eq (h : s.SameTo r s') : s.awaitingPassword = s'.awaitingPassword := by
  have hawaiting := congrArg Session.awaitingPassword h.anonymous_eq
  exact hawaiting

theorem promptOf_eq (h : s.SameTo r s') (p : Profile) :
    Overlay.promptOf p s = Overlay.promptOf p s' := by
  rw [← Overlay.promptOf_anonymous, h.anonymous_eq, Overlay.promptOf_anonymous]

theorem reset (h : s.SameTo r s') : s.reset.SameTo r s'.reset :=
  h.imp (congrArg Session.reset) (And.imp_right fun _ => rfl)

theorem remember (h : s.SameTo r s') (c : Console) (line : String) :
    (Overlay.remember c s line).SameTo r (Overlay.remember c s' line) := by
  refine h.imp (fun hsame => by rw [hsame]) (And.imp_right fun hsame => ?_)
  rw [← Overlay.remember_anonymous, hsame, Overlay.remember_anonymous]

/-- A line is answered alike, and the sessions go on being one to the commands. -/
theorem dispatch {d : Dispatcher} (h : s.SameTo d.registry s') (files : Filesystem)
    (line : String) :
    (d.dispatch files s line).reply = (d.dispatch files s' line).reply ∧
      (d.dispatch files s line).session.SameTo d.registry (d.dispatch files s' line).session := by
  rcases h with rfl | ⟨hd, hsame⟩
  · exact ⟨rfl, .inl rfl⟩
  · have halike := Dispatcher.alike_of_impartial hd files hsame line
    exact ⟨halike.reply, .inr ⟨hd, halike.session⟩⟩

end SameTo

end Session

namespace Overlay

/-! ### Overlays that show the same -/

variable {τ : Type} {c : Console} {o o' : Overlay τ} {r : Registry}

/-- Overlays that differ only in what is never seen: the alert, the count of calls, and what the
commands do not see of the session. -/
structure ShowsLike (r : Registry) (o o' : Overlay τ) : Prop where
  session : o.session.SameTo r o'.session
  isOpen : o.isOpen = o'.isOpen
  lines : o.lines = o'.lines

/-- Events that were carried out with effects that show the same. -/
structure Effect.ShowsLike (r : Registry) (e e' : Effect τ) : Prop where
  overlay : e.overlay.ShowsLike r e'.overlay
  escaped : e.escaped = e'.escaped

namespace ShowsLike

theorem echoLine_eq (h : o.ShowsLike r o') (line : String) :
    o.echoLine c line = o'.echoLine c line := by
  rw [echoLine, echoLine, prompt, prompt, h.session.promptOf_eq, h.session.awaitingPassword_eq]

theorem withSession (h : o.ShowsLike r o') {s s' : Session} (hs : s.SameTo r s') :
    Overlay.ShowsLike r { o with session := s } { o' with session := s' } :=
  ⟨hs, h.isOpen, h.lines⟩

theorem append (h : o.ShowsLike r o') (lines : List String) :
    (o.append c lines).ShowsLike r (o'.append c lines) :=
  ⟨h.session, h.isOpen, by rw [Overlay.append, Overlay.append, h.lines]⟩

theorem opened (h : o.ShowsLike r o') : o.opened.ShowsLike r o'.opened :=
  ⟨h.session, rfl, h.lines⟩

theorem hide (h : o.ShowsLike r o') : o.hide.ShowsLike r o'.hide :=
  ⟨h.session, rfl, h.lines⟩

theorem close (h : o.ShowsLike r o') : (o.close c).ShowsLike r (o'.close c) :=
  ⟨h.session.reset, rfl, rfl⟩

theorem toggle (h : o.ShowsLike r o') : (o.toggle c).ShowsLike r (o'.toggle c) := by
  rw [Overlay.toggle, Overlay.toggle, h.isOpen]
  split_ifs
  · exact h.close
  · exact h.opened

theorem notify (h : o.ShowsLike r o') (e : Event) :
    (o.notify c e).1.ShowsLike r (o'.notify c e).1 := by
  rw [Overlay.notify, Overlay.notify]
  cases c.callback with
  | none => exact h
  | some fails => exact ⟨h.session, h.isOpen, h.lines⟩

variable [Timescale τ]

/-- An event is carried out on both, or is too long for the clock on both. -/
theorem react? (h : o.ShowsLike r o') (now : τ) (e : Event) :
    Option.Rel (Overlay.ShowsLike r) (o.react? c now e) (o'.react? c now e) := by
  cases e with
  | clear => exact .some ⟨h.session, h.isOpen, rfl⟩
  | close => exact .some h.hide
  | alert durationMs =>
    rw [Overlay.react?, Overlay.react?]
    cases (Timescale.millis? durationMs : Option τ) with
    | none => exact .none
    | some d => exact .some ⟨h.session, h.isOpen, h.lines⟩
  | _ => exact .some h

theorem apply (h : o.ShowsLike r o') (now : τ) (e : Event) :
    (o.apply c now e).ShowsLike r (o'.apply c now e) := by
  have hreact := h.react? (c := c) now e
  rw [Overlay.apply, Overlay.apply]
  generalize o.react? c now e = after, o'.react? c now e = after' at hreact
  cases hreact with
  | none => exact ⟨h, rfl⟩
  | some hafter => exact ⟨hafter.notify e, rfl⟩

theorem applyAll (h : o.ShowsLike r o') (now : τ) (events : List Event) :
    (o.applyAll c now events).ShowsLike r (o'.applyAll c now events) := by
  induction events generalizing o o' with
  | nil => exact ⟨h, rfl⟩
  | cons e rest ih =>
    have hfirst := h.apply (c := c) now e
    have hrest := ih hfirst.overlay
    simp only [Overlay.applyAll, hfirst.escaped]
    split_ifs
    · exact hfirst
    · exact ⟨hrest.overlay, hrest.escaped⟩

/-- A line is answered alike on overlays that show the same, and they go on doing so. -/
theorem submit (h : o.ShowsLike c.dispatcher.registry o') (now : τ) (line : String) :
    (o.submit c now line).reply = (o'.submit c now line).reply ∧
      (o.submit c now line).toEffect.ShowsLike c.dispatcher.registry
        (o'.submit c now line).toEffect := by
  obtain ⟨hreply, hsession⟩ := (h.session.remember c line).dispatch c.files line
  have hscreen := h.append (c := c) [o'.echoLine c line]
  generalize hturn : c.dispatcher.dispatch c.files (remember c o'.session line) line = turn'
    at hreply hsession
  have heffect := ((hscreen.withSession hsession).append (c := c) turn'.reply.lines).applyAll
    (c := c) now turn'.reply.events
  simp only [Overlay.submit, append_session, h.echoLine_eq, hturn, hreply]
  exact ⟨trivial, heffect.overlay, heffect.escaped⟩

/-- Whatever is done with overlays that show the same, they go on doing so. -/
theorem perform (h : o.ShowsLike c.dispatcher.registry o') (operation : Operation τ) :
    (o.perform c operation).ShowsLike c.dispatcher.registry (o'.perform c operation) := by
  cases operation with
  | submit entry => exact (h.submit (c := c.dated entry.date) entry.now entry.line).2.overlay
  | «open» => exact h.opened
  | hide => exact h.hide
  | close => exact h.close
  | toggle => exact h.toggle
  | append lines => exact h.append lines

end ShowsLike

/-! ### What is seen -/

/-- What is seen of an operation: the reply to a line, if it was one, with the failure that has kept
it, and what the overlay is like afterwards. The session is seen without its id and origin. -/
structure Sight where
  reply : Option (Reply × Option Fault)
  prompt : String
  lines : List String
  isOpen : Bool
  session : Session

section Sights

variable [Timescale τ]

/-- The reply to an operation that submits a line. -/
def reply? (c : Console) (o : Overlay τ) : Operation τ → Option (Reply × Option Fault)
  | .submit entry => some ((o.enter c entry).reply, (o.enter c entry).escaped)
  | _ => none

/-- What is seen of an operation. -/
def sight (c : Console) (o : Overlay τ) (operation : Operation τ) : Sight :=
  let after := o.perform c operation
  ⟨o.reply? c operation, after.prompt c, after.lines, after.isOpen, after.session.anonymous⟩

/-- What is seen of operations, one after the other. -/
def sights (c : Console) (o : Overlay τ) : List (Operation τ) → List Sight
  | [] => []
  | operation :: rest => o.sight c operation :: sights c (o.perform c operation) rest

namespace ShowsLike

theorem reply?_eq (h : o.ShowsLike c.dispatcher.registry o') (operation : Operation τ) :
    o.reply? c operation = o'.reply? c operation := by
  cases operation with
  | submit entry =>
    obtain ⟨hreply, heffect⟩ := h.submit (c := c.dated entry.date) entry.now entry.line
    rw [reply?, reply?, enter, enter, hreply, heffect.escaped]
  | _ => rfl

theorem sight_eq (h : o.ShowsLike c.dispatcher.registry o') (operation : Operation τ) :
    o.sight c operation = o'.sight c operation := by
  have hafter := h.perform operation
  rw [sight, sight, h.reply?_eq, prompt, prompt, hafter.session.promptOf_eq,
    hafter.session.anonymous_eq, hafter.isOpen, hafter.lines]

/-- Nothing that is done with them sets apart overlays that show the same. -/
theorem sights_eq (h : o.ShowsLike c.dispatcher.registry o') (operations : List (Operation τ)) :
    o.sights c operations = o'.sights c operations := by
  induction operations generalizing o o' with
  | nil => rfl
  | cons first rest ih => rw [sights, sights, h.sight_eq, ih (h.perform first)]

end ShowsLike

/-- Whatever was done with an overlay, closing it and opening it again leaves a new one with the id
and the origin of its session, with its alert, and with the count of its callback's calls. Nothing
that is done afterwards is seen otherwise than on that new one, whatever the commands are; nor than
on a new one of any id and origin, if no command looks at these. -/
theorem closing_forgets (c : Console) (o : Overlay τ) :
    (o.close c).opened =
        { (new c o.session.id o.session.origin : Overlay τ).opened with
          alertUntil := o.alertUntil
          calls := o.calls } ∧
      (∀ later, (o.close c).opened.sights c later =
        (new c o.session.id o.session.origin : Overlay τ).opened.sights c later) ∧
      (c.dispatcher.registry.Impartial → ∀ id origin later,
        (o.close c).opened.sights c later =
          (new c id origin : Overlay τ).opened.sights c later) := by
  refine ⟨rfl, fun later => ?_, fun hd id origin later => ?_⟩
  · have hsame : (o.close c).opened.ShowsLike c.dispatcher.registry
        (new c o.session.id o.session.origin : Overlay τ).opened := ⟨.inl rfl, rfl, rfl⟩
    exact hsame.sights_eq later
  · have hsame : (o.close c).opened.ShowsLike c.dispatcher.registry
        (new c id origin : Overlay τ).opened := ⟨.inr ⟨hd, rfl⟩, rfl, rfl⟩
    exact hsame.sights_eq later

end Sights

/-- Root's console, closed and opened again, is a guest's: the riddle that waited, the screen and
the password are gone, and the alert is still on. -/
theorem closing_forgets_root :
    let c : Console := ⟨.standard (Profile.map .standard) [] (.ok ""), .empty, 0, 0, none⟩
    let submit (line : String) : Operation Int := .submit ⟨⟨line, .ok ""⟩, 7⟩
    let o := (new c "first" "local").run c
      [.open, submit "sudo su", submit "login", submit "legion", .append ["note"], submit "probe"]
    let later := [submit "whoami", submit "legion", .toggle, .toggle]
    c.dispatcher.registry.Impartial ∧
      (o.session.isRoot = true ∧ o.session.riddlePending = true ∧ o.lines ≠ freshScreen c) ∧
      (o.close c).opened.alertActive 8 = true ∧
      (o.close c).opened.sights c later =
        (new c "second" "web" : Overlay Int).opened.sights c later := by
  intro c submit o later
  have hd : c.dispatcher.registry.Impartial := Registry.impartial_standard
  exact ⟨hd, by decide, by decide, (closing_forgets c o).2.2 hd "second" "web" later⟩

end Overlay

end MissionConsole
