import MissionConsole.Proofs.Access.Password
import MissionConsole.Proofs.Host.Course

/-!
# What the wire shows of a password

A password that is typed on a remote visit goes through the editor, which must not show it, through
the overlay and the dispatcher, which mask it, and back through the reply. Two visits in which two
wrong passwords are typed, with whatever corrections, are the same visit to everyone who watches the
wire or reads the journal: the same bytes are sent, the same overlay is left, and the same records
are kept.

Whether keys are shown is settled when the shell asks for a line, and not while they are typed. So
the proof needs that a shell which is asked for a password has been silent since it asked, and that
no riddle waits for the line in place of the password.

## Main definitions

* `RemoteShell.Orderly` — what holds of a shell as long as a visit goes on
* `RemoteShell.AsksPassword` — the shell is about to read a password
* `RemoteShell.IsAttempt` — keys that make a password

## Main results

* `RemoteShell.orderly_after` — a visit keeps the shell orderly
* `RemoteShell.after_editing` — where keys are not shown, editing changes the line alone
* `RemoteShell.wire_confidential` — the wire shows no more of a password than whether it was right
-/

namespace MissionConsole.RemoteShell

variable {τ : Type} [Timescale τ] {c : Console} {s t : RemoteShell τ} {clock later : Clock τ}
  {r : Reading τ} {fault : Option Fault} {b : UInt8} {keys before rest : List UInt8}

/-! ### Shells that go on -/

/-- What holds of a shell as long as a visit goes on. -/
structure Orderly (c : Console) (s : RemoteShell τ) : Prop where
  sound : s.overlay.session.Sound c.dispatcher.profile c.files
  /-- Keys are shown unless a password is asked for. -/
  echo_eq : s.editor.echo = !s.overlay.session.awaitingPassword

omit [Timescale τ] in
theorem orderly_greet {o : Overlay τ} (h : o.session.Sound c.dispatcher.profile c.files) :
    (greet c o).Orderly c :=
  ⟨h, rfl⟩

/-- Keys of a line change neither the session nor whether they are shown. -/
theorem orderly_typing (hs : s.Orderly c) (h : s.press c r b = .typing t) : t.Orderly c := by
  obtain ⟨e, sent, hfeed, rfl⟩ := feed_of_typing h
  have hfed := LineEditor.fed_feed s.editor b
  rw [hfeed] at hfed
  cases hfed with
  | more hecho _ => exact ⟨hs.sound, hecho.trans hs.echo_eq⟩

theorem submit_goOn {now : τ} {line sent : String} {afterReturn : Bool}
    (h : s.submit c now line sent afterReturn = (t, .goOn)) :
    t.overlay = (s.overlay.submit c now line).overlay.opened ∧ t.HasTyped [] := by
  obtain ⟨s', rfl, hoverlay⟩ := prompted_of_goOn h
  exact ⟨hoverlay, hasTyped_prompted ..⟩

theorem orderly_entered (hd : c.dispatcher.registry = .standard) (hs : s.Orderly c)
    {x : Entered τ} (h : s.press c r b = .entered x t .goOn) : t.Orderly c := by
  obtain ⟨text, sent, afterReturn, -, -, hsubmit⟩ := feed_of_entered h
  obtain ⟨hoverlay, htyped⟩ := submit_goOn hsubmit
  refine ⟨?_, htyped.echo_eq⟩
  rw [hoverlay, Overlay.opened_session]
  exact Overlay.sound_submit (c := c.dated r.date) hd hs.sound text

/-- A visit keeps the shell orderly. -/
theorem orderly_after (hd : c.dispatcher.registry = .standard) (hs : s.Orderly c)
    (h : s.after c clock before = some (t, later)) : t.Orderly c := by
  refine after_invariant (fun s => s.Orderly c) ?_ ?_ hs h
  · intro s s' r b hs hpress
    exact orderly_typing hs hpress
  · intro s s' r b x hs hpress
    exact orderly_entered hd hs hpress

/-! ### A password is typed -/

/-- The shell is about to read a password, of which nothing is typed yet. -/
structure AsksPassword (s : RemoteShell τ) : Prop where
  phase_eq : s.editor.phase = .text
  buffer_eq : s.editor.buffer = []
  awaiting : s.overlay.session.awaitingPassword = true

/-- Keys that make a password: they edit the line, and something is left in it. -/
structure IsAttempt (keys : List UInt8) : Prop where
  editing : ∀ b ∈ keys, LineEditor.IsEditing b
  not_blank : Text.trim (LineEditor.edited keys) ≠ ""

/-- Where keys are not shown, editing changes the line alone: the overlay, the journal, what was
sent and the clocks stay as they are. -/
theorem after_editing (c : Console) (clock : Clock τ) (hphase : s.editor.phase = .text)
    (hsilent : s.editor.echo = false) (hkeys : ∀ b ∈ keys, LineEditor.IsEditing b) :
    ∃ e : LineEditor, s.after c clock keys = some ({ s with editor := e }, clock) ∧
      e.phase = .text ∧ e.buffer = keys.foldl LineEditor.edit s.editor.buffer := by
  induction keys generalizing s with
  | nil => exact ⟨s.editor, rfl, hphase, rfl⟩
  | cons b keys ih =>
    obtain ⟨hb, hkeys⟩ := List.forall_mem_cons.1 hkeys
    obtain ⟨sent, hfeed⟩ := LineEditor.feed_editing hphase hb
    have hfed := LineEditor.fed_feed s.editor b
    rw [hfeed] at hfed
    cases hfed with
    | more _ hsent =>
      obtain rfl := hsent hsilent
      simp only [after, press, hfeed, String.append_empty, List.foldl_cons]
      exact ih hphase hsilent hkeys

/-- What a completed line leads to is told by what its submission leads to; the editor that has
collected it does not matter. -/
theorem served_return_congr {e₁ e₂ : LineEditor} (h₁ : e₁.phase = .text) (h₂ : e₂.phase = .text)
    (hsubmission :
      s.overlay.submit (c.dated clock.reading.date) clock.reading.now (String.ofList e₁.buffer) =
        s.overlay.submit (c.dated clock.reading.date) clock.reading.now
          (String.ofList e₂.buffer)) :
    ({ s with editor := e₁ } : RemoteShell τ).served c fault clock
        (Typing.carriageReturn :: rest) =
      ({ s with editor := e₂ } : RemoteShell τ).served c fault clock
        (Typing.carriageReturn :: rest) := by
  simp only [served, press, LineEditor.feed_return h₁, LineEditor.feed_return h₂, submit,
    hsubmission]
  generalize s.overlay.submit (c.dated clock.reading.date) clock.reading.now
    (String.ofList e₂.buffer) = submission
  cases submission.escaped with
  | some f => rfl
  | none =>
    dsimp only
    -- Either the visit ends, or a new editor takes the place of both.
    cases Event.endsSession submission.reply.events with
    | true => rfl
    | false => rfl

/-- Two attempts that are both right or both wrong are submitted alike. -/
theorem submit_attempts (hs : s.Orderly c)
    (hawaiting : s.overlay.session.awaitingPassword = true) {first second : List UInt8}
    (hfirst : IsAttempt first) (hsecond : IsAttempt second)
    (hright : Text.trim (LineEditor.edited second) = c.dispatcher.profile.password ↔
      Text.trim (LineEditor.edited first) = c.dispatcher.profile.password) (r : Reading τ) :
    s.overlay.submit (c.dated r.date) r.now (LineEditor.edited second) =
      s.overlay.submit (c.dated r.date) r.now (LineEditor.edited first) := by
  -- A riddle would take the line for itself and answer it unmasked, but none waits.
  have hriddle : s.overlay.session.riddlePending = false :=
    Bool.eq_false_iff.2 fun h => hs.sound.exclusive ⟨h, hawaiting⟩
  exact Overlay.submit_withPassword_of_takesPassword (c := c.dated r.date)
    (Session.takesPassword_iff.2 ⟨hriddle, hawaiting⟩) hfirst.not_blank hsecond.not_blank hright

/-- A visit in which a password is asked for goes on alike after two attempts that are both right
or both wrong. -/
theorem served_attempts (hs : s.Orderly c)
    (hasks : s.AsksPassword) {first second : List UInt8} (hfirst : IsAttempt first)
    (hsecond : IsAttempt second)
    (hright : Text.trim (LineEditor.edited second) = c.dispatcher.profile.password ↔
      Text.trim (LineEditor.edited first) = c.dispatcher.profile.password) :
    s.served c fault clock (second ++ Typing.carriageReturn :: rest) =
      s.served c fault clock (first ++ Typing.carriageReturn :: rest) := by
  have hsilent : s.editor.echo = false := by
    rw [hs.echo_eq, hasks.awaiting]
    rfl
  obtain ⟨e₁, hafter₁, hphase₁, hbuffer₁⟩ :=
    after_editing c clock hasks.phase_eq hsilent hfirst.editing
  obtain ⟨e₂, hafter₂, hphase₂, hbuffer₂⟩ :=
    after_editing c clock hasks.phase_eq hsilent hsecond.editing
  rw [hasks.buffer_eq] at hbuffer₁ hbuffer₂
  rw [served_append hafter₁, served_append hafter₂]
  apply served_return_congr hphase₂ hphase₁
  rw [hbuffer₁, hbuffer₂]
  exact submit_attempts hs hasks.awaiting hfirst hsecond hright clock.reading

/-- Whatever has been done with an overlay and whatever a visitor has typed: when the shell asks for
a password, two attempts that are both right or both wrong lead to the same visit. The same is sent,
the same overlay is left, the same is logged, and the same keys behind them are not read. Where keys
are not shown, a reading sends nothing but the end of the line. -/
theorem wire_confidential (c : Console) (hd : c.dispatcher.registry = .standard)
    (id origin : String) (operations : List (Overlay.Operation τ)) (clock later : Clock τ)
    (fault : Option Fault) (before first second rest : List UInt8) (s : RemoteShell τ)
    (hreached : (greet c ((Overlay.new c id origin).run c operations)).after c clock before =
      some (s, later))
    (hasks : s.AsksPassword) (hfirst : IsAttempt first) (hsecond : IsAttempt second)
    (hright : Text.trim (LineEditor.edited second) = c.dispatcher.profile.password ↔
      Text.trim (LineEditor.edited first) = c.dispatcher.profile.password) :
    let o := (Overlay.new c id origin).run c operations
    let typed (keys : List UInt8) := before ++ (keys ++ Typing.carriageReturn :: rest)
    (greet c o).served c fault clock (typed second) =
        (greet c o).served c fault clock (typed first) ∧
      (∀ now : τ, clock = .still ⟨now, c.dispatcher.clock⟩ →
        serve c now o ⟨typed second, fault⟩ = serve c now o ⟨typed first, fault⟩) ∧
      (∀ keys : List UInt8, IsAttempt keys →
        (s.editor.readLine (keys ++ Typing.carriageReturn :: rest)).ending =
          .line (LineEditor.edited keys)) ∧
      ∀ (e : LineEditor) (bytes : List UInt8), e.echo = false →
        (e.readLine bytes).sent ∈ ["", "\r\n", "^C\r\n"] := by
  intro o typed
  have hsound := Overlay.sound_run c hd id origin operations
  have horderly : s.Orderly c := orderly_after hd (orderly_greet hsound) hreached
  have halike : (greet c o).served c fault clock (typed second) =
      (greet c o).served c fault clock (typed first) := by
    dsimp only [typed, o]
    rw [served_append hreached, served_append hreached]
    exact served_attempts horderly hasks hfirst hsecond hright
  refine ⟨halike, ?_, ?_, ?_⟩
  · rintro now rfl
    rwa [served_still, served_still] at halike
  · intro keys hkeys
    rw [LineEditor.ending_readLine_edited hasks.phase_eq hkeys.editing, hasks.buffer_eq]
    rfl
  · intro e bytes hsilent
    exact LineEditor.sent_readLine_of_silent hsilent bytes

/-- After `login`, a plain guess and one that is corrected on the way, with a byte that is no
character, leave nothing behind that tells them apart. -/
theorem wire_confidential_login :
    let c : Console := ⟨.standard (Profile.map .standard) [] (.ok ""), .empty, 200, 500, none⟩
    let clock : Clock Int := fun n => ⟨n * 10, .ok ""⟩
    let shell := greet c (Overlay.new c "id" "remote")
    let login := Typing.bytes ["login"]
    let first : List UInt8 := "guess".toList.map Typing.byte
    let second : List UInt8 := [0x7f, 0x68, 0xc3, 0xa9, 0x6a, 0x08, 0x21]
    LineEditor.edited second = "h!" ∧
      ∃ s later, shell.after c clock login = some (s, later) ∧ s.AsksPassword ∧
        IsAttempt first ∧ IsAttempt second ∧
        shell.served c none clock (login ++ (second ++ Typing.carriageReturn :: login)) =
          shell.served c none clock (login ++ (first ++ Typing.carriageReturn :: login)) := by
  intro c clock shell login first second
  have hasked : (shell.after c clock login).any (fun x =>
      decide (x.1.editor.phase = .text) && x.1.editor.buffer.isEmpty &&
        x.1.overlay.session.awaitingPassword) = true := by
    decide +kernel
  obtain ⟨⟨s, later⟩, hreached, hs⟩ := (Option.any_eq_true _ _).1 hasked
  have hasks : s.AsksPassword := by
    simp only [Bool.and_eq_true, decide_eq_true_eq, List.isEmpty_iff] at hs
    exact ⟨hs.1.1, hs.1.2, hs.2⟩
  have hfirst : IsAttempt first := ⟨by decide +kernel, by decide +kernel⟩
  have hsecond : IsAttempt second := ⟨by decide +kernel, by decide +kernel⟩
  have hwire := wire_confidential c rfl "id" "remote" [] clock later none login first second login
    s hreached hasks hfirst hsecond (by decide +kernel)
  exact ⟨by decide +kernel, s, later, hreached, hasks, hfirst, hsecond, hwire.1⟩

end MissionConsole.RemoteShell
