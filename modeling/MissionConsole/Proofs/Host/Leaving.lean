import MissionConsole.Proofs.Host.Course

/-!
# How a remote visit ends

Keys come to an end, and so does the visit: every line uses up the key that completes it, and behind
the last key the visitor counts as gone. There are many ways out — a line that ends the session, the
key that leaves, bytes that stop in the middle of a line, of an escape sequence or of a line end —
and all of them take leave in the same way. The visitor is told so, and the overlay is left closed,
with a session at its beginning.

Only a line that fails has no leave taken of it. Of the lines of the built-in commands these are the
ones that raise an alert which is too long for the clock.

## Main definitions

* `RemoteShell.Leaves` — a visit ends as it should

## Main results

* `RemoteShell.exists_finish` — where no line fails, every visit of a visitor who hangs up takes
  leave
* `RemoteShell.leaves_served` — every such visit ends as it should
* `RemoteShell.alert_too_long_takes_no_leave` — what an alert that is too long does
-/

namespace MissionConsole

namespace Overlay

variable {τ : Type} {c : Console} {o : Overlay τ} {now : τ} {line : String}

@[simp] theorem remember_origin (s : Session) (line : String) :
    (remember c s line).origin = s.origin := by
  rw [remember]
  split_ifs <;> rfl

/-- A line does not change where a session comes from. -/
theorem submit_origin [Timescale τ] (hd : c.dispatcher.registry = .standard) :
    (o.submit c now line).overlay.session.origin = o.session.origin := by
  have hchange := Dispatcher.change_dispatch hd c.files (remember c o.session line) line
  rw [submit_session, hchange.origin_eq, remember_origin]

end Overlay

namespace RemoteShell

variable {τ : Type} [Timescale τ] {c : Console} {s t : RemoteShell τ} {clock : Clock τ}
  {r : Reading τ} {fault : Option Fault} {b : UInt8} {bytes : List UInt8}

/-! ### Every way out takes leave -/

theorem session_submit (c : Console) (now : τ) (s : RemoteShell τ) (line sent : String)
    (afterReturn : Bool) :
    (s.submit c now line sent afterReturn).1.overlay.session =
      (s.overlay.submit c now line).overlay.session := by
  rw [submit]
  generalize s.overlay.submit c now line = submission
  cases submission.escaped with
  | some f => rfl
  | none =>
    dsimp only
    split_ifs
    · rfl
    · rfl

/-- A key leaves the session with its id and its origin. -/
theorem reset_typing (h : s.press c r b = .typing t) :
    t.overlay.session.reset = s.overlay.session.reset := by
  obtain ⟨e, sent, -, rfl⟩ := feed_of_typing h
  rfl

theorem reset_entered (hd : c.dispatcher.registry = .standard) {x : Entered τ} {next : Next}
    (h : s.press c r b = .entered x t next) :
    t.overlay.session.reset = s.overlay.session.reset := by
  obtain ⟨text, sent, afterReturn, -, -, hsubmit⟩ := feed_of_entered h
  have hsession := session_submit (c.dated r.date) r.now s text sent afterReturn
  have hdated : (c.dated r.date).dispatcher.registry = .standard := hd
  rw [hsubmit] at hsession
  rw [hsession, Session.reset, Session.reset, Overlay.submit_id hdated,
    Overlay.submit_origin hdated]

/-- Where the alerts of the profile are not too long for the clock, no line fails. -/
theorem ne_fail_of_entered (hd : c.dispatcher.registry = .standard)
    (hfits : (Timescale.millis? c.dispatcher.profile.alertDurationMs : Option τ) ≠ none)
    {x : Entered τ} {next : Next} (h : s.press c r b = .entered x t next) (f : Fault) :
    next ≠ .fail f := by
  rintro rfl
  obtain ⟨text, sent, afterReturn, -, -, hsubmit⟩ := feed_of_entered h
  have hescaped : (s.overlay.submit (c.dated r.date) r.now text).escaped = none :=
    Overlay.escaped_submit (c := c.dated r.date) hd hfits
  rw [escaped_of_fail hsubmit] at hescaped
  exact Option.some_ne_none f hescaped

omit [Timescale τ] in
/-- A visitor who hangs up is taken leave of. -/
theorem exhausted_of_hangUp (hfault : ∀ f, fault = some f → f.isHangUp = true)
    (s : RemoteShell τ) : s.exhausted c fault = s.finish c [] := by
  cases fault with
  | none => rfl
  | some f => rw [exhausted, if_pos (hfault f rfl)]

/-- Where no line fails, every visit of a visitor who hangs up takes leave, of a session that is
still the one that it has begun with. -/
theorem exists_finish (hd : c.dispatcher.registry = .standard)
    (hfits : (Timescale.millis? c.dispatcher.profile.alertDurationMs : Option τ) ≠ none)
    (hfault : ∀ f, fault = some f → f.isHangUp = true) (s : RemoteShell τ) (clock : Clock τ)
    (bytes : List UInt8) :
    ∃ (t : RemoteShell τ) (unread : List UInt8),
      s.served c fault clock bytes = t.finish c unread ∧
        t.overlay.session.reset = s.overlay.session.reset := by
  induction bytes generalizing s clock with
  | nil => exact ⟨s, [], exhausted_of_hangUp hfault s, rfl⟩
  | cons b rest ih =>
    rw [served]
    cases hpress : s.press c clock.reading b with
    | typing s' =>
      obtain ⟨t, unread, hserved, hreset⟩ := ih s' clock
      exact ⟨t, unread, hserved, hreset.trans (reset_typing hpress)⟩
    | entered x s' next =>
      have hsame := reset_entered hd hpress
      cases next with
      | goOn =>
        obtain ⟨t, unread, hserved, hreset⟩ := ih s' clock.later
        exact ⟨t, unread, hserved, hreset.trans hsame⟩
      | leave => exact ⟨s', rest, rfl, hsame⟩
      | fail f =>
        -- The one way out without leave, which the built-in commands do not take.
        exact absurd rfl (ne_fail_of_entered hd hfits hpress f)
    | left => exact ⟨s, rest, rfl, rfl⟩

/-! ### A visit from its greeting to its end -/

/-- A visit ends as it should, and every line of it costs keys. -/
structure Leaves (c : Console) (o : Overlay τ) (clock : Clock τ) (bytes : List UInt8)
    (served : Served τ) (rounds : List (Round τ)) : Prop where
  /-- No failure ends the visit. -/
  escaped_eq : served.escaped = none
  /-- The last thing that is sent is that the visitor is logged out. -/
  farewell : ∃ sent, served.sent = sent ++ "logout\r\n"
  /-- The overlay is left closed. -/
  closed : served.overlay.isOpen = false
  /-- Its session is at its beginning. -/
  session_eq : served.overlay.session = .fresh o.session.id o.session.origin
  /-- Its screen is fresh. -/
  lines_eq : served.overlay.lines = Overlay.freshScreen c
  /-- The lines are those that the shell enters. -/
  entered_eq : rounds.map Round.toEntered = (greet c o).entered c clock bytes
  /-- All that is logged is logged of them. -/
  journal_eq : served.journal = rounds.flatMap (·.submission.journal)
  /-- They are read from the keys in order, each from keys of its own. -/
  keys_prefix : rounds.flatMap (·.keys) <+: bytes
  /-- Each of them has used up the key that completes it. -/
  endsLine : ∀ x ∈ rounds, ∃ typed key, x.keys = typed ++ [key] ∧ LineEditor.EndsLine key
  /-- So there are no more of them than there are such keys. -/
  length_le : rounds.length ≤ bytes.countP (LineEditor.EndsLine ·)

/-- Whatever keys a visitor types before hanging up, and whatever the clocks show, the visit ends as
it should, as long as the alerts of the profile are not too long for the clock. Where the clocks
stand still, this is the visit that the shell serves. -/
theorem leaves_served (c : Console) (hd : c.dispatcher.registry = .standard)
    (hfits : (Timescale.millis? c.dispatcher.profile.alertDurationMs : Option τ) ≠ none)
    (o : Overlay τ) (clock : Clock τ) (fault : Option Fault)
    (hfault : ∀ f, fault = some f → f.isHangUp = true) (bytes : List UInt8) :
    let out := (greet c o).served c fault clock bytes
    Leaves c o clock bytes out ((greet c o).rounds c clock [] bytes) ∧
      ∀ now : τ, clock = .still ⟨now, c.dispatcher.clock⟩ → serve c now o ⟨bytes, fault⟩ = out := by
  intro out
  obtain ⟨t, unread, hserved, hreset⟩ := exists_finish hd hfits hfault (greet c o) clock bytes
  have hout : out = t.finish c unread := hserved
  refine ⟨⟨?_, ?_, ?_, ?_, ?_, ?_, ?_, ?_, ?_, ?_⟩, ?_⟩
  · rw [hout]
    rfl
  · rw [hout]
    exact ⟨t.sent, rfl⟩
  · rw [hout]
    rfl
  · rw [hout]
    exact hreset
  · rw [hout]
    rfl
  · exact rounds_entered c (greet c o) clock [] bytes
  · exact journal_served c fault (greet c o) clock [] bytes
  · exact keys_rounds_prefix c (greet c o) clock [] bytes
  · intro x hx
    exact endsLine_of_mem_rounds hx
  · exact length_rounds_le c (greet c o) clock [] bytes
  · rintro now rfl
    exact (served_still c now fault (greet c o) bytes).symm

/-- A visitor logs in, interrupts a line, and is gone in the middle of an escape sequence. -/
theorem leaves_served_broken_off :
    let c : Console := ⟨.standard (Profile.map .standard) [] (.ok ""), .empty, 200, 500, none⟩
    let o : Overlay Int := Overlay.new c "id" "remote"
    let clock : Clock Int := fun n => ⟨n * 10, .ok ""⟩
    let gone : Fault := ⟨.endOfStream, "", "gone"⟩
    let bytes := Typing.bytes ["login", "legion"] ++ [0x70, 0x03, 0x1b, 0x5b]
    c.dispatcher.registry = .standard ∧
      (Timescale.millis? c.dispatcher.profile.alertDurationMs : Option Int) ≠ none ∧
      (∀ f, some gone = some f → f.isHangUp = true) ∧
      Leaves c o clock bytes ((greet c o).served c (some gone) clock bytes)
        ((greet c o).rounds c clock [] bytes) ∧
      ((greet c o).rounds c clock [] bytes).map (·.line) = ["login", "legion", ""] := by
  intro c o clock gone bytes
  have hfits : (Timescale.millis? c.dispatcher.profile.alertDurationMs : Option Int) ≠ none := nofun
  have hgone : ∀ f, some gone = some f → f.isHangUp = true := by
    rintro f ⟨⟩
    rfl
  have hleaves := (leaves_served c rfl hfits o clock (some gone) hgone bytes).1
  exact ⟨rfl, hfits, hgone, hleaves, by decide +kernel⟩

/-- An alert that is too long for the clock ends a visit without leave: the overlay stays open, and
the end of the line is the last thing that is sent. -/
theorem alert_too_long_takes_no_leave :
    let p : Profile := { Profile.map .standard with alertDurationMs := Nat.pow 10 400 }
    let c : Console := ⟨.standard p [] (.ok ""), .empty, 200, 500, none⟩
    let o : Overlay Float := Overlay.new c "id" "remote"
    let out := serve c 0 o ⟨Typing.bytes ["sudo su"], none⟩
    out.escaped = some .durationTooLong ∧ out.overlay.isOpen = true ∧
      ¬"logout\r\n".toList <:+ out.sent.toList := by
  decide +kernel

end RemoteShell

end MissionConsole
