import MissionConsole.Proofs.Dispatch.Emission
import MissionConsole.Proofs.Dispatch.Journal
import MissionConsole.Proofs.Overlay.Operation

/-!
# What a submitted line leaves behind

Whatever a line does to an overlay, its session stays the one it was, and all that is recorded of
the line carries the id of that session. A line fails only on an alert that is too long for the
clock; such an alert is the only event of its reply, so that no line fails and ends the session.

## Main definitions

* `Record.sessionId?` — the session that a record carries the id of
* `Record.IsLine` — a record of a line that was entered on a session

## Main results

* `Overlay.isOpen_submit` — which lines close the overlay
* `Overlay.submit_id` — a line does not change whose session it is
* `Overlay.isLine_of_mem_records_submit` — what is recorded of a line
* `Overlay.endsSession_of_escaped` — a line that fails does not end the session
* `Overlay.escaped_submit` — when no line fails
-/

namespace MissionConsole

/-! ### Records of sessions -/

namespace Record

/-- The session that a record carries the id of. -/
def sessionId? (r : Record) : Option String :=
  match r.details.lookup "session_id" with
  | some (.str id) => some id
  | _ => none

/-- A record of a line that was entered on a session, or of the password that it was. -/
structure IsLine (id : String) (r : Record) : Prop where
  sessionId_eq : r.sessionId? = some id
  channel_ne : r.channel ≠ .system

theorem isLine_command (id origin username line : String) (outputLines : Int)
    (events : List String) : (command id origin username line outputLines events).IsLine id :=
  ⟨rfl, nofun⟩

theorem isLine_login (id origin : String) (success : Bool) (attempts : Int) (lockout : Bool) :
    (login id origin success attempts lockout).IsLine id :=
  ⟨rfl, nofun⟩

end Record

namespace Dispatcher

variable {d : Dispatcher} {files : Filesystem} {s : Session}

theorem isLine_loginRecord (d : Dispatcher) (s : Session) (line : String) :
    (d.loginRecord s line).IsLine s.id := by
  rw [loginRecord]
  split_ifs
  · exact Record.isLine_login _ _ _ _ _
  · exact Record.isLine_login _ _ _ _ _

/-- A record of a line is the one of the password that it was, or the line's own. -/
theorem of_mem_records_dispatch {rawLine : String} {r : Record}
    (hr : r ∈ Journal.records (d.dispatch files s rawLine).journal) :
    r = d.loginRecord s (Text.trim rawLine) ∨
      Text.trim rawLine ≠ "" ∧
        r = lineRecord s (Text.trim rawLine) (d.answer files s (Text.trim rawLine)) := by
  by_cases hline : Text.trim rawLine = ""
  · rw [records_dispatch_of_blank hline] at hr
    exact absurd hr List.not_mem_nil
  · rw [records_dispatch hline, List.mem_append, List.mem_singleton] at hr
    rcases hr with hlogin | hown
    · split_ifs at hlogin
      · exact .inl (List.mem_singleton.1 hlogin)
      · exact absurd hlogin List.not_mem_nil
    · exact .inr ⟨hline, hown⟩

/-- All that is recorded of a line carries the id of its session. -/
theorem isLine_of_mem_records_dispatch (hd : d.registry = .standard) {rawLine : String}
    {r : Record} (hr : r ∈ Journal.records (d.dispatch files s rawLine).journal) :
    r.IsLine s.id := by
  obtain rfl | ⟨hline, rfl⟩ := of_mem_records_dispatch hr
  · exact isLine_loginRecord d s _
  · -- The record of the line carries the session that the line has left.
    have hid := (change_dispatch hd files s rawLine).id_eq
    rw [dispatch_of_ne hline, recorded_session] at hid
    rw [lineRecord, hid]
    exact Record.isLine_command _ _ _ _ _ _

/-- Whatever the commands are, no line is recorded as a stage of a connection or session. -/
theorem channel_ne_of_mem_records_dispatch {rawLine : String} {r : Record}
    (hr : r ∈ Journal.records (d.dispatch files s rawLine).journal) : r.channel ≠ .system := by
  obtain rfl | ⟨-, rfl⟩ := of_mem_records_dispatch hr
  · exact (isLine_loginRecord d s _).channel_ne
  · exact nofun

end Dispatcher

namespace Overlay

variable {τ : Type} {c : Console} {o : Overlay τ}

@[simp] theorem remember_id (s : Session) (line : String) : (remember c s line).id = s.id := by
  rw [remember]
  split_ifs <;> rfl

/-- A callback that fails leaves a remark, which is no record. -/
theorem records_notify (e : Event) : Journal.records (o.notify c e).2 = [] := by
  rw [notify]
  split
  · rfl
  · dsimp only
    split_ifs <;> rfl

theorem isOpen_notify (e : Event) : (o.notify c e).1.isOpen = o.isOpen := by
  rw [notify]
  split <;> rfl

variable [Timescale τ] {now : τ} {line : String}

/-! ### Events that are carried out -/

theorem records_apply (e : Event) : Journal.records (o.apply c now e).journal = [] := by
  rw [apply]
  split
  · rfl
  · exact records_notify e

theorem records_applyAll (events : List Event) :
    Journal.records (o.applyAll c now events).journal = [] := by
  induction events generalizing o with
  | nil => rfl
  | cons e rest ih =>
    simp only [applyAll]
    split_ifs
    · exact records_apply e
    · rw [Journal.records_append, records_apply, ih, List.append_nil]

/-- Only an alert that is too long for the clock can fail. -/
theorem alert_of_apply_escaped {e : Event} (h : (o.apply c now e).escaped ≠ none) :
    ∃ durationMs, e = .alert durationMs ∧ (Timescale.millis? durationMs : Option τ) = none := by
  rw [apply] at h
  split at h
  · rename_i hreact
    cases e with
    | alert durationMs => exact ⟨durationMs, rfl, Option.map_eq_none_iff.1 hreact⟩
    | _ => exact absurd hreact (Option.some_ne_none _)
  · exact absurd rfl h

theorem exists_alert_of_escaped {events : List Event}
    (h : (o.applyAll c now events).escaped ≠ none) :
    ∃ durationMs, .alert durationMs ∈ events ∧
      (Timescale.millis? durationMs : Option τ) = none := by
  induction events generalizing o with
  | nil => exact absurd rfl h
  | cons e rest ih =>
    simp only [applyAll] at h
    split_ifs at h with hfirst
    · obtain ⟨durationMs, rfl, hlong⟩ := alert_of_apply_escaped h
      exact ⟨durationMs, List.mem_cons_self, hlong⟩
    · obtain ⟨durationMs, hlater, hlong⟩ := ih h
      exact ⟨durationMs, List.mem_cons_of_mem e hlater, hlong⟩

theorem eq_durationTooLong_of_apply {e : Event} {f : Fault}
    (h : (o.apply c now e).escaped = some f) : f = .durationTooLong := by
  rw [apply] at h
  split at h
  · exact (Option.some.inj h).symm
  · cases h

theorem eq_durationTooLong_of_applyAll {events : List Event} {f : Fault}
    (h : (o.applyAll c now events).escaped = some f) : f = .durationTooLong := by
  induction events generalizing o with
  | nil => exact absurd h nofun
  | cons e rest ih =>
    simp only [applyAll] at h
    split_ifs at h
    · exact eq_durationTooLong_of_apply h
    · exact ih h

theorem isOpen_react? {e : Event} {after : Overlay τ} (h : o.react? c now e = some after) :
    after.isOpen = (o.isOpen && e.kind != .close) := by
  cases e
  case close =>
    obtain rfl := Option.some.inj h
    exact (Bool.and_false _).symm
  case alert durationMs =>
    obtain ⟨duration, -, rfl⟩ := Option.map_eq_some_iff.1 h
    exact (Bool.and_true _).symm
  all_goals
    obtain rfl := Option.some.inj h
    exact (Bool.and_true _).symm

theorem isOpen_apply {e : Event} (h : (o.apply c now e).escaped = none) :
    (o.apply c now e).overlay.isOpen = (o.isOpen && e.kind != .close) := by
  rw [apply] at h ⊢
  split at h
  · cases h
  · rename_i after hreact
    exact (isOpen_notify e).trans (isOpen_react? hreact)

/-- An overlay that carries out all events stays as it is unless one of them closes it. -/
theorem isOpen_applyAll {events : List Event} (h : (o.applyAll c now events).escaped = none) :
    (o.applyAll c now events).overlay.isOpen = (o.isOpen && events.all (·.kind != .close)) := by
  induction events generalizing o with
  | nil => exact (Bool.and_true _).symm
  | cons e rest ih =>
    simp only [applyAll] at h ⊢
    split_ifs at h ⊢ with hfirst
    · rw [h] at hfirst
      exact absurd hfirst (by decide)
    · have hdone := Option.not_isSome_iff_eq_none.1 hfirst
      rw [ih h, isOpen_apply hdone, List.all_cons, Bool.and_assoc]

/-! ### A line -/

/-- A line that does not fail closes the overlay exactly if it is answered with a close. -/
theorem isOpen_submit (h : (o.submit c now line).escaped = none) :
    (o.submit c now line).overlay.isOpen =
      (o.isOpen && (o.submit c now line).reply.events.all (·.kind != .close)) := by
  simp only [submit] at h ⊢
  exact isOpen_applyAll h

theorem submit_id (hd : c.dispatcher.registry = .standard) :
    (o.submit c now line).overlay.session.id = o.session.id := by
  have hchange := Dispatcher.change_dispatch hd c.files (remember c o.session line) line
  rw [submit_session, hchange.id_eq, remember_id]

theorem records_submit :
    Journal.records (o.submit c now line).journal =
      Journal.records
        (c.dispatcher.dispatch c.files (remember c o.session line) line).journal := by
  simp only [submit, Journal.records_append, records_applyAll, List.append_nil, append_session]

/-- All that is recorded of a line carries the id of the overlay's session. -/
theorem isLine_of_mem_records_submit (hd : c.dispatcher.registry = .standard) {r : Record}
    (hr : r ∈ Journal.records (o.submit c now line).journal) : r.IsLine o.session.id := by
  rw [records_submit] at hr
  have hline := Dispatcher.isLine_of_mem_records_dispatch hd hr
  rwa [remember_id] at hline

theorem channel_ne_of_mem_records_submit {r : Record}
    (hr : r ∈ Journal.records (o.submit c now line).journal) : r.channel ≠ .system := by
  rw [records_submit] at hr
  exact Dispatcher.channel_ne_of_mem_records_dispatch hr

/-- Only the failure of the clock gets out of a line. -/
theorem eq_durationTooLong_of_submit {f : Fault} (h : (o.submit c now line).escaped = some f) :
    f = .durationTooLong := by
  simp only [submit] at h
  exact eq_durationTooLong_of_applyAll h

theorem reply_submit :
    (o.submit c now line).reply =
      (c.dispatcher.dispatch c.files (remember c o.session line) line).reply := by
  simp only [submit, append_session]

/-- A line fails on an alert of its reply that is too long for the clock. -/
theorem alert_of_submit_escaped (h : (o.submit c now line).escaped ≠ none) :
    ∃ durationMs, .alert durationMs ∈ (o.submit c now line).reply.events ∧
      (Timescale.millis? durationMs : Option τ) = none := by
  simp only [submit] at h ⊢
  exact exists_alert_of_escaped h

theorem shape_submit (hd : c.dispatcher.registry = .standard) :
    Event.Shape c.dispatcher.profile (o.submit c now line).reply.events := by
  rw [reply_submit]
  exact Dispatcher.shape_dispatch hd c.files _ line

/-- A line that fails does not end the session. -/
theorem endsSession_of_escaped (hd : c.dispatcher.registry = .standard)
    (h : (o.submit c now line).escaped ≠ none) :
    Event.endsSession (o.submit c now line).reply.events = false := by
  obtain ⟨durationMs, halert, -⟩ := alert_of_submit_escaped h
  by_contra hends
  rw [Bool.not_eq_false] at hends
  -- A close that ends the session stands alone, and an alert is no close.
  rw [(shape_submit hd).endsSession_iff.1 hends, List.mem_singleton] at halert
  exact Event.noConfusion halert

/-- Where the alerts of the profile are not too long for the clock, no line fails. -/
theorem escaped_submit (hd : c.dispatcher.registry = .standard)
    (hfits : (Timescale.millis? c.dispatcher.profile.alertDurationMs : Option τ) ≠ none) :
    (o.submit c now line).escaped = none := by
  by_contra hescaped
  obtain ⟨durationMs, halert, hlong⟩ := alert_of_submit_escaped hescaped
  rw [(shape_submit hd).durationMs_eq halert] at hlong
  exact hfits hlong

end Overlay

end MissionConsole
