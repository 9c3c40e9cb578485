import MissionConsole.Proofs.Dispatch.Frame
import MissionConsole.Proofs.Overlay.Transcript
import Mathlib.Data.List.Induction

/-!
# The history of commands

The arrows of a remote visitor walk through the lines that were entered before. These are the
commands of the session as it stands: closing the overlay, also by a toggle, forgets them, and a
line that was entered while a password was asked for is never among them, nor is a blank one. Of the
others the newest are kept, as many as the limit says, where zero stands for all.

The overlay enters a line before it is answered, and the answer does not touch the history. Whether
a password is asked for is therefore decided by the lines before it alone.

## Main definitions

* `Overlay.Moment.closes`, `Overlay.Moment.command?` — what an operation means for the history
* `Overlay.commandsSinceClosing` — the commands that were entered since the last closing

## Main results

* `Overlay.history_perform` — what an operation makes of the history
* `Overlay.history_run_eq_newest` — the history is the newest of the commands since the last closing
-/

namespace MissionConsole

namespace Overlay

variable {τ : Type}

/-! ### What an operation means for the history -/

namespace Moment

/-- The overlay is closed: by a close, or by a toggle that finds it open. -/
def closes (m : Moment τ) : Bool :=
  match m.operation with
  | .close => true
  | .toggle => m.overlay.isOpen
  | _ => false

/-- The command that is entered: a line, trimmed, unless it is blank or a password is asked for. -/
def command? (m : Moment τ) : Option String :=
  match m.operation with
  | .submit entry =>
    if Text.trim entry.line = "" ∨ m.overlay.session.awaitingPassword = true then none
    else some (Text.trim entry.line)
  | _ => none

end Moment

variable [Timescale τ] {c : Console} {o : Overlay τ}

/-- The commands that were entered since the last closing, in order and with repeats. -/
def commandsSinceClosing (c : Console) (o : Overlay τ) (operations : List (Operation τ)) :
    List String :=
  ((o.moments c operations).rtakeWhile fun m => !m.closes).filterMap Moment.command?

/-! ### The history under operations -/

/-- A history with the command that is entered into it, if there is one. -/
def withCommand (c : Console) (history : List String) (command? : Option String) : List String :=
  match command? with
  | none => history
  | some line => Retention.keep c.historySize (history ++ [line])

/-- A command that is entered into the newest of some commands leaves the newest of them all. -/
theorem withCommand_newest (h : 0 ≤ c.historySize) (commands : List String)
    (command? : Option String) :
    withCommand c (Retention.newest c.historySize commands) command? =
      Retention.newest c.historySize (commands ++ command?.toList) := by
  cases command? with
  | none => rw [withCommand, Option.toList_none, List.append_nil]
  | some line => exact Retention.keep_newest_append h commands [line]

omit [Timescale τ] in
theorem history_remember (o : Overlay τ) (entry : Entry τ) :
    (remember c o.session entry.line).history =
      withCommand c o.session.history (⟨o, .submit entry⟩ : Moment τ).command? := by
  rw [remember, Moment.command?]
  by_cases hblank : Text.trim entry.line = ""
  · simp [hblank, withCommand]
  · cases o.session.awaitingPassword with
    | true => simp [withCommand]
    | false => simp [hblank, withCommand, Session.record]

/-- A line that is submitted is remembered before it is answered, and the answer leaves the history
alone. -/
theorem history_enter (hd : c.dispatcher.registry = .standard) (o : Overlay τ) (entry : Entry τ) :
    (o.enter c entry).overlay.session.history =
      (remember c o.session entry.line).history := by
  have hdated : (c.dated entry.date).dispatcher.registry = .standard := hd
  rw [enter, submit_session]
  exact (Dispatcher.change_dispatch hdated _ _ _).history_eq

/-- An operation that closes the overlay empties the history, and any other one adds the command to
it that it enters, if it enters one. -/
theorem history_perform (hd : c.dispatcher.registry = .standard) (m : Moment τ) :
    (m.overlay.perform c m.operation).session.history =
      if m.closes then [] else withCommand c m.overlay.session.history m.command? := by
  obtain ⟨o, operation⟩ := m
  cases operation with
  | submit entry =>
    have hcloses : (⟨o, .submit entry⟩ : Moment τ).closes = false := rfl
    rw [hcloses, if_neg Bool.false_ne_true, ← history_remember, ← history_enter hd, perform]
  | toggle =>
    rw [perform, toggle_session, Moment.closes, Moment.command?]
    dsimp only
    split_ifs
    · rfl
    · rfl
  | «open» | hide | close | append lines => rfl

/-! ### The commands since the last closing -/

theorem commandsSinceClosing_concat_of_closes {before : List (Operation τ)} {last : Operation τ}
    (h : (⟨o.run c before, last⟩ : Moment τ).closes = true) :
    o.commandsSinceClosing c (before ++ [last]) = [] := by
  rw [commandsSinceClosing, moments_concat, List.rtakeWhile_concat_neg _ _ _ (by simp [h]),
    List.filterMap_nil]

theorem commandsSinceClosing_concat {before : List (Operation τ)} {last : Operation τ}
    (h : (⟨o.run c before, last⟩ : Moment τ).closes = false) :
    o.commandsSinceClosing c (before ++ [last]) =
      o.commandsSinceClosing c before ++
        (⟨o.run c before, last⟩ : Moment τ).command?.toList := by
  rw [commandsSinceClosing, moments_concat, List.rtakeWhile_concat_pos _ _ _ (by simp [h]),
    List.filterMap_append, commandsSinceClosing, List.filterMap_cons, List.filterMap_nil]
  cases (⟨o.run c before, last⟩ : Moment τ).command? <;> rfl

/-- Whatever is done with a new overlay whose limit is not negative, its history is the newest of
the commands that were entered since the last closing; and no line that is dispatched changes the
history of its session. -/
theorem history_run_eq_newest (c : Console) (hd : c.dispatcher.registry = .standard)
    (h : 0 ≤ c.historySize) (id origin : String) (operations : List (Operation τ)) :
    let o : Overlay τ := new c id origin
    (o.run c operations).session.history =
        Retention.newest c.historySize (o.commandsSinceClosing c operations) ∧
      ∀ (date : Except String String) (s : Session) (line : String),
        ((c.dated date).dispatcher.dispatch c.files s line).session.history = s.history := by
  intro o
  refine ⟨?_, fun date s line => ?_⟩
  · -- The last operation meets the overlay that those before it have left.
    induction operations using List.reverseRecOn with
    | nil => exact (Retention.newest_nil c.historySize).symm
    | append_singleton before last ih =>
      have hlast := history_perform hd (⟨o.run c before, last⟩ : Moment τ)
      dsimp only at hlast
      rw [run_concat, hlast]
      cases hcloses : (⟨o.run c before, last⟩ : Moment τ).closes with
      | true =>
        rw [commandsSinceClosing_concat_of_closes hcloses, Retention.newest_nil, if_pos rfl]
      | false =>
        rw [commandsSinceClosing_concat hcloses, if_neg Bool.false_ne_true, ih,
          withCommand_newest h]
  · have hdated : (c.dated date).dispatcher.registry = .standard := hd
    exact (Dispatcher.change_dispatch hdated c.files s line).history_eq

/-- With room for three, a history across a toggle that closes, a blank line and a password. -/
theorem history_run_eq_newest_three :
    let c : Console := ⟨.standard (Profile.map .standard) [] (.ok ""), .empty, 3, 500, none⟩
    let o : Overlay Int := new c "id" "local"
    let submit (line : String) : Operation Int := .submit ⟨⟨line, .ok ""⟩, 7⟩
    let operations := [.open, submit "whoami", .toggle, .open, submit " pwd ", submit " ",
      submit "login", submit "legion", submit "ls", .hide, submit "ls"]
    c.dispatcher.registry = .standard ∧ 0 ≤ c.historySize ∧
      o.commandsSinceClosing c operations = ["pwd", "login", "ls", "ls"] ∧
      (o.run c operations).session.history = ["login", "ls", "ls"] := by
  intro c o submit operations
  have hd : c.dispatcher.registry = .standard := rfl
  have h : 0 ≤ c.historySize := by decide
  have hcommands : o.commandsSinceClosing c operations = ["pwd", "login", "ls", "ls"] := by
    decide +kernel
  have hnewest : Retention.newest c.historySize ["pwd", "login", "ls", "ls"] =
      ["login", "ls", "ls"] := by decide
  refine ⟨hd, h, hcommands, ?_⟩
  rw [(history_run_eq_newest c hd h "id" "local" operations).1, hcommands, hnewest]

end Overlay

end MissionConsole
