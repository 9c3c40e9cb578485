import MissionConsole.Proofs.Dispatch.Failure
import MissionConsole.Proofs.Dispatch.Journal

/-!
# Every line is accounted for

Nothing here depends on which commands there are, or on what their handlers do. A handler may write
lines, ask for events, make the visitor root and fail in the middle of it: the line is still
answered, and it leaves the records that every line leaves. They tell who the visitor was when the
line was entered and what the answer was in the end, which for a handler that has failed is a single
line.

## Main results

* `Dispatcher.records_eq` — the records of a line
* `Dispatcher.accountable` — they are complete, and failures are contained
-/

namespace MissionConsole.Dispatcher

variable {d : Dispatcher} {files : Filesystem} {s : Session}

/-- The records of a line that is not blank, told from its answer. -/
theorem records_eq {rawLine : String} (h : Text.trim rawLine ≠ "") :
    let turn := d.dispatch files s rawLine
    Journal.records turn.journal =
      (if s.takesPassword then [d.loginRecord s (Text.trim rawLine)] else []) ++
        [.command turn.session.id turn.session.origin s.username
          (if s.awaitingPassword then masked else Text.trim rawLine)
          turn.reply.lines.length (turn.reply.events.map (·.kind.name))] := by
  dsimp only
  rw [records_dispatch h, dispatch_of_ne h, recorded_session, recorded_reply]
  rfl

/-- Whatever the commands are and whatever their handlers do, a blank line leaves no record, and any
other line leaves one of its own: it names the visitor as of before the line, hides the line exactly
if a password was asked for, and tells the count of lines and the kinds of events in the answer.
Before it stands the record of the password, exactly if the line was taken as one. When the handler
that the line calls fails, the answer is one line and no events, whatever the handler has done. -/
theorem accountable (d : Dispatcher) (files : Filesystem) (s : Session) (rawLine : String) :
    let line := Text.trim rawLine
    let turn := d.dispatch files s rawLine
    (line = "" → Journal.records turn.journal = []) ∧
      (line ≠ "" →
        ∃ before,
          Journal.records turn.journal =
            before ++
              [.command turn.session.id turn.session.origin s.username
                (if s.awaitingPassword then masked else line)
                turn.reply.lines.length (turn.reply.events.map (·.kind.name))] ∧
          (s.riddlePending = false ∧ s.awaitingPassword = true →
            ∃ success attempts lockout,
              before = [.login s.id s.origin success attempts lockout] ∧
                (success = true ↔ line = d.profile.password)) ∧
          (¬(s.riddlePending = false ∧ s.awaitingPassword = true) → before = [])) ∧
      ∀ entry args, d.Calls s line entry args →
        (entry.handler (d.context files s entry.command args)).failed = true →
        turn.reply = ⟨[entry.command.name ++ ": internal error"], []⟩ := by
  refine ⟨records_dispatch_of_blank, fun hline => ⟨_, records_eq hline, fun htakes => ?_,
    fun htakes => ?_⟩, fun entry args hcalls hfailed =>
      reply_of_calls_failed (trim_ne_of_calls hcalls) hcalls hfailed⟩
  · rw [if_pos (Session.takesPassword_iff.2 htakes), loginRecord]
    split_ifs with hright
    · exact ⟨true, 0, false, rfl, iff_of_true rfl hright⟩
    · exact ⟨false, _, _, rfl, iff_of_false Bool.false_ne_true hright⟩
  · rw [if_neg fun htaken => htakes (Session.takesPassword_iff.1 htaken)]

/-- A command that makes the visitor root, writes a line, asks for a cleared screen, and fails. -/
def halfDone : Registry.Entry where
  command := Builtin.plain "core" "half" "half" ""
  handler ctx := ⟨{ ctx.session with auth := .root }, ["half"], [.clear], true⟩

/-- Of what a handler has done before it fails, the session is left, but neither lines nor events,
and the record still names a guest. -/
theorem accountable_halfDone :
    let d := { standard (Profile.map .standard) [] (.ok "noon") with registry := ⟨[halfDone]⟩ }
    let s := Session.fresh "id" "local"
    let turn := d.dispatch .empty s " HALF way "
    (halfDone.handler (d.context .empty s halfDone.command ["way"])).failed = true ∧
      turn.reply = ⟨["half: internal error"], []⟩ ∧ turn.session.isRoot = true ∧
      Journal.records turn.journal = [.command "id" "local" "guest" "HALF way" 1 []] ∧
      Journal.records (d.dispatch .empty s "\u2028").journal = [] := by
  intro d s turn
  have hcalls : d.Calls s (Text.trim " HALF way ") halfDone ["way"] :=
    ⟨by decide, ⟨"HALF", by decide, by decide, rfl⟩, by decide, by decide⟩
  obtain ⟨-, hrecords, hfailure⟩ := accountable d .empty s " HALF way "
  have hreply : turn.reply = ⟨["half: internal error"], []⟩ := hfailure halfDone ["way"] hcalls rfl
  obtain ⟨before, hbefore, -, hnone⟩ := hrecords (by decide)
  have hrecord : Journal.records turn.journal =
      [.command "id" "local" "guest" "HALF way" 1 []] := by
    rw [hbefore, hnone (by decide), hreply]
    rfl
  exact ⟨rfl, hreply, by decide, hrecord, (accountable d .empty s "\u2028").1 (by decide)⟩

end MissionConsole.Dispatcher
