import MissionConsole.Proofs.Host.Typing
import MissionConsole.Proofs.Host.Visit

/-!
# The lines that a shell enters

The local and the remote shell take lines from different inputs, print different things and hide the
overlay at different moments. What they enter is the same visit: each of them goes on after a line
that neither fails nor ends the session, with the overlay open again, and stops after any other one.

## Main definitions

* `LocalShell.entered`, `RemoteShell.entered` — the lines that a shell enters, with the clocks read
  anew for each
* `LocalShell.transcript`, `RemoteShell.transcript` — what a shell shows of lines and their answers

## Main results

* `LocalShell.journal_loop`, `RemoteShell.journal_run` — where the clocks stand still, these are the
  lines that a shell logs
* `LocalShell.answered_entered`, `RemoteShell.answered_entered` — a shell goes through a visit
* `LocalShell.loop_visit`, `RemoteShell.run_visit` — what a shell shows is the transcript of the
  visit, and the bytes behind its last line are not read
-/

namespace MissionConsole

variable {τ : Type} [Timescale τ] {c : Console} {o : Overlay τ} {session : Session}
  {clock : Clock τ} {now : τ} {line : String} {lines : List String}

/-! ### The local shell -/

namespace LocalShell

/-- The lines that the shell enters. -/
def entered (c : Console) (clock : Clock τ) (o : Overlay τ) : List String → List (Entered τ)
  | [] => []
  | line :: rest =>
    let r := clock.reading
    ⟨line, o.submit (c.dated r.date) r.now line⟩ ::
      match step (c.dated r.date) r.now o line with
      | (_, true) => []
      | (out, false) => entered c clock.later out.overlay rest

theorem journal_step (c : Console) (now : τ) (o : Overlay τ) (line : String) :
    (step c now o line).1.journal = (o.submit c now line).journal := by
  rw [step]
  split <;> rfl

/-- Where the clocks stand still, the shell logs the lines that it enters. -/
theorem journal_loop (c : Console) (now : τ) (o : Overlay τ) (lines : List String) :
    (loop c now o lines).journal =
      (entered c (.still ⟨now, c.dispatcher.clock⟩) o lines).flatMap (·.submission.journal) := by
  induction lines generalizing o with
  | nil => rfl
  | cons line rest ih =>
    have hjournal := journal_step c now o line
    rw [loop, entered, List.flatMap_cons]
    dsimp only [Clock.reading_still, Clock.later_still]
    rw [Console.dated_clock, ← hjournal]
    obtain ⟨out, ends⟩ := step c now o line
    cases ends with
    | true => exact (List.append_nil _).symm
    | false => exact congrArg (out.journal ++ ·) (ih out.overlay)

/-- A line that does not fail prints its reply. It is the last one if it ends the session; otherwise
the overlay is open for the next one. -/
theorem step_of_answered (h : (o.submit c now line).escaped = none) :
    ∃ out : Outcome τ,
      step c now o line = (out, Event.endsSession (o.submit c now line).reply.events) ∧
        out.output = replyText (o.submit c now line).reply ∧ out.escaped = none ∧
          (Event.endsSession (o.submit c now line).reply.events = false →
            out.overlay = (o.submit c now line).overlay.opened) := by
  rw [step, h]
  refine ⟨_, rfl, rfl, rfl, fun hends => ?_⟩
  dsimp only
  rw [hends, if_neg Bool.false_ne_true]

/-- The shell goes through a visit. -/
theorem answered_entered (hd : c.dispatcher.registry = .standard)
    (hfits : (Timescale.millis? c.dispatcher.profile.alertDurationMs : Option τ) ≠ none)
    (hs : o.session.anonymous = session.anonymous) :
    (entered c clock o lines).map Entered.answered = c.visit session clock lines := by
  induction lines generalizing o session clock with
  | nil => rfl
  | cons line rest ih =>
    have hescaped : (o.submit (c.dated clock.reading.date) clock.reading.now line).escaped = none :=
      Overlay.escaped_submit hd hfits
    obtain ⟨hreply, hsession⟩ := Overlay.submit_alike hd hs clock.reading line
    obtain ⟨out, hstep, -, -, hopen⟩ := step_of_answered hescaped
    rw [entered, Console.visit, List.map_cons, Overlay.answered_submit hd hs]
    refine congrArg (List.cons _) ?_
    rw [← hreply]
    simp only [hstep]
    cases hends : Event.endsSession
        (o.submit (c.dated clock.reading.date) clock.reading.now line).reply.events with
    | true => rfl
    | false =>
      rw [if_neg Bool.false_ne_true]
      apply ih
      rw [hopen hends, Overlay.opened_session]
      exact hsession

/-- What the shell prints from a prompt on, as the lines are answered. -/
def transcript (p : Profile) (s : Session) : List Answered → String
  | [] => Overlay.promptOf p s ++ " \n"
  | x :: rest =>
    Overlay.promptOf p s ++ " " ++ replyText x.reply ++
      if x.isLast then "" else transcript p x.session rest

theorem transcript_anonymous (p : Profile) (s : Session) (xs : List Answered) :
    transcript p s.anonymous xs = transcript p s xs := by
  cases xs <;> rfl

/-- What the shell prints is the transcript of the visit, and no failure ends it. -/
theorem loop_visit (hd : c.dispatcher.registry = .standard)
    (hfits : (Timescale.millis? c.dispatcher.profile.alertDurationMs : Option τ) ≠ none)
    (hs : o.session.anonymous = session.anonymous) (now : τ) (lines : List String) :
    (loop c now o lines).output =
        transcript c.dispatcher.profile o.session
          (c.visit session (.still ⟨now, c.dispatcher.clock⟩) lines) ∧
      (loop c now o lines).escaped = none := by
  induction lines generalizing o session with
  | nil => exact ⟨rfl, rfl⟩
  | cons line rest ih =>
    have hescaped : (o.submit c now line).escaped = none := Overlay.escaped_submit hd hfits
    obtain ⟨hreply, hsession⟩ := Overlay.submit_alike_undated hd hs now line
    obtain ⟨out, hstep, houtput, hnone, hopen⟩ := step_of_answered hescaped
    rw [loop, Console.visit, transcript, Answered.isLast_mk]
    dsimp only
    rw [Clock.reading_still, Clock.later_still, hstep, ← hreply, ← houtput]
    cases hends : Event.endsSession (o.submit c now line).reply.events with
    | true =>
      rw [if_pos rfl, String.append_empty]
      exact ⟨rfl, hnone⟩
    | false =>
      -- The next line finds the session that this one has left.
      have hnext : out.overlay.session = (o.submit c now line).overlay.session := by
        rw [hopen hends, Overlay.opened_session]
      rw [← hnext] at hsession
      obtain ⟨hprinted, hgone⟩ := ih hsession
      rw [if_neg Bool.false_ne_true, if_neg Bool.false_ne_true, ← hsession, transcript_anonymous,
        ← hprinted]
      exact ⟨rfl, hgone⟩

end LocalShell

/-! ### The remote shell -/

namespace RemoteShell

variable {s : RemoteShell τ} {fault : Option Fault}

/-- The lines that the shell enters. -/
def entered (c : Console) (clock : Clock τ) (s : RemoteShell τ) : List UInt8 → List (Entered τ)
  | [] => []
  | b :: rest =>
    match s.editor.feed b with
    | .more e sent => entered c clock { s with editor := e, sent := s.sent ++ sent } rest
    | .leave => []
    | .line text sent afterReturn =>
      let r := clock.reading
      ⟨text, s.overlay.submit (c.dated r.date) r.now text⟩ ::
        match s.submit (c.dated r.date) r.now text sent afterReturn with
        | (s, .goOn) => entered c clock.later s rest
        | (_, .leave) => []
        | (_, .fail _) => []

theorem journal_submit (c : Console) (now : τ) (s : RemoteShell τ) (line sent : String)
    (afterReturn : Bool) :
    (s.submit c now line sent afterReturn).1.journal =
      s.journal ++ (s.overlay.submit c now line).journal := by
  rw [submit]
  split
  · rfl
  · dsimp only
    split_ifs <;> rfl

omit [Timescale τ] in
theorem journal_exhausted (c : Console) (fault : Option Fault) (s : RemoteShell τ) :
    (s.exhausted c fault).journal = s.journal := by
  cases fault with
  | none => rfl
  | some f =>
    rw [exhausted]
    split_ifs <;> rfl

/-- Where the clocks stand still, the shell logs the lines that it enters. -/
theorem journal_run (c : Console) (now : τ) (fault : Option Fault) (s : RemoteShell τ)
    (bytes : List UInt8) :
    (s.run c now fault bytes).journal =
      s.journal ++ (entered c (.still ⟨now, c.dispatcher.clock⟩) s bytes).flatMap
        (·.submission.journal) := by
  induction bytes generalizing s with
  | nil => exact (journal_exhausted c fault s).trans (List.append_nil _).symm
  | cons b rest ih =>
    rw [run, entered]
    cases s.editor.feed b with
    | more e sent => exact ih _
    | leave => exact (List.append_nil _).symm
    | line text sent afterReturn =>
      have hjournal := journal_submit c now s text sent afterReturn
      dsimp only [Clock.reading_still, Clock.later_still]
      rw [Console.dated_clock, List.flatMap_cons, ← List.append_assoc, ← hjournal]
      obtain ⟨s', next⟩ := s.submit c now text sent afterReturn
      cases next with
      | goOn => exact ih s'
      | leave | fail => exact (List.append_nil _).symm

/-! ### Keys -/

/-- The shell after a printable key. -/
def typed (s : RemoteShell τ) (key : Char) : RemoteShell τ :=
  { s with
    editor := s.editor.typed key
    sent := s.sent ++ s.editor.shown (String.singleton key) }

/-- The shell after printable keys. -/
def typedAll (s : RemoteShell τ) (keys : List Char) : RemoteShell τ := keys.foldl typed s

/-- Keys have been typed in this line, no escape sequence is begun, and keys are shown unless a
password is asked for. -/
structure HasTyped (s : RemoteShell τ) (keys : List Char) : Prop where
  phase_eq : s.editor.phase = .text
  buffer_eq : s.editor.buffer = keys
  echo_eq : s.editor.echo = !s.overlay.session.awaitingPassword

variable {keys before : List Char}

omit [Timescale τ] in
theorem overlay_typedAll (s : RemoteShell τ) (keys : List Char) :
    (s.typedAll keys).overlay = s.overlay := by
  induction keys generalizing s with
  | nil => rfl
  | cons key keys ih => exact ih (s.typed key)

omit [Timescale τ] in
theorem HasTyped.typed (h : s.HasTyped before) (key : Char) :
    (s.typed key).HasTyped (before ++ [key]) :=
  ⟨h.phase_eq, congrArg (· ++ [key]) h.buffer_eq, h.echo_eq⟩

omit [Timescale τ] in
theorem HasTyped.typedAll (h : s.HasTyped before) (keys : List Char) :
    (s.typedAll keys).HasTyped (before ++ keys) := by
  induction keys generalizing s before with
  | nil =>
    rw [List.append_nil]
    exact h
  | cons key keys ih =>
    rw [List.append_cons]
    exact ih (h.typed key)

omit [Timescale τ] in
/-- Keys are shown unless a password is asked for. -/
theorem HasTyped.sent_typedAll (h : s.HasTyped before) (keys : List Char) :
    (s.typedAll keys).sent =
      s.sent ++ if s.overlay.session.awaitingPassword then "" else String.ofList keys := by
  induction keys generalizing s before with
  | nil =>
    rw [String.ofList_nil, ite_self, String.append_empty]
    rfl
  | cons key keys ih =>
    have hmore := ih (h.typed key)
    have hshown : (s.typed key).sent = s.sent ++ s.editor.shown (String.singleton key) := rfl
    rw [hshown, LineEditor.shown, h.echo_eq, String.append_assoc] at hmore
    refine hmore.trans (congrArg (s.sent ++ ·) ?_)
    have hsecret : (s.typed key).overlay = s.overlay := rfl
    rw [hsecret]
    cases s.overlay.session.awaitingPassword with
    | true => rfl
    | false => exact String.ofList_cons.symm

/-- Printable keys enter nothing. -/
theorem entered_keys (h : s.HasTyped before) (hkeys : ∀ key ∈ keys, Typing.IsPrintable key)
    (rest : List UInt8) :
    entered c clock s (keys.map Typing.byte ++ rest) = entered c clock (s.typedAll keys) rest := by
  induction keys generalizing s before with
  | nil => rfl
  | cons key keys ih =>
    obtain ⟨hkey, hkeys⟩ := List.forall_mem_cons.1 hkeys
    rw [List.map_cons, List.cons_append, entered, LineEditor.feed_key h.phase_eq hkey]
    exact ih (h.typed key) hkeys

theorem run_keys (h : s.HasTyped before) (hkeys : ∀ key ∈ keys, Typing.IsPrintable key)
    (rest : List UInt8) :
    s.run c now fault (keys.map Typing.byte ++ rest) =
      (s.typedAll keys).run c now fault rest := by
  induction keys generalizing s before with
  | nil => rfl
  | cons key keys ih =>
    obtain ⟨hkey, hkeys⟩ := List.forall_mem_cons.1 hkeys
    rw [List.map_cons, List.cons_append, run, LineEditor.feed_key h.phase_eq hkey]
    exact ih (h.typed key) hkeys

omit [Timescale τ] in
/-- After the keys of a line, a carriage return completes that line. -/
theorem feed_return (h : s.HasTyped []) (line : String) :
    (s.typedAll line.toList).editor.feed Typing.carriageReturn = .line line "\r\n" true := by
  have htyped := h.typedAll line.toList
  rw [LineEditor.feed_return htyped.phase_eq, htyped.buffer_eq, List.nil_append,
    String.ofList_toList]

/-! ### Lines -/

omit [Timescale τ] in
theorem prompted_sent (c : Console) (afterReturn : Bool) (s : RemoteShell τ) :
    (prompted c afterReturn s).sent = s.sent ++ wire (s.overlay.prompt c ++ " ") := rfl

omit [Timescale τ] in
/-- At a prompt nothing is typed yet. -/
theorem hasTyped_prompted (c : Console) (afterReturn : Bool) (s : RemoteShell τ) :
    (prompted c afterReturn s).HasTyped [] := ⟨rfl, rfl, rfl⟩

/-- What follows the reply to a line: the next prompt, unless the line ends the session. -/
def invitation (c : Console) (r : Overlay.Submission τ) : String :=
  if Event.endsSession r.reply.events then "" else wire (r.overlay.prompt c ++ " ")

/-- A line that does not fail is replied to. It is the last one if it ends the session; otherwise
the overlay is open for the next one, of which nothing is typed yet. -/
theorem submit_of_answered (h : (s.overlay.submit c now line).escaped = none) (sent : String)
    (afterReturn : Bool) :
    ∃ s' : RemoteShell τ,
      s.submit c now line sent afterReturn =
        (s', if Event.endsSession (s.overlay.submit c now line).reply.events then .leave
          else .goOn) ∧
        s'.sent = s.sent ++ sent ++ replyText (s.overlay.submit c now line).reply ++
          invitation c (s.overlay.submit c now line) ∧
        (Event.endsSession (s.overlay.submit c now line).reply.events = false →
          s'.overlay = (s.overlay.submit c now line).overlay.opened ∧ s'.HasTyped []) := by
  rw [submit]
  generalize s.overlay.submit c now line = r at h ⊢
  rw [h, invitation]
  dsimp only
  split_ifs with hends
  · refine ⟨_, rfl, String.append_empty.symm, fun hgoes => ?_⟩
    exact absurd (hgoes.symm.trans hends) Bool.false_ne_true
  · exact ⟨_, rfl, prompted_sent .., fun _ => ⟨rfl, hasTyped_prompted ..⟩⟩

/-- After a line that does not end the visit, the next one is asked for. -/
theorem prompted_of_goOn {t : RemoteShell τ} {sent : String} {afterReturn : Bool}
    (h : s.submit c now line sent afterReturn = (t, .goOn)) :
    ∃ s' : RemoteShell τ, t = prompted c afterReturn s' ∧
      s'.overlay = (s.overlay.submit c now line).overlay.opened := by
  rw [submit] at h
  generalize s.overlay.submit c now line = submission at h ⊢
  cases hescaped : submission.escaped with
  | some f =>
    rw [hescaped] at h
    exact absurd (Prod.mk.inj h).2 nofun
  | none =>
    rw [hescaped] at h
    dsimp only at h
    split_ifs at h
    · exact absurd (Prod.mk.inj h).2 nofun
    · exact ⟨_, (Prod.mk.inj h).1.symm, rfl⟩

/-- The shell goes through a visit. -/
theorem answered_entered (hd : c.dispatcher.registry = .standard)
    (hfits : (Timescale.millis? c.dispatcher.profile.alertDurationMs : Option τ) ≠ none)
    (hlines : ∀ line ∈ lines, Typing.IsPlain line) (h : s.HasTyped [])
    (hs : s.overlay.session.anonymous = session.anonymous) :
    (entered c clock s (Typing.bytes lines)).map Entered.answered =
      c.visit session clock lines := by
  induction lines generalizing s session clock with
  | nil => rfl
  | cons line rest ih =>
    obtain ⟨hline, hrest⟩ := List.forall_mem_cons.1 hlines
    -- What is typed changes the editor alone, so the line meets the overlay of the prompt.
    rw [← overlay_typedAll s line.toList] at hs
    have hescaped : ((s.typedAll line.toList).overlay.submit (c.dated clock.reading.date)
        clock.reading.now line).escaped = none := Overlay.escaped_submit hd hfits
    obtain ⟨hreply, hsession⟩ := Overlay.submit_alike hd hs clock.reading line
    obtain ⟨s', hsubmit, -, hnext⟩ := submit_of_answered hescaped "\r\n" true
    rw [Typing.bytes_cons, entered_keys h hline, entered, feed_return h, Console.visit]
    dsimp only
    rw [List.map_cons, Overlay.answered_submit hd hs, hsubmit, ← hreply]
    refine congrArg (List.cons _) ?_
    split_ifs with hends
    · rfl
    · obtain ⟨hopen, htyped⟩ := hnext (Bool.eq_false_iff.2 hends)
      apply ih hrest htyped
      rw [hopen, Overlay.opened_session]
      exact hsession

/-- A line that is typed at a prompt and does not fail is shown and replied to. If it ends the
session, the bytes behind it are not read; otherwise the shell goes on from the next prompt. -/
theorem run_line (h : s.HasTyped []) (hline : Typing.IsPlain line)
    (hescaped : (s.overlay.submit c now line).escaped = none) (fault : Option Fault)
    (rest : List UInt8) :
    ∃ s' : RemoteShell τ,
      s.run c now fault (line.toList.map Typing.byte ++ Typing.carriageReturn :: rest) =
        (if Event.endsSession (s.overlay.submit c now line).reply.events then s'.finish c rest
          else s'.run c now fault rest) ∧
        s'.sent = s.sent ++ ((if s.overlay.session.awaitingPassword then "" else line) ++ "\r\n" ++
          replyText (s.overlay.submit c now line).reply ++
            invitation c (s.overlay.submit c now line)) ∧
        (Event.endsSession (s.overlay.submit c now line).reply.events = false →
          s'.overlay = (s.overlay.submit c now line).overlay.opened ∧ s'.HasTyped []) := by
  have hshown := h.sent_typedAll line.toList
  have hsame := overlay_typedAll s line.toList
  rw [String.ofList_toList] at hshown
  rw [← hsame] at hescaped
  obtain ⟨s', hsubmit, hsent, hnext⟩ := submit_of_answered hescaped "\r\n" true
  rw [hsame] at hsubmit hsent hnext
  refine ⟨s', ?_, ?_, hnext⟩
  · rw [run_keys h hline, run, feed_return h]
    dsimp only
    rw [hsubmit]
    split_ifs <;> rfl
  · rw [hsent, hshown]
    simp only [String.append_assoc]

/-- What the shell sends after a prompt, as the lines are answered. -/
def transcript (p : Profile) (s : Session) : List Answered → String
  | [] => "logout\r\n"
  | x :: rest =>
    (if s.awaitingPassword then "" else x.line) ++ "\r\n" ++ replyText x.reply ++
      if x.isLast then "logout\r\n"
      else wire (Overlay.promptOf p x.session ++ " ") ++ transcript p x.session rest

theorem transcript_anonymous (p : Profile) (s : Session) (xs : List Answered) :
    transcript p s.anonymous xs = transcript p s xs := by
  cases xs <;> rfl

/-- The bytes behind the last line of a visit are not read. What the shell sends to a visitor who
hangs up after the lines is the transcript of the visit, and no failure ends it. -/
theorem run_visit (hd : c.dispatcher.registry = .standard)
    (hfits : (Timescale.millis? c.dispatcher.profile.alertDurationMs : Option τ) ≠ none)
    (hlines : ∀ line ∈ lines, Typing.IsPlain line) (h : s.HasTyped [])
    (hs : s.overlay.session.anonymous = session.anonymous) (now : τ) (fault : Option Fault) :
    (s.run c now fault (Typing.bytes lines)).rest =
        Typing.bytes (lines.drop
          (c.visit session (.still ⟨now, c.dispatcher.clock⟩) lines).length) ∧
      (fault = none →
        (s.run c now fault (Typing.bytes lines)).sent =
            s.sent ++ transcript c.dispatcher.profile s.overlay.session
              (c.visit session (.still ⟨now, c.dispatcher.clock⟩) lines) ∧
          (s.run c now fault (Typing.bytes lines)).escaped = none) := by
  induction lines generalizing s session with
  | nil =>
    refine ⟨?_, ?_⟩
    · cases fault with
      | none => rfl
      | some f =>
        rw [Typing.bytes, List.flatMap_nil, run, exhausted]
        split_ifs <;> rfl
    · rintro rfl
      exact ⟨rfl, rfl⟩
  | cons line rest ih =>
    obtain ⟨hline, hrest⟩ := List.forall_mem_cons.1 hlines
    have hescaped : (s.overlay.submit c now line).escaped = none := Overlay.escaped_submit hd hfits
    obtain ⟨hreply, hsession⟩ := Overlay.submit_alike_undated hd hs now line
    obtain ⟨s', hrun, hsent, hnext⟩ := run_line h hline hescaped fault (Typing.bytes rest)
    rw [Typing.bytes_cons, hrun, Console.visit, transcript, Answered.isLast_mk]
    dsimp only
    rw [Clock.reading_still, Clock.later_still, ← hreply]
    rw [invitation] at hsent
    cases hends : Event.endsSession (s.overlay.submit c now line).reply.events with
    | true =>
      rw [hends, if_pos rfl, String.append_empty] at hsent
      rw [if_pos rfl, if_pos rfl, if_pos rfl]
      refine ⟨rfl, fun _ => ⟨?_, rfl⟩⟩
      rw [finish, hsent, String.append_assoc]
    | false =>
      -- The next line is typed at the prompt that this one has left.
      obtain ⟨hopen, htyped⟩ := hnext hends
      have hopened : s'.overlay.session = (s.overlay.submit c now line).overlay.session := by
        rw [hopen, Overlay.opened_session]
      rw [hends, if_neg Bool.false_ne_true] at hsent
      rw [if_neg Bool.false_ne_true, if_neg Bool.false_ne_true, if_neg Bool.false_ne_true]
      rw [← hopened] at hsession
      obtain ⟨hdropped, htold⟩ := ih hrest htyped hsession
      refine ⟨?_, fun hnone => ?_⟩
      · rw [List.length_cons, List.drop_succ_cons]
        exact hdropped
      · obtain ⟨hshown, hgone⟩ := htold hnone
        refine ⟨?_, hgone⟩
        rw [hshown, hsent, ← hsession, transcript_anonymous, Overlay.promptOf_anonymous,
          Overlay.prompt, ← hopened]
        simp only [String.append_assoc]

end RemoteShell

end MissionConsole
