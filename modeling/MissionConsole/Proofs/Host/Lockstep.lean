import MissionConsole.Proofs.Host.Shell
import MissionConsole.Proofs.Web.Table

/-!
# The hosts in lockstep

The same lines, entered on the local shell, typed on the remote one and sent to the web one by one,
are the same visit: they are answered alike, they leave the same session behind, and they stop at
the same line, which is the first one that ends the session. Each host goes through the visit of its
own session, and the sessions differ in the id and the origin alone. What the shells show of it is
the transcript of the same answers.

An alert that is too long for the clock sets them apart, for it is the one thing on which a line
fails: the shells stop at it, while on the web the session goes on.

## Main definitions

* `SessionTable.requests` — lines as requests on a session
* `SessionTable.entered`, `SessionTable.answered` — the lines that are entered on a session of the
  web, and what its visitor sees of them
* `SessionTable.InStep` — the hosts go through the same lines

## Main results

* `SessionTable.answered_eq_visit` — a session of the web goes through a visit
* `SessionTable.replies_exchanges` — the requests of a visit are replied to, and all requests after
  it are refused
* `SessionTable.hosts_in_step` — the hosts go through the same visit
-/

namespace MissionConsole

namespace SessionTable

variable {τ : Type} [Timescale τ] {h : WebHost τ} {t : SessionTable τ} {id line : String}
  {e : Entry τ} {clock : Clock τ} {lines : List String} {now : τ}

/-! ### Lines as requests -/

/-- A line as a request on a session. -/
def request (id : String) (r : Reading τ) (line : String) : Moment τ :=
  ⟨.command id line, r.now, r.date⟩

/-- Lines as requests on a session, with the clocks read anew for each. -/
def requests (id : String) (clock : Clock τ) : List String → List (Moment τ)
  | [] => []
  | line :: rest => request id clock.reading line :: requests id clock.later rest

/-- The lines that are entered on a session. -/
def entered (h : WebHost τ) (id : String) (clock : Clock τ) (t : SessionTable τ) :
    List String → List (Entered τ)
  | [] => []
  | line :: rest =>
    match t.find? id with
    | none => []
    | some e =>
      let r := clock.reading
      ⟨line, e.submit (h.dated r.date) r.now line⟩ ::
        entered h id clock.later (t.step h (request id r line)).table rest

/-- The lines that are entered on a session, with what its visitor sees of them. -/
def answered (h : WebHost τ) (id : String) (clock : Clock τ) (t : SessionTable τ)
    (lines : List String) : List Answered :=
  (entered h id clock t lines).map Entered.answered

/-! ### One request -/

/-- A request on a session that is not there is refused, and the session is still not there. -/
theorem step_of_none (hfind : t.find? id = none) (r : Reading τ) (line : String) :
    t.step h (request id r line) = t.refuse .unknownSession := by
  rw [step, request, answer, command_of_none hfind]

/-- A line that does not fail is replied to. If it ends the session, the session is no longer there;
otherwise it goes on from the line. -/
theorem step_of_answered (hfind : t.find? id = some e) (r : Reading τ)
    (hescaped : (e.submit (h.dated r.date) r.now line).escaped = none) :
    (t.step h (request id r line)).response.reply? =
        some (e.submit (h.dated r.date) r.now line).reply ∧
      (t.step h (request id r line)).table.find? id =
        if Event.endsSession (e.submit (h.dated r.date) r.now line).reply.events then none
        else some (e.next (h.dated r.date) r.now line) := by
  rw [step, request, answer]
  cases hends : Event.endsSession (e.submit (h.dated r.date) r.now line).reply.events with
  | true =>
    have hlast : e.ends (h.dated r.date) r.now line = true := by
      rw [Entry.ends, hescaped, hends]
      rfl
    rw [command_of_ends hfind hlast, if_pos rfl]
    exact ⟨rfl, find?_drop.trans (if_pos rfl)⟩
  | false =>
    have hlast : e.ends (h.dated r.date) r.now line = false := by
      rw [Entry.ends, hends, Bool.and_false]
    rw [command_of_goesOn hfind hlast, if_neg Bool.false_ne_true, Entry.response, hescaped]
    exact ⟨rfl, find?_update.trans (if_pos rfl)⟩

/-! ### A visit on the web -/

variable {c : Console} {session : Session}

theorem entered_of_none (hfind : t.find? id = none) : entered h id clock t lines = [] := by
  cases lines with
  | nil => rfl
  | cons line rest => rw [entered, hfind]

theorem refused_of_none (hfind : t.find? id = none) :
    ∀ x ∈ t.exchanges h (requests id clock lines),
      x.outcome.response = .refused .unknownSession := by
  induction lines generalizing clock with
  | nil => exact List.forall_mem_nil _
  | cons line rest ih =>
    rw [requests, exchanges, step_of_none hfind]
    exact List.forall_mem_cons.2 ⟨rfl, ih⟩

theorem not_mem_after_of_none (hfind : t.find? id = none) :
    id ∉ (t.after h (requests id clock lines)).ids := by
  induction lines generalizing clock with
  | nil => exact find?_eq_none_iff.1 hfind
  | cons line rest ih =>
    rw [requests, after, step_of_none hfind]
    exact ih

/-- A session of the web runs on a console, and nothing but the id and the origin sets it apart from
another session. -/
structure Entry.RunsAs (h : WebHost τ) (e : Entry τ) (c : Console) (session : Session) : Prop where
  console_eq : h.console e.profile = c
  session_eq : e.overlay.session.anonymous = session.anonymous

theorem Entry.submit_dated (h : WebHost τ) (e : Entry τ) (date : Except String String) (now : τ)
    (line : String) :
    e.submit (h.dated date) now line =
      e.overlay.submit ((h.console e.profile).dated date) now line := by
  rw [Entry.submit, WebHost.dated]

theorem Entry.next_overlay (h : WebHost τ) (e : Entry τ) (now : τ) (line : String) :
    (e.next h now line).overlay = (e.submit h now line).overlay := by
  rw [Entry.next]

/-- Where no alert is too long, a line on a session of the web is answered as it would be on the
other session, and then the session runs as that one. -/
theorem Entry.RunsAs.enter (he : e.RunsAs h c session) (hd : c.dispatcher.registry = .standard)
    (hfits : (Timescale.millis? c.dispatcher.profile.alertDurationMs : Option τ) ≠ none)
    (r : Reading τ) (line : String) :
    (e.submit (h.dated r.date) r.now line).escaped = none ∧
      (⟨line, e.submit (h.dated r.date) r.now line⟩ : Entered τ).answered =
        ⟨line, (c.turn session r line).reply, (c.turn session r line).session.anonymous⟩ ∧
      (e.next (h.dated r.date) r.now line).RunsAs h c (c.turn session r line).session := by
  obtain ⟨rfl, hs⟩ := he
  rw [Entry.submit_dated]
  have hescaped : (e.overlay.submit ((h.console e.profile).dated r.date) r.now line).escaped =
      none := Overlay.escaped_submit hd hfits
  have hsession := (Overlay.submit_alike hd hs r line).2
  refine ⟨hescaped, Overlay.answered_submit hd hs r line, ?_, ?_⟩
  · rw [Entry.next]
  · rw [Entry.next_overlay, Entry.submit_dated, hsession]

/-- A session of the web goes through a visit. -/
theorem answered_eq_visit (hfind : t.find? id = some e) (he : e.RunsAs h c session)
    (hd : c.dispatcher.registry = .standard)
    (hfits : (Timescale.millis? c.dispatcher.profile.alertDurationMs : Option τ) ≠ none) :
    answered h id clock t lines = c.visit session clock lines := by
  induction lines generalizing t e session clock with
  | nil => rfl
  | cons line rest ih =>
    obtain ⟨hescaped, hanswered, hnext⟩ := he.enter hd hfits clock.reading line
    obtain ⟨-, hfound⟩ := step_of_answered (t := t) hfind clock.reading hescaped
    rw [(Answered.mk.inj hanswered).2.1] at hfound
    rw [answered, entered, hfind, Console.visit]
    dsimp only
    rw [List.map_cons, hanswered]
    -- The first lines agree; the rest does because the table forgets exactly the sessions that end.
    refine congrArg (List.cons _) ?_
    split_ifs at hfound ⊢ with hends
    · rw [entered_of_none hfound, List.map_nil]
    · exact ih hfound hnext

/-- The requests of a visit are replied to, and all requests after it are refused. -/
theorem replies_exchanges (hfind : t.find? id = some e) (he : e.RunsAs h c session)
    (hd : c.dispatcher.registry = .standard)
    (hfits : (Timescale.millis? c.dispatcher.profile.alertDurationMs : Option τ) ≠ none)
    (clock : Clock τ) (lines : List String) :
    ∃ replied refused : List (Exchange τ),
      t.exchanges h (requests id clock lines) = replied ++ refused ∧
        replied.map (·.outcome.response.reply?) =
          (c.visit session clock lines).map (some ·.reply) ∧
        ∀ x ∈ refused, x.outcome.response = .refused .unknownSession := by
  induction lines generalizing t e session clock with
  | nil => exact ⟨[], [], rfl, rfl, List.forall_mem_nil _⟩
  | cons line rest ih =>
    obtain ⟨hescaped, hanswered, hnext⟩ := he.enter hd hfits clock.reading line
    obtain ⟨hreplied, hfound⟩ := step_of_answered (t := t) hfind clock.reading hescaped
    rw [(Answered.mk.inj hanswered).2.1] at hreplied hfound
    rw [requests, exchanges, Console.visit]
    split_ifs at hfound ⊢ with hends
    · refine ⟨[_], _, rfl, ?_, refused_of_none hfound⟩
      rw [List.map_singleton, List.map_singleton, hreplied]
    · obtain ⟨replied, refused, hexchanges, hreplies, hrefused⟩ :=
        ih hfound hnext clock.later
      refine ⟨_ :: replied, refused, congrArg (List.cons _) hexchanges, ?_, hrefused⟩
      rw [List.map_cons, List.map_cons, hreplied, hreplies]

/-- The session is there after the lines if none of them has ended it. -/
theorem mem_ids_after_iff (hfind : t.find? id = some e) (he : e.RunsAs h c session)
    (hd : c.dispatcher.registry = .standard)
    (hfits : (Timescale.millis? c.dispatcher.profile.alertDurationMs : Option τ) ≠ none) :
    id ∈ (t.after h (requests id clock lines)).ids ↔
      ∀ x ∈ c.visit session clock lines, x.isLast = false := by
  induction lines generalizing t e session clock with
  | nil => exact iff_of_true (mem_ids_of_find? hfind) (List.forall_mem_nil _)
  | cons line rest ih =>
    obtain ⟨hescaped, hanswered, hnext⟩ := he.enter hd hfits clock.reading line
    obtain ⟨-, hfound⟩ := step_of_answered (t := t) hfind clock.reading hescaped
    rw [(Answered.mk.inj hanswered).2.1] at hfound
    rw [requests, after, Console.visit, List.forall_mem_cons, Answered.isLast_mk]
    split_ifs at hfound ⊢ with hends
    · refine iff_of_false (not_mem_after_of_none hfound) ?_
      rintro ⟨hgoes, -⟩
      exact Bool.false_ne_true (hgoes.symm.trans hends)
    · rw [ih hfound hnext]
      exact (and_iff_right (Bool.eq_false_iff.2 hends)).symm

/-! ### The same lines on every host -/

/-- The hosts go through the same lines: the local shell from a text, the remote one from keys, and
a session of the web by requests. -/
structure InStep (h : WebHost τ) (t : SessionTable τ) (id : String) (c : Console)
    (here there : Overlay τ) (clock : Clock τ) (lines : List String) : Prop where
  /-- The local shell enters the lines that are entered on the web, with the same replies and the
  same session after each. -/
  here_eq : (LocalShell.entered c clock here.opened
      (LocalShell.inputLines (Typing.text lines))).map Entered.answered =
    answered h id clock t lines
  /-- So does the remote shell. -/
  there_eq : ((RemoteShell.greet c there).entered c clock (Typing.bytes lines)).map
      Entered.answered =
    answered h id clock t lines
  /-- Where the clocks stand still, these are the lines that the local shell logs when it runs, and
  it prints what they are answered with. No failure ends it. -/
  here_run : ∀ now : τ, clock = .still ⟨now, c.dispatcher.clock⟩ →
    let out := LocalShell.run c now here (LocalShell.inputLines (Typing.text lines))
    out.journal =
        (LocalShell.entered c clock here.opened
          (LocalShell.inputLines (Typing.text lines))).flatMap (·.submission.journal) ∧
      out.output = LocalShell.greeting here.opened ++
        LocalShell.transcript c.dispatcher.profile here.session (answered h id clock t lines) ∧
      out.escaped = none
  /-- So does the remote shell, and it reads no key behind them. -/
  there_run : ∀ (now : τ) (fault : Option Fault), clock = .still ⟨now, c.dispatcher.clock⟩ →
    let served := RemoteShell.serve c now there ⟨Typing.bytes lines, fault⟩
    served.journal =
        ((RemoteShell.greet c there).entered c clock (Typing.bytes lines)).flatMap
          (·.submission.journal) ∧
      served.rest = Typing.bytes (lines.drop (answered h id clock t lines).length) ∧
      (fault = none →
        served.sent = (RemoteShell.greet c there).sent ++
          RemoteShell.transcript c.dispatcher.profile there.session
            (answered h id clock t lines) ∧
        served.escaped = none)
  /-- On the web these lines are replied to, and all lines behind them are refused. -/
  replied : ∃ replied refused : List (Exchange τ),
    t.exchanges h (requests id clock lines) = replied ++ refused ∧
      replied.map (·.outcome.response.reply?) =
        (answered h id clock t lines).map (some ·.reply) ∧
      ∀ x ∈ refused, x.outcome.response = .refused .unknownSession
  /-- They are the first ones of the lines. -/
  lines_prefix : (answered h id clock t lines).map (·.line) <+: lines
  /-- Only the last of them may end the session. -/
  goesOn : ∀ x ∈ (answered h id clock t lines).dropLast, x.isLast = false
  /-- They stop at a line that ends the session, or at the end of the lines. -/
  stops : (answered h id clock t lines).map (·.line) = lines ∨
    ∃ x ∈ (answered h id clock t lines).getLast?, x.isLast = true
  /-- On the web the session is known afterwards if none of them has ended it. -/
  known : id ∈ (t.after h (requests id clock lines)).ids ↔
    ∀ x ∈ answered h id clock t lines, x.isLast = false

/-- Whatever the clocks show, and as long as the alerts of the profile are not too long for the one
of them, the hosts go through the same printable lines, from sessions that differ in the id and the
origin alone. -/
theorem hosts_in_step (h : WebHost τ) (t : SessionTable τ) (id : String) (e : Entry τ)
    (hfind : t.find? id = some e) (hd : (h.console e.profile).dispatcher.registry = .standard)
    (hfits : (Timescale.millis? (h.console e.profile).dispatcher.profile.alertDurationMs :
      Option τ) ≠ none) (here there : Overlay τ)
    (hhere : here.session.anonymous = e.overlay.session.anonymous)
    (hthere : there.session.anonymous = e.overlay.session.anonymous) (clock : Clock τ)
    (lines : List String) (hlines : ∀ line ∈ lines, Typing.IsPlain line) :
    InStep h t id (h.console e.profile) here there clock lines := by
  have he : e.RunsAs h (h.console e.profile) e.overlay.session := ⟨rfl, rfl⟩
  have hvisit : answered h id clock t lines =
      (h.console e.profile).visit e.overlay.session clock lines :=
    answered_eq_visit hfind he hd hfits
  have hstart : (RemoteShell.greet (h.console e.profile) there).HasTyped [] :=
    RemoteShell.hasTyped_prompted ..
  -- All three are the visit of the one session, so what holds of a visit holds of them.
  refine ⟨?_, ?_, ?_, ?_, ?_, ?_, ?_, ?_, ?_⟩
  · rw [hvisit, Typing.inputLines_text hlines]
    exact LocalShell.answered_entered hd hfits hhere
  · rw [hvisit]
    exact RemoteShell.answered_entered hd hfits hlines hstart hthere
  · rintro now rfl
    obtain ⟨houtput, hescaped⟩ := LocalShell.loop_visit (o := here.opened) hd hfits hhere now lines
    rw [hvisit, LocalShell.run, Typing.inputLines_text hlines]
    exact ⟨LocalShell.journal_loop _ now here.opened _, congrArg (_ ++ ·) houtput, hescaped⟩
  · rintro now fault rfl
    rw [hvisit]
    exact ⟨RemoteShell.journal_run _ now fault _ _,
      RemoteShell.run_visit hd hfits hlines hstart hthere now fault⟩
  · rw [hvisit]
    exact replies_exchanges hfind he hd hfits clock lines
  · rw [hvisit]
    exact Console.lines_visit
  · rw [hvisit]
    exact Console.goesOn_of_mem_dropLast
  · rw [hvisit]
    exact Console.stops_visit
  · rw [hvisit]
    exact mem_ids_after_iff hfind he hd hfits

/-- A visitor logs in and leaves. On the web the last line comes too late, and on the shells it is
not read any more. -/
theorem hosts_in_step_exit :
    let h := WebHost.sample 10
    let c := h.console (Profile.map .standard)
    let t := (empty : SessionTable Int).add "i" (.new h (Profile.map .standard) "i" "web") 0
    let clock : Clock Int := fun n => ⟨n * 10, .ok ""⟩
    let lines := ["login", "legion", "whoami", "exit", "pwd"]
    (∀ line ∈ lines, Typing.IsPlain line) ∧
      InStep h t "i" c (Overlay.new c "here" "local") (Overlay.new c "there" "remote") clock lines ∧
        (answered h "i" clock t lines).map (·.line) = ["login", "legion", "whoami", "exit"] ∧
          "i" ∉ (t.after h (requests "i" clock lines)).ids := by
  intro h c t clock lines
  have hlines : ∀ line ∈ lines, Typing.IsPlain line := by decide
  have hfind : t.find? "i" = some (.new h (Profile.map .standard) "i" "web") :=
    find?_add.trans (if_pos rfl)
  have hfits : (Timescale.millis? c.dispatcher.profile.alertDurationMs : Option Int) ≠ none := nofun
  have hstep := hosts_in_step h t "i" _ hfind (WebHost.sample_registry 10 _) hfits
    (Overlay.new c "here" "local") (Overlay.new c "there" "remote") rfl rfl clock lines hlines
  exact ⟨hlines, hstep, by decide +kernel, by decide +kernel⟩

/-- An alert that is too long for the clock ends the local shell, though its line does not end the
session; on the web the session goes on. -/
theorem alert_too_long_parts_hosts :
    let p : Profile := { Profile.map .standard with alertDurationMs := Nat.pow 10 400 }
    let c : Console := ⟨.standard p [] (.ok ""), .empty, 200, 500, none⟩
    let h : WebHost Float := ⟨fun _ => .ok p, fun _ => c, fun _ => "id", .seconds 1800, 200⟩
    let t := (empty : SessionTable Float).after h [⟨.create "map" "web", 0, .ok ""⟩]
    let clock : Clock Float := .still ⟨0, .ok ""⟩
    let lines := ["sudo su", "pwd"]
    let here := (LocalShell.entered c clock (Overlay.new c "here" "local").opened
      (LocalShell.inputLines (Typing.text lines))).map Entered.answered
    let onWeb := answered h "id" clock t lines
    (∀ line ∈ lines, Typing.IsPlain line) ∧ here.map (·.line) = ["sudo su"] ∧
      here.any (·.isLast) = false ∧ onWeb.map (·.line) = lines := by
  decide +kernel

end SessionTable

end MissionConsole
