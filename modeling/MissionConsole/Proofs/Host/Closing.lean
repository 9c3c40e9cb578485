import MissionConsole.Proofs.Host.Course
import MissionConsole.Remote.Connection

/-!
# Connections that fail

A connection may fail at any stage of its way, and once more while it is closed. The way up to the
closing follows a plan: its stages are reached one after the other, up to the first that raises
anything, and the way fails with what this one raises. Behind it the transport is closed if it was
ever set up, the socket is closed in any case, and the end of the connection is the last thing that
is recorded.

## Main definitions

* `Stage.closes` — the stages at which a connection is closed
* `Connection.raises` — what a stage before the closing raises
* `Connection.plan`, `Connection.reached` — the stages before the closing, and those of them that
  are reached
* `Connection.Way` — what lies between two moments before the closing
* `Connection.Opens` — a part of the way up to the closing
* `Connection.Closes` — a connection is closed as it should be

## Main results

* `Connection.Opens.bind` — two parts one after the other are a part
* `Connection.opens_way` — everything before the closing is one, through the stages of the plan
* `Connection.closes_handle` — whatever fails, the connection is closed as it should be
-/

namespace MissionConsole

/-- The stages at which what was opened is closed. -/
def Stage.closes : Stage → Bool
  | .transportClose => true
  | .socketClose => true
  | _ => false

/-- The start, the end and the failure of a connection are recorded by the connection alone. -/
def Record.IsInner (r : Record) : Prop :=
  r.eventType ∉ ["session_connect", "session_disconnect", "session_error"]

theorem Record.isInner_of_channel_ne {r : Record} (h : r.channel ≠ .system) : r.IsInner := by
  cases r with
  | lifecycle => exact absurd rfl h
  | command | login | transport => simp [IsInner, eventType]

theorem Record.isInner_noChannel (origin : String) :
    (Record.lifecycle "NO_CHANNEL" origin []).IsInner := by
  have htype : "session_" ++ Text.lower "NO_CHANNEL" ∉
      ["session_connect", "session_disconnect", "session_error"] := by decide +kernel
  exact htype

/-! ### Serving -/

namespace RemoteShell

variable {τ : Type} [Timescale τ] {c : Console} {s : RemoteShell τ} {clock : Clock τ}
  {fault : Option Fault} {bytes : List UInt8}

/-- What gets out of a visit is what ended its bytes, or the failure of the clock. -/
theorem of_escaped_served {f : Fault} (h : (s.served c fault clock bytes).escaped = some f) :
    fault = some f ∨ f = .durationTooLong := by
  induction bytes generalizing s clock with
  | nil =>
    cases fault with
    | none => cases h
    | some g =>
      rw [served, exhausted] at h
      split_ifs at h
      · cases h
      · exact .inl h
  | cons b rest ih =>
    rw [served] at h
    cases hpress : s.press c clock.reading b with
    | typing s' =>
      rw [hpress] at h
      exact ih h
    | entered x s' next =>
      rw [hpress] at h
      cases next with
      | goOn => exact ih h
      | leave => cases h
      | fail g =>
        obtain ⟨text, sent, afterReturn, -, -, hsubmit⟩ := feed_of_entered hpress
        obtain rfl := Option.some.inj h
        exact .inr (Overlay.eq_durationTooLong_of_submit (escaped_of_fail hsubmit))
    | left =>
      rw [hpress] at h
      cases h

/-- What is recorded while a shell is served are lines and passwords. -/
theorem isInner_of_mem_records_serve {now : τ} {o : Overlay τ} {input : RemoteInput} {r : Record}
    (hr : r ∈ Journal.records (serve c now o input).journal) : r.IsInner := by
  have hjournal := journal_served c input.fault (greet c o) (.still ⟨now, c.dispatcher.clock⟩) []
    input.bytes
  rw [served_still] at hjournal
  rw [serve, hjournal, Journal.records, List.mem_filterMap] at hr
  obtain ⟨entry, hentry, hrecord⟩ := hr
  obtain ⟨x, hx, hlogged⟩ := List.mem_flatMap.1 hentry
  obtain ⟨o', reading, hsubmission⟩ := submission_of_mem_rounds hx
  rw [hsubmission] at hlogged
  apply Record.isInner_of_channel_ne
  exact Overlay.channel_ne_of_mem_records_submit (List.mem_filterMap.2 ⟨entry, hlogged, hrecord⟩)

end RemoteShell

/-! ### Parts of a connection -/

namespace Connection

variable {τ : Type} [Timescale τ] {console : Console} {now : τ} {id keyPath : String}
  {credentials : Credentials} {peer : Peer} {α β : Type}

/-- What a part of a connection failed with. -/
def failure : Except Fault α → Option Fault
  | .ok _ => none
  | .error f => some f

/-- What a stage before the closing raises. A key that is missing does not count, for one is made;
while the channel is accepted, the shell is served. -/
def raises (console : Console) (now : τ) (id : String) (peer : Peer) : Stage → Option Fault
  | .loadKey => (peer.fault .loadKey).filter (·.kind != .missingFile)
  | .accept =>
    (peer.fault .accept).or
      (if peer.opensChannel then
        (RemoteShell.serve console now (Overlay.new console id peer.ip) peer.input).escaped
      else none)
  | stage => peer.fault stage

/-- Whether a key is made: there is none, or it turns out to be missing when it is loaded. -/
def makesKey (peer : Peer) : Bool :=
  match peer.fault .loadKey with
  | some f => f.kind == .missingFile
  | none => peer.keyMissing

/-- The stages at which the host key is loaded or made. -/
def keyPlan (peer : Peer) : List Stage :=
  .loadKey :: if makesKey peer then [.generateKey, .writeKey] else []

/-- The stages before the closing, if none of them raises anything. -/
def plan (peer : Peer) : List Stage :=
  .transport :: keyPlan peer ++ [.addServerKey, .startServer, .accept]

/-- The stages that are reached of some: the first that raises anything is the last one. -/
def reached (raises : Stage → Option Fault) : List Stage → List Stage
  | [] => []
  | stage :: rest => stage :: if (raises stage).isSome then [] else reached raises rest

/-- What lies between two moments of a connection that is not closed yet. -/
structure Way (raises : Stage → Option Fault) (stages : List Stage) (before after : Connection)
    (failed : Option Fault) : Prop where
  /-- The stages are reached, up to the first that raises anything. -/
  trace_eq : after.trace = before.trace ++ reached raises stages
  /-- What this one raises has made the way fail. -/
  failed_eq : stages.findSome? raises = failed
  /-- Neither the start nor the end of the connection is recorded, and no failure. -/
  journal_eq : ∃ entries, after.journal = before.journal ++ entries ∧
    ∀ r ∈ Journal.records entries, r.IsInner

/-- A part of a connection that leads through some stages before the closing. -/
def Opens (raises : Stage → Option Fault) (stages : List Stage) (a : Attempt α) : Prop :=
  ∀ c, Way raises stages c (a.run c).2 (failure (a.run c).1)

/-! ### How parts are carried out -/

theorem run_bind (a : Attempt α) (k : α → Attempt β) (c : Connection) :
    (a >>= k).run c =
      match a.run c with
      | (.ok x, c) => (k x).run c
      | (.error f, c) => (.error f, c) := by
  simp only [ExceptT.run, bind, ExceptT.bind, ExceptT.mk, StateT.bind, ExceptT.bindCont]
  cases a c with
  | mk result c => cases result <;> rfl

theorem run_tryCatch (a : Attempt α) (handler : Fault → Attempt α) (c : Connection) :
    (tryCatch a handler).run c =
      match a.run c with
      | (.ok x, c) => (.ok x, c)
      | (.error f, c) => (handler f).run c := by
  simp only [ExceptT.run, tryCatch, tryCatchThe, MonadExceptOf.tryCatch, ExceptT.tryCatch,
    ExceptT.mk, bind, StateT.bind]
  cases a c with
  | mk result c => cases result <;> rfl

/-- A stage that is reached is traced, whether it fails or not. -/
theorem run_reach (peer : Peer) (stage : Stage) (c : Connection) :
    (reach peer stage).run c =
      (match peer.fault stage with
        | some f => .error f
        | none => .ok (),
      { c with trace := c.trace ++ [stage] }) := by
  rw [reach, run_bind]
  cases peer.fault stage <;> rfl

theorem run_note (entries : List Journal.Entry) (c : Connection) :
    (note entries).run c = (.ok (), { c with journal := c.journal ++ entries }) := rfl

/-! ### The way up to the closing -/

variable {R : Stage → Option Fault} {a : Attempt α} {k : α → Attempt β} {stage : Stage}
  {stages more : List Stage} {before between after : Connection} {failed : Option Fault}
  {entries : List Journal.Entry}

theorem reached_append :
    reached R (stages ++ more) =
      reached R stages ++ if (stages.findSome? R).isSome then [] else reached R more := by
  induction stages with
  | nil => rfl
  | cons stage stages ih =>
    rw [List.cons_append, reached, reached, List.findSome?_cons]
    cases hraises : R stage with
    | none => simpa using ih
    | some f => rfl

/-- What is not reached does not raise anything either. -/
theorem findSome?_reached (R : Stage → Option Fault) (stages : List Stage) :
    (reached R stages).findSome? R = stages.findSome? R := by
  induction stages with
  | nil => rfl
  | cons stage stages ih =>
    rw [reached, List.findSome?_cons, List.findSome?_cons]
    cases hraises : R stage with
    | none => simpa using ih
    | some f => rfl

theorem mem_of_mem_reached (h : stage ∈ reached R stages) : stage ∈ stages := by
  induction stages with
  | nil => exact h
  | cons first stages ih =>
    rw [reached, List.mem_cons] at h
    rcases h with rfl | hlater
    · exact List.mem_cons_self
    · split_ifs at hlater
      · exact absurd hlater List.not_mem_nil
      · exact List.mem_cons_of_mem first (ih hlater)

/-- A way on which nothing has failed goes on. -/
theorem Way.trans (hfirst : Way R stages before between none)
    (hsecond : Way R more between after failed) : Way R (stages ++ more) before after failed := by
  obtain ⟨entries, hjournal, hinner⟩ := hfirst.journal_eq
  obtain ⟨entries', hjournal', hinner'⟩ := hsecond.journal_eq
  refine ⟨?_, ?_, entries ++ entries', ?_, ?_⟩
  · rw [reached_append, hfirst.failed_eq, hsecond.trace_eq, hfirst.trace_eq, List.append_assoc]
    rfl
  · rw [List.findSome?_append, hfirst.failed_eq, hsecond.failed_eq, Option.none_or]
  · rw [hjournal', hjournal, List.append_assoc]
  · rw [Journal.records_append]
    exact List.forall_mem_append.2 ⟨hinner, hinner'⟩

/-- Where a way has failed, the stages that were to follow are not reached. -/
theorem Way.stop {f : Fault} (h : Way R stages before after (some f)) (more : List Stage) :
    Way R (stages ++ more) before after (some f) := by
  refine ⟨?_, ?_, h.journal_eq⟩
  · rw [reached_append, h.failed_eq, h.trace_eq]
    exact congrArg (_ ++ ·) (List.append_nil _).symm
  · rw [List.findSome?_append, h.failed_eq, Option.some_or]

/-- One stage is a way, with all that is recorded at it. -/
theorem way_of_stage (htrace : after.trace = before.trace ++ [stage])
    (hjournal : after.journal = before.journal ++ entries)
    (hinner : ∀ r ∈ Journal.records entries, r.IsInner) :
    Way R [stage] before after (R stage) := by
  refine ⟨?_, ?_, entries, hjournal, hinner⟩
  · rw [reached, reached, ite_self]
    exact htrace
  · rw [List.findSome?_cons]
    cases R stage <;> rfl

theorem way_of_reached :
    Way R [stage] before { before with trace := before.trace ++ [stage] } (R stage) :=
  way_of_stage rfl (List.append_nil _).symm (List.forall_mem_nil _)

/-- Two parts one after the other are a part: the second one is left out if the first one fails. -/
theorem Opens.bind (ha : Opens R stages a) (hk : ∀ x, Opens R more (k x)) :
    Opens R (stages ++ more) (a >>= k) := by
  intro c
  have hfirst := ha c
  rw [run_bind]
  generalize a.run c = out at hfirst ⊢
  obtain ⟨result, c'⟩ := out
  cases result with
  | ok x => exact hfirst.trans (hk x c')
  | error f => exact hfirst.stop more

theorem opens_pure (x : α) : Opens R [] (pure x) := fun _ =>
  ⟨(List.append_nil _).symm, rfl, [], (List.append_nil _).symm, List.forall_mem_nil _⟩

theorem opens_note (hinner : ∀ r ∈ Journal.records entries, r.IsInner) :
    Opens R [] (note entries) := fun _ =>
  ⟨(List.append_nil _).symm, rfl, entries, rfl, hinner⟩

theorem opens_reach (console : Console) (now : τ) (id : String) (peer : Peer) (stage : Stage)
    (hraises : raises console now id peer stage = peer.fault stage) :
    Opens (raises console now id peer) [stage] (reach peer stage) := by
  intro c
  have hway : Way (raises console now id peer) [stage] c { c with trace := c.trace ++ [stage] }
      (raises console now id peer stage) := way_of_reached
  rw [run_reach]
  rw [hraises] at hway
  cases hfault : peer.fault stage with
  | none | some => rwa [hfault] at hway

/-- A key that is missing does not fail its loading; it is told that one is to be made. -/
theorem run_loadKey (console : Console) (now : τ) (id : String) (peer : Peer) (c : Connection) :
    (tryCatch
        (do
          reach peer .loadKey
          pure peer.keyMissing)
        fun f => if f.kind == .missingFile then pure true else throw f : Attempt Bool).run c =
      (match raises console now id peer .loadKey with
        | some f => .error f
        | none => .ok (makesKey peer),
      { c with trace := c.trace ++ [.loadKey] }) := by
  rw [run_tryCatch, run_bind, run_reach, raises, makesKey]
  cases peer.fault .loadKey with
  | none => rfl
  | some f =>
    rw [Option.filter_some]
    -- The handler looks for the same kind of failure that does not count as one.
    cases hkind : f.kind == .missingFile with
    | true | false =>
      simp only [bne, hkind]
      rfl

theorem opens_hostKey (console : Console) (now : τ) (id : String) (peer : Peer)
    (keyPath : String) :
    Opens (raises console now id peer) (keyPlan peer) (hostKey peer keyPath) := by
  have hmakes : Opens (raises console now id peer)
      (if makesKey peer then [.generateKey, .writeKey] else []) (do
        if makesKey peer then
          reach peer .generateKey
          reach peer .writeKey
          note [.keyGenerated keyPath]) := by
    cases makesKey peer with
    | false => exact opens_pure ()
    | true =>
      have hmade : Opens (raises console now id peer) []
          (note [.keyGenerated keyPath]) := opens_note (List.forall_mem_nil _)
      have hwritten := Opens.bind (opens_reach console now id peer .writeKey rfl) fun _ => hmade
      exact Opens.bind (opens_reach console now id peer .generateKey rfl) fun _ => hwritten
  intro c
  have hway : Way (raises console now id peer) [.loadKey] c
      { c with trace := c.trace ++ [.loadKey] } (raises console now id peer .loadKey) :=
    way_of_reached
  rw [hostKey, run_bind, run_loadKey console now id]
  cases hraises : raises console now id peer .loadKey with
  | none =>
    rw [hraises] at hway
    exact hway.trans (hmakes _)
  | some f =>
    rw [hraises] at hway
    exact hway.stop _

theorem opens_startServer (console : Console) (now : τ) (id : String) (peer : Peer)
    (credentials : Credentials) :
    Opens (raises console now id peer) [.startServer] (startServer peer credentials) := by
  rw [startServer]
  refine Opens.bind (opens_reach console now id peer .startServer rfl) fun _ => ?_
  cases peer.login with
  | none => exact opens_pure ()
  | some login =>
    apply opens_note
    intro r hr
    obtain rfl := List.mem_singleton.1 hr
    exact Record.isInner_of_channel_ne nofun

/-- Serving reaches no stage of its own. -/
theorem run_serveChannel (console : Console) (now : τ) (id : String) (peer : Peer)
    (c : Connection) :
    let served := RemoteShell.serve console now (Overlay.new console id peer.ip) peer.input
    let out := (serveChannel console now id peer).run c
    out.2.trace = c.trace ∧ out.2.journal = c.journal ++ served.journal ∧
      failure out.1 = served.escaped := by
  intro served out
  have hout : out = (serveChannel console now id peer).run c := rfl
  rw [serveChannel, run_bind] at hout
  cases hescaped : served.escaped with
  | none | some =>
    simp only [served] at hescaped
    rw [hescaped] at hout
    rw [hout]
    exact ⟨rfl, rfl, rfl⟩

/-- Once the channel is accepted, what gets out of the shell counts as its failure. -/
theorem opens_accept (console : Console) (now : τ) (id : String) (peer : Peer) :
    Opens (raises console now id peer) [.accept] (do
      reach peer .accept
      if peer.opensChannel then serveChannel console now id peer
      else note [lifecycle peer "NO_CHANNEL" []]) := by
  intro c
  rw [run_bind, run_reach]
  cases hfault : peer.fault .accept with
  | some f =>
    have hway : Way (raises console now id peer) [.accept] c
        { c with trace := c.trace ++ [.accept] } (raises console now id peer .accept) :=
      way_of_reached
    rwa [raises, hfault, Option.some_or] at hway
  | none =>
    dsimp only
    cases hchannel : peer.opensChannel with
    | false =>
      have hraises : raises console now id peer .accept = none := by
        rw [raises, hfault, Option.none_or, hchannel, if_neg Bool.false_ne_true]
      have hinner : ∀ r ∈ Journal.records [lifecycle peer "NO_CHANNEL" []], r.IsInner := by
        intro r hr
        obtain rfl := List.mem_singleton.1 hr
        exact Record.isInner_noChannel peer.ip
      rw [if_neg Bool.false_ne_true, run_note, failure, ← hraises]
      exact way_of_stage rfl rfl hinner
    | true =>
      have hraises : raises console now id peer .accept =
          (RemoteShell.serve console now (Overlay.new console id peer.ip) peer.input).escaped := by
        rw [raises, hfault, Option.none_or, hchannel, if_pos rfl]
      -- The stage was traced before the shell, and whatever the shell does belongs to it.
      obtain ⟨htrace, hjournal, hfailed⟩ := run_serveChannel console now id peer
        { c with trace := c.trace ++ [.accept] }
      rw [if_pos rfl, hfailed, ← hraises]
      exact way_of_stage htrace hjournal fun r => RemoteShell.isInner_of_mem_records_serve

/-- All that precedes the closing. -/
def way (console : Console) (now : τ) (id keyPath : String) (credentials : Credentials)
    (peer : Peer) : Attempt Unit := do
  reach peer .transport
  attempt console now id keyPath credentials peer

theorem opens_way (console : Console) (now : τ) (id keyPath : String) (credentials : Credentials)
    (peer : Peer) :
    Opens (raises console now id peer) (plan peer)
      (way console now id keyPath credentials peer) := by
  have haccepted := opens_accept console now id peer
  have hstarted := Opens.bind (opens_startServer console now id peer credentials)
    fun _ => haccepted
  have hadded := Opens.bind (opens_reach console now id peer .addServerKey rfl) fun _ => hstarted
  have hkey := Opens.bind (opens_hostKey console now id peer keyPath) fun _ => hadded
  have hway := Opens.bind (opens_reach console now id peer .transport rfl) fun _ => hkey
  exact hway

/-! ### The closing -/

/-- The record of a failure. -/
def errors (peer : Peer) (failed : Option Fault) : List Journal.Entry :=
  failed.toList.map fun f => lifecycle peer "ERROR" [("error", .str f.message)]

/-- An ordinary failure goes no further than its record. -/
theorem guarded_of_ordinary (peer : Peer) {a : Attempt Unit} {c : Connection}
    (h : ∀ f, failure (a.run c).1 = some f → f.isOrdinary = true) :
    (guarded peer a).run c =
      (none, { (a.run c).2 with
        journal := (a.run c).2.journal ++ errors peer (failure (a.run c).1) }) := by
  have hrun : (guarded peer a).run c =
      match a.run c with
      | (.ok (), c) => (none, c)
      | (.error f, c) =>
        if f.isOrdinary then (none, { c with journal := c.journal ++ errors peer (some f) })
        else (some f, c) := by
    simp only [guarded, StateT.run, bind, StateT.bind]
    generalize a.run c = out
    obtain ⟨result, c'⟩ := out
    cases result with
    | ok => rfl
    | error f =>
      dsimp only
      split_ifs <;> rfl
  rw [hrun]
  generalize a.run c = out at h ⊢
  obtain ⟨result, c'⟩ := out
  cases result with
  | ok =>
    simp only [failure, errors, Option.toList_none, List.map_nil, List.append_nil]
  | error f =>
    dsimp only
    rw [if_pos (h f rfl)]
    rfl

/-- A failure that is passed over changes nothing but the trace. -/
theorem run_reach_forgiving {forgives : Fault → Bool}
    (h : ∀ f, peer.fault stage = some f → forgives f = true) (c : Connection) :
    (tryCatch (reach peer stage) fun f => if forgives f then pure () else throw f).run c =
      (.ok (), { c with trace := c.trace ++ [stage] }) := by
  rw [run_tryCatch, run_reach]
  cases hfault : peer.fault stage with
  | none => rfl
  | some f =>
    dsimp only
    rw [if_pos (h f hfault)]
    rfl

theorem run_closeSocket (hsystem : ∀ f, peer.fault .socketClose = some f → f.isSystem = true)
    (c : Connection) :
    (closeSocket peer).run c =
      (.ok (), { c with
        trace := c.trace ++ [.socketClose]
        journal := c.journal ++ [lifecycle peer "DISCONNECT" []] }) := by
  rw [closeSocket, run_bind, run_reach_forgiving hsystem]
  rfl

theorem run_cleanUp (hordinary : ∀ f, peer.fault .transportClose = some f → f.isOrdinary = true)
    (hsystem : ∀ f, peer.fault .socketClose = some f → f.isSystem = true) (transportUp : Bool)
    (c : Connection) :
    (cleanUp peer transportUp).run c =
      (.ok (), { c with
        trace := c.trace ++ (if transportUp then [.transportClose] else []) ++ [.socketClose]
        journal := c.journal ++ [lifecycle peer "DISCONNECT" []] }) := by
  rw [cleanUp]
  cases transportUp with
  | false =>
    rw [if_neg Bool.false_ne_true, if_neg Bool.false_ne_true, List.append_nil]
    exact run_closeSocket hsystem c
  | true =>
    rw [if_pos rfl, if_pos rfl, run_bind, run_reach_forgiving hordinary]
    exact run_closeSocket hsystem _

/-- What a stage before the closing raises is ordinary if nothing else is raised from below. -/
theorem isOrdinary_of_raises
    (hordinary : ∀ stage f, peer.fault stage = some f → f.isOrdinary = true)
    (hinput : ∀ f, peer.input.fault = some f → f.isOrdinary = true) {f : Fault}
    (h : raises console now id peer stage = some f) : f.isOrdinary = true := by
  rw [raises.eq_def] at h
  split at h
  · exact hordinary _ f (Option.filter_eq_some_iff.1 h).1
  · obtain hfault | ⟨-, hescaped⟩ := Option.or_eq_some_iff.1 h
    · exact hordinary _ f hfault
    · split_ifs at hescaped
      rw [RemoteShell.serve, ← RemoteShell.served_still] at hescaped
      obtain hinputs | rfl := RemoteShell.of_escaped_served hescaped
      · exact hinput f hinputs
      · rfl
  · exact hordinary _ f h

/-- The moment at which a connection has been recorded, and nothing else has happened. -/
def begun (peer : Peer) : Connection :=
  { fresh with journal := [lifecycle peer "CONNECT" [("port", .int peer.port)]] }

theorem run_bind_state (m : StateM Connection α) (k : α → StateM Connection β) (c : Connection) :
    (m >>= k).run c = (k (m.run c).1).run (m.run c).2 := rfl

/-- A connection is begun, goes its way, and is closed, whatever has come of it. -/
theorem handle_eq_match (console : Console) (now : τ) (id keyPath : String)
    (credentials : Credentials) (peer : Peer) :
    handle console now id keyPath credentials peer =
      let walked := (guarded peer (way console now id keyPath credentials peer)).run (begun peer)
      match (cleanUp peer (peer.fault .transport).isNone).run walked.2 with
      | (.ok (), c) => (c, walked.1)
      | (.error f, c) => (c, some f) := by
  rw [handle]
  dsimp only
  rw [run_bind_state, run_bind_state, run_bind_state]
  generalize hclosed : StateT.run (cleanUp peer (peer.fault .transport).isNone).run _ = out
  have hsame : (cleanUp peer (peer.fault .transport).isNone).run
      ((guarded peer (way console now id keyPath credentials peer)).run (begun peer)).2 = out :=
    hclosed
  rw [hsame]
  obtain ⟨result, c⟩ := out
  cases result <;> rfl

/-- What a connection comes to: the way up to the closing, with a record if it failed, and then the
closing. -/
theorem handle_eq (console : Console) (now : τ) (id keyPath : String) (credentials : Credentials)
    (hordinary : ∀ stage f, peer.fault stage = some f → f.isOrdinary = true)
    (hinput : ∀ f, peer.input.fault = some f → f.isOrdinary = true)
    (hsystem : ∀ f, peer.fault .socketClose = some f → f.isSystem = true) :
    let out := handle console now id keyPath credentials peer
    let R := raises console now id peer
    out.1.trace =
        reached R (plan peer) ++
          (if (peer.fault .transport).isNone then [.transportClose] else []) ++ [.socketClose] ∧
      (∃ entries, (∀ r ∈ Journal.records entries, r.IsInner) ∧
        out.1.journal =
          [lifecycle peer "CONNECT" [("port", .int peer.port)]] ++ entries ++
            errors peer ((plan peer).findSome? R) ++ [lifecycle peer "DISCONNECT" []]) ∧
      out.2 = none := by
  intro out R
  have hway := opens_way console now id keyPath credentials peer (begun peer)
  obtain ⟨entries, hjournal, hinner⟩ := hway.journal_eq
  have hguarded := guarded_of_ordinary peer fun f hf => by
    -- What the way has failed with was raised by one of its stages.
    rw [← hway.failed_eq] at hf
    obtain ⟨stage, -, hraised⟩ := List.exists_of_findSome?_eq_some hf
    exact isOrdinary_of_raises hordinary hinput hraised
  have hout : out = handle console now id keyPath credentials peer := rfl
  rw [handle_eq_match] at hout
  dsimp only at hout
  rw [hguarded, run_cleanUp (hordinary .transportClose) hsystem] at hout
  dsimp only at hout
  rw [hout, hway.trace_eq, hjournal, ← hway.failed_eq]
  exact ⟨rfl, ⟨entries, hinner, rfl⟩, rfl⟩

/-! ### Whatever fails -/

/-- A connection is closed as it should be, and its records tell whether it has failed before. -/
structure Closes (console : Console) (now : τ) (id : String) (peer : Peer)
    (out : Connection × Option Fault) : Prop where
  /-- Nothing gets out of it. -/
  escaped_eq : out.2 = none
  /-- The stages before the closing are reached up to the first that raises anything; then what was
  opened is closed. -/
  trace_eq : out.1.trace =
    reached (raises console now id peer) (plan peer) ++
      (if (peer.fault .transport).isNone then [.transportClose] else []) ++ [.socketClose]
  /-- The socket is closed once, behind everything else. -/
  socketClose_last : ∃ earlier, out.1.trace = earlier ++ [.socketClose] ∧ .socketClose ∉ earlier
  /-- The transport is closed once if it was set up, and never otherwise. -/
  count_transportClose :
    out.1.trace.count .transportClose = if peer.fault .transport = none then 1 else 0
  /-- The first record is that of the start, the last one that of the end, and there are no more of
  the two. -/
  eventTypes_eq : ∃ between,
    (Journal.records out.1.journal).map Record.eventType =
        "session_connect" :: between ++ ["session_disconnect"] ∧
      "session_connect" ∉ between ∧ "session_disconnect" ∉ between
  /-- A failure is recorded exactly if a stage before the closing has raised one. -/
  error_iff :
    "session_error" ∈ (Journal.records out.1.journal).map Record.eventType ↔
      ∃ stage ∈ out.1.trace, stage.closes = false ∧ raises console now id peer stage ≠ none

theorem eventTypes_lifecycle (peer : Peer) (stage : String) (details : List (String × Json)) :
    (Journal.records [lifecycle peer stage details]).map Record.eventType =
      ["session_" ++ Text.lower stage] := rfl

theorem eventTypes_errors (peer : Peer) (failed : Option Fault) :
    (Journal.records (errors peer failed)).map Record.eventType =
      failed.toList.map fun _ => "session_error" := by
  have htype : "session_" ++ Text.lower "ERROR" = "session_error" := by decide +kernel
  cases failed with
  | none => rfl
  | some f =>
    rw [errors, Option.toList_some, List.map_singleton, List.map_singleton, eventTypes_lifecycle,
      htype]

/-- The kinds of records of a connection that has gone some way. -/
theorem eventTypes_handled {out : Connection × Option Fault}
    (h : out.1.journal =
      [lifecycle peer "CONNECT" [("port", .int peer.port)]] ++ entries ++ errors peer failed ++
        [lifecycle peer "DISCONNECT" []]) :
    (Journal.records out.1.journal).map Record.eventType =
      "session_connect" ::
        ((Journal.records entries).map Record.eventType ++
          failed.toList.map fun _ => "session_error") ++ ["session_disconnect"] := by
  have hstart : "session_" ++ Text.lower "CONNECT" = "session_connect" := by decide +kernel
  have hend : "session_" ++ Text.lower "DISCONNECT" = "session_disconnect" := by decide +kernel
  simp only [h, Journal.records_append, List.map_append, eventTypes_lifecycle, eventTypes_errors,
    hstart, hend]
  simp

/-- Nothing is closed on the way. -/
theorem closes_of_mem_plan (h : stage ∈ plan peer) : stage.closes = false := by
  rw [plan, keyPlan] at h
  cases hmakes : makesKey peer with
  | true | false =>
    rw [hmakes] at h
    revert stage
    decide

/-- A stage is one of the way exactly if it does not close anything. -/
theorem mem_closed_iff {stages closing : List Stage}
    (hopen : ∀ stage ∈ stages, stage.closes = false)
    (hclosing : ∀ stage ∈ closing, stage.closes = true) :
    stage ∈ stages ++ closing ∧ stage.closes = false ↔ stage ∈ stages := by
  rw [List.mem_append]
  constructor
  · rintro ⟨hstages | hcloses, hopens⟩
    · exact hstages
    · exact absurd (hopens.symm.trans (hclosing stage hcloses)) Bool.false_ne_true
  · intro hstages
    exact ⟨.inl hstages, hopen stage hstages⟩

/-- Whatever fails on the way or at the closing, a connection is closed as it should be. Only an
order to stop, and a socket that fails in other ways than the operating system makes it, are left
out. -/
theorem closes_handle (console : Console) (now : τ) (id keyPath : String)
    (credentials : Credentials) (peer : Peer)
    (hordinary : ∀ stage f, peer.fault stage = some f → f.isOrdinary = true)
    (hinput : ∀ f, peer.input.fault = some f → f.isOrdinary = true)
    (hsystem : ∀ f, peer.fault .socketClose = some f → f.isSystem = true) :
    Closes console now id peer (handle console now id keyPath credentials peer) := by
  obtain ⟨htrace, ⟨entries, hinner, hjournal⟩, hescaped⟩ :=
    handle_eq console now id keyPath credentials hordinary hinput hsystem
  generalize handle console now id keyPath credentials peer = out at htrace hjournal hescaped ⊢
  have htypes := eventTypes_handled hjournal
  have hopen : ∀ stage ∈ reached (raises console now id peer) (plan peer),
      stage.closes = false := by
    intro stage hmem
    exact closes_of_mem_plan (mem_of_mem_reached hmem)
  have hclosing : ∀ stage : Stage, stage.closes = true →
      stage ∉ reached (raises console now id peer) (plan peer) := by
    intro stage hcloses hmem
    exact Bool.false_ne_true ((hopen stage hmem).symm.trans hcloses)
  have hinnerType : ∀ type ∈ ["session_connect", "session_disconnect", "session_error"],
      type ∉ (Journal.records entries).map Record.eventType := by
    intro type htype hmem
    obtain ⟨r, hr, rfl⟩ := List.mem_map.1 hmem
    exact hinner r hr htype
  refine ⟨hescaped, htrace, ⟨_, htrace, ?_⟩, ?_, ⟨_, htypes, ?_, ?_⟩, ?_⟩
  -- The socket, the transport, the two ends of the journal, and the failure in between.
  · rw [List.mem_append, not_or]
    refine ⟨hclosing _ rfl, ?_⟩
    split_ifs <;> simp
  · rw [htrace, List.count_append, List.count_append, List.count_eq_zero.2 (hclosing _ rfl)]
    cases peer.fault .transport <;> rfl
  · rw [List.mem_append, not_or]
    exact ⟨hinnerType _ (by simp), by simp⟩
  · rw [List.mem_append, not_or]
    exact ⟨hinnerType _ (by simp), by simp⟩
  · have hclosed : ∀ stage ∈
        (if (peer.fault .transport).isNone then [Stage.transportClose] else []) ++ [.socketClose],
        stage.closes = true := by
      split_ifs <;> simp [Stage.closes]
    have herror : "session_error" ∉ (Journal.records entries).map Record.eventType :=
      hinnerType _ (by simp)
    rw [htypes, htrace, List.append_assoc, ← findSome?_reached]
    simp only [← and_assoc, mem_closed_iff hopen hclosed]
    simp [herror]

/-- A shell whose bytes end in a failure that is no leaving, and which fails to be closed twice. -/
theorem closes_handle_broken :
    let c : Console := ⟨.standard (Profile.map .standard) [] (.ok ""), .empty, 200, 500, none⟩
    let reset : Fault := ⟨.system, "", "reset"⟩
    let broken : Fault := ⟨.other, "", "broken"⟩
    let peer : Peer :=
      { ip := "10.0.0.1"
        port := 4022
        fault := fun stage => if stage.closes then some reset else none
        keyMissing := true
        login := some ("ops", "guess")
        opensChannel := true
        input := ⟨Typing.bytes ["pwd"], some broken⟩ }
    let out := handle c (0 : Int) "id" "host.key" ⟨"", ""⟩ peer
    (∀ stage f, peer.fault stage = some f → f.isOrdinary = true) ∧
      (∀ f, peer.input.fault = some f → f.isOrdinary = true) ∧
      (∀ f, peer.fault .socketClose = some f → f.isSystem = true) ∧
      Closes c (0 : Int) "id" peer out ∧
      out.1.trace = [.transport, .loadKey, .generateKey, .writeKey, .addServerKey, .startServer,
        .accept, .transportClose, .socketClose] ∧
      (Journal.records out.1.journal).map Record.eventType = ["session_connect",
        "ssh_auth_attempt", "command", "session_error", "session_disconnect"] := by
  intro c reset broken peer out
  have hordinary : ∀ stage f, peer.fault stage = some f → f.isOrdinary = true := by
    intro stage f hf
    obtain ⟨-, ⟨⟩⟩ := Option.ite_none_right_eq_some.1 hf
    rfl
  have hinput : ∀ f, peer.input.fault = some f → f.isOrdinary = true := by
    rintro f ⟨⟩
    rfl
  have hsystem : ∀ f, peer.fault .socketClose = some f → f.isSystem = true := by
    rintro f ⟨⟩
    rfl
  have hcloses := closes_handle c (0 : Int) "id" "host.key" ⟨"", ""⟩ peer hordinary hinput hsystem
  exact ⟨hordinary, hinput, hsystem, hcloses, by decide +kernel, by decide +kernel⟩

end Connection

end MissionConsole
