import MissionConsole.Proofs.Web.Lifecycle
import Mathlib.Data.List.Nodup

/-!
# Sessions that nobody uses

The time of the last use of a session is the time of the last request that created or found it. Only
the creation of another session looks at that time: then every session that has been idle for too
long is closed as expired, and no other one is. Until somebody creates a session, one that is long
idle is answered like any other, and by being answered it is no longer idle.

## Main definitions

* `SessionTable.Exchange.uses` — a request creates or finds a session
* `SessionTable.lastUse?` — when requests have used a session last
* `SessionTable.AwaitsCreation` — what becomes of a session after its last use

## Main results

* `SessionTable.lookup_lastUsed_after` — the time that is kept is that of the last use
* `SessionTable.closesFor_expired_iff` — who is closed as expired
* `SessionTable.idle_until_creation` — only the creation of another session ends an idle one
-/

namespace MissionConsole.SessionTable

variable {τ : Type}

/-! ### Uses -/

/-- A request creates or finds a session, and its time is noted. -/
def Exchange.uses (x : Exchange τ) (id : String) : Bool :=
  match x.outcome.response with
  | .created view _ => view.id == id
  | .answered .. | .failed _ | .shown .. => x.moment.isTo id
  | .deleted _ | .refused _ => false

/-- When requests have used a session last. -/
def lastUse? (xs : List (Exchange τ)) (id : String) : Option τ :=
  (xs.filter (·.uses id)).getLast?.map (·.moment.now)

theorem lastUse?_concat (xs : List (Exchange τ)) (x : Exchange τ) (id : String) :
    lastUse? (xs ++ [x]) id = if x.uses id then some x.moment.now else lastUse? xs id := by
  rw [lastUse?, lastUse?, List.filter_append, List.filter_singleton]
  cases x.uses id with
  | true => rw [cond_true, List.getLast?_concat, Option.map_some, if_pos rfl]
  | false => rw [cond_false, List.append_nil, if_neg Bool.false_ne_true]

section Times

variable [Timescale τ] {h : WebHost τ} {t t' : SessionTable τ} {gone : List (Removal τ)}
  {m : Moment τ} {o : Outcome τ} {id other : String} {now last : τ} {readings : List τ}

omit [Timescale τ] in
theorem lookup_lastUsed_drop (hlast : (t.drop other).lastUsed.lookup id = some last) :
    other ≠ id ∧ t.lastUsed.lookup id = some last := by
  rw [drop, Keyed.lookup_erase] at hlast
  split_ifs at hlast with hsame
  exact ⟨Ne.symm hsame, hlast⟩

omit [Timescale τ] in
/-- Drops change no times of those who stay. -/
theorem Drops.lookup_lastUsed (hdrops : Drops h t gone t')
    (hlast : t'.lastUsed.lookup id = some last) : t.lastUsed.lookup id = some last := by
  induction hdrops with
  | none => exact hlast
  | drop _ _ _ ih => exact (lookup_lastUsed_drop (ih hlast)).2

omit [Timescale τ] in
theorem lookup_put_lastUsed {used : Keyed τ} (hlast : (used.put other now).lookup id = some last) :
    other = id ∧ now = last ∨ other ≠ id ∧ used.lookup id = some last := by
  rw [Keyed.lookup_put] at hlast
  split_ifs at hlast with hsame
  · exact .inl ⟨hsame.symm, Option.some.inj hlast⟩
  · exact .inr ⟨Ne.symm hsame, hlast⟩

/-- The time that is kept after a request is its own, if it uses the session, and else the one that
was kept before. -/
theorem lookup_lastUsed_answers (ht : t.Aligned) (hanswers : Answers h m.now t m.request o)
    (hlast : o.table.lastUsed.lookup id = some last) :
    if (⟨m, o⟩ : Exchange τ).uses id then m.now = last
    else t.lastUsed.lookup id = some last := by
  obtain ⟨request, now, date⟩ := m
  -- What is noted, is noted under the id that the request names or has got.
  cases hanswers with
  | unknownProfile => exact hlast
  | @created _ _ new _ t' gone _ hevict _ =>
    have hdrops := drops_evict h h.ttl h.capacity now ht
    rw [hevict] at hdrops
    rcases lookup_put_lastUsed hlast with ⟨rfl, hnow⟩ | ⟨hother, hold⟩
    · exact (if_pos BEq.rfl).mpr hnow
    · have huses : ¬(new == id) = true := by simpa using hother
      exact (if_neg huses).mpr (hdrops.lookup_lastUsed hold)
  | unknownSession _ _ htable =>
    rcases htable with rfl | rfl
    · exact hlast
    · exact (lookup_lastUsed_drop hlast).2
  | ended =>
    obtain ⟨hother, hold⟩ := lookup_lastUsed_drop hlast
    rw [if_neg (by simpa [Exchange.uses, Moment.isTo, Request.addressee?] using hother)]
    exact hold
  | @entered other line e =>
    have huses : ∀ (t' : SessionTable τ) (journal : List Journal.Entry),
        (⟨⟨.command other line, now, date⟩, ⟨t', e.response h now line, journal, []⟩⟩ :
          Exchange τ).uses id = (other == id) := by
      intro t' journal
      rw [Exchange.uses, Entry.response]
      cases (e.submit h now line).escaped <;> rfl
    rw [huses]
    rcases lookup_put_lastUsed hlast with ⟨rfl, hnow⟩ | ⟨hother, hold⟩
    · rwa [if_pos BEq.rfl]
    · rwa [if_neg (by simpa using hother)]
  | shown =>
    rcases lookup_put_lastUsed hlast with ⟨rfl, hnow⟩ | ⟨hother, hold⟩
    · exact (if_pos BEq.rfl).mpr hnow
    · rw [if_neg (by simpa [Exchange.uses, Moment.isTo, Request.addressee?] using hother)]
      exact hold
  | deleted => exact (lookup_lastUsed_drop hlast).2

/-- The time that is kept is that of the last use. -/
theorem lookup_lastUsed_after (h : WebHost τ)
    (hd : ∀ p, (h.console p).dispatcher.registry = .standard)
    (hfresh : Function.Injective h.newId) (ms : List (Moment τ)) {id : String} {last : τ}
    (hlast : ((empty : SessionTable τ).after h ms).lastUsed.lookup id = some last) :
    lastUse? ((empty : SessionTable τ).exchanges h ms) id = some last := by
  induction ms using List.reverseRecOn with
  | nil => exact absurd hlast nofun
  | append_singleton ms m ih =>
    have ht := (sound_after h hd hfresh ms).toAligned
    rw [after_concat] at hlast
    have hstep := lookup_lastUsed_answers ht (answers_answer (h.dated m.date) _ _ _) hlast
    rw [exchanges_concat, lastUse?_concat, step]
    split_ifs at hstep ⊢ with huses
    · exact congrArg some hstep
    · exact ih hstep

/-! ### Who is dropped as idle -/

omit [Timescale τ] in
theorem of_mem_dropAll {reason : Reason} {leaving : List String} {t : SessionTable τ} :
    ∀ r ∈ (t.dropAll h reason leaving).2, r.id ∈ leaving ∧ r.reason = reason := by
  induction leaving generalizing t with
  | nil => exact List.forall_mem_nil _
  | cons first leaving ih =>
    intro r hr
    rcases List.mem_append.1 hr with hfirst | hrest
    · rw [Option.mem_toList, Option.map_eq_some_iff] at hfirst
      obtain ⟨e, -, rfl⟩ := hfirst
      exact ⟨List.mem_cons_self, rfl⟩
    · exact (ih r hrest).imp_left (List.mem_cons_of_mem first)

omit [Timescale τ] in
theorem exists_mem_dropAll {reason : Reason} {leaving : List String} {t : SessionTable τ}
    (hleaving : id ∈ leaving) (hid : id ∈ t.ids) :
    ∃ r ∈ (t.dropAll h reason leaving).2, r.id = id := by
  induction leaving generalizing t with
  | nil => exact absurd hleaving List.not_mem_nil
  | cons first leaving ih =>
    by_cases hsame : id = first
    · obtain ⟨e, hfind⟩ := exists_find?_of_mem hid
      refine ⟨remove h reason first e, List.mem_append_left _ ?_, hsame.symm⟩
      rw [← hsame, hfind]
      exact List.mem_singleton_self _
    · have hrest : id ∈ (t.drop first).ids := by
        rw [mem_ids_iff, find?_drop, if_neg hsame]
        exact exists_find?_of_mem hid
      obtain ⟨r, hr, hrid⟩ := ih ((List.mem_cons.1 hleaving).resolve_left hsame) hrest
      exact ⟨r, List.mem_append_right _ hr, hrid⟩

/-- Where each key is there once, a session is idle by the time that is found under its id. -/
theorem mem_idle_iff (ht : t.Aligned) (hlast : t.lastUsed.lookup id = some last)
    (ttl : Patience τ) : id ∈ t.idle ttl now ↔ ttl.exceededBy (now - last) = true := by
  have hnodup : t.lastUsed.keys.Nodup := ht.keys_eq ▸ ht.nodup
  have hmem := Keyed.mem_of_lookup hlast
  constructor
  · intro hidle
    obtain ⟨e, he, rfl⟩ := List.mem_map.1 hidle
    obtain ⟨hin, hexceeded⟩ := List.mem_filter.1 he
    have hsame : e = (e.1, last) := List.inj_on_of_nodup_map hnodup hin hmem rfl
    rwa [hsame] at hexceeded
  · intro hexceeded
    exact Keyed.mem_keys_of_mem (List.mem_filter.2 ⟨hmem, hexceeded⟩)

theorem MakesRoom.reason_eq {limit : Int} (hrounds : MakesRoom h limit t gone t') :
    ∀ r ∈ gone, r.reason = .evicted := by
  induction hrounds with
  | done => exact List.forall_mem_nil _
  | round _ _ _ _ ih => exact List.forall_mem_cons.2 ⟨rfl, ih⟩

/-- Eviction drops the idle sessions as expired, and nobody else. -/
theorem exists_expired_iff (ht : t.Aligned) (ttl : Patience τ) (limit : Int) :
    (∃ r ∈ (t.evict h ttl limit now).2, r.id = id ∧ r.reason = .expired) ↔
      id ∈ t.idle ttl now := by
  have hevicted := (makesRoom_evict h ttl limit now ht).reason_eq
  constructor
  · rintro ⟨r, hr, rfl, hreason⟩
    rcases List.mem_append.1 hr with hexpired | hroom
    · exact (of_mem_dropAll r hexpired).1
    · exact absurd (hreason.symm.trans (hevicted r hroom)) nofun
  · intro hidle
    have hids : id ∈ t.ids := (idle_sublist ht ttl now).subset hidle
    have hgone : ∃ r ∈ (t.expire h ttl now).2, r.id = id := exists_mem_dropAll hidle hids
    obtain ⟨r, hr, hrid⟩ := hgone
    exact ⟨r, List.mem_append_left _ hr, hrid, (of_mem_dropAll r hr).2⟩

omit [Timescale τ] in
/-- The records of drops and a beginning close who is dropped. -/
theorem closesFor_of_drops {response : Response} {reason : Reason} (origin new profile : String) :
    (⟨t', response, gone.map Removal.record ++ [.record (opening origin new profile)],
        gone⟩ : Outcome τ).ClosesFor id reason ↔ ∃ r ∈ gone, r.id = id ∧ r.reason = reason := by
  have hrecords : Journal.records (gone.map Removal.record ++
      [.record (opening origin new profile)]) =
        gone.map Removal.closing ++ [opening origin new profile] := by
    rw [Journal.records_append, Removal.records_map_record]
    rfl
  have hfirst : (opening origin new profile).closes id = false := rfl
  rw [Outcome.ClosesFor, hrecords]
  constructor
  · rintro ⟨r, hr, hcloses, hreason⟩
    rw [List.mem_append, List.mem_map, List.mem_singleton] at hr
    rcases hr with ⟨x, hx, rfl⟩ | rfl
    · have htells := Record.tells_of_closes hcloses
      rw [Removal.tells_closing, beq_iff_eq] at htells
      exact ⟨x, hx, htells, reason_name_injective (Option.some.inj hreason)⟩
    · exact absurd (hfirst.symm.trans hcloses) Bool.false_ne_true
  · rintro ⟨r, hr, rfl, rfl⟩
    exact ⟨r.closing, List.mem_append_left _ (List.mem_map_of_mem hr), r.closes_closing, rfl⟩

/-- The creation of a session closes as expired who has been idle for too long, and nobody else. -/
theorem closesFor_expired_iff (ht : t.Aligned) (hlast : t.lastUsed.lookup id = some last)
    {profile : String} {p : Profile} (hprofile : h.profiles profile = .ok p) (origin : String) :
    (t.answer h now (.create profile origin)).ClosesFor id .expired ↔
      h.ttl.exceededBy (now - last) = true := by
  have hanswers := answers_answer h now t (.create profile origin)
  generalize t.answer h now (.create profile origin) = o at hanswers ⊢
  cases hanswers with
  | unknownProfile hunknown => exact absurd (hunknown.symm.trans hprofile) nofun
  | unknownSession hto => exact absurd hto nofun
  | @created _ _ new p _ gone _ hevict _ =>
    have hgone : gone = (t.evict h h.ttl h.capacity now).2 := by rw [hevict]
    rw [closesFor_of_drops, hgone, exists_expired_iff ht, mem_idle_iff ht hlast]

/-! ### From the last use to the end -/

/-- A request is refused, and no session is changed. -/
structure Outcome.Refuses (o : Outcome τ) (t : SessionTable τ) : Prop where
  response_eq : o.response = .refused .unknownSession
  find?_eq : ∀ id, o.table.find? id = t.find? id

/-- A request that names a session that is not in the table is refused, and no session is
changed. -/
theorem refuses_of_not_mem {request : Request} (hto : request.addressee? = some id)
    (hid : id ∉ t.ids) : (t.answer h now request).Refuses t where
  response_eq := response_of_not_mem hto hid
  find?_eq other := by
    have hnone : t.find? id = none := find?_eq_none_iff.2 hid
    cases request with
    | create => exact absurd hto nofun
    | command named line =>
      obtain rfl : named = id := Option.some.inj hto
      rw [answer, command_of_none hnone, refuse]
    | get named =>
      obtain rfl : named = id := Option.some.inj hto
      rw [answer, get_of_none hnone, refuse]
    | delete named =>
      obtain rfl : named = id := Option.some.inj hto
      rw [answer, delete_of_none hnone, refuse, find?_drop]
      split_ifs with hsame
      · rw [hsame, hnone]
      · rfl

/-- A session that is closed at one request is in the table after no later one. -/
theorem not_mem_of_closesFor (hd : ∀ p, (h.console p).dispatcher.registry = .standard)
    (hfresh : Function.Injective h.newId) (ms more : List (Moment τ)) {reason : Reason}
    (hcloses : (((empty : SessionTable τ).after h ms).step h m).ClosesFor id reason) :
    id ∉ ((empty : SessionTable τ).after h (ms ++ m :: more)).ids := by
  obtain ⟨r, hr, hclosing, -⟩ := hcloses
  have hrecorded : r ∈ (empty : SessionTable τ).records h (ms ++ m :: more) := by
    rw [List.append_cons]
    induction more using List.reverseRecOn with
    | nil =>
      rw [List.append_nil, records_concat]
      exact List.mem_append_right _ hr
    | append_singleton more last ih =>
      rw [← List.append_assoc, records_concat]
      exact List.mem_append_left _ ih
  have hlife := life_after h hd hfresh (ms ++ m :: more) id
  -- The record of the end is among those that tell of the session, wherever it stands.
  have htold := List.mem_filter.2 ⟨hrecorded, Record.tells_of_closes hclosing⟩
  obtain ⟨before, after, hsplit⟩ := List.append_of_mem htold
  rw [hsplit] at hlife
  exact (hlife.of_closes hclosing).1

/-- What becomes of a session that requests have used last at a given time. -/
structure AwaitsCreation (h : WebHost τ) (ms : List (Moment τ)) (id : String) (last : τ) :
    Prop where
  lastUse_eq : lastUse? ((empty : SessionTable τ).exchanges h ms) id = some last
  /-- However long that is ago, whoever enters a line on it or looks at it is not refused. -/
  served : ∀ m : Moment τ, (m.request = .get id ∨ ∃ line, m.request = .command id line) →
    (((empty : SessionTable τ).after h ms).step h m).response ≠ .refused .unknownSession
  /-- By that it is used again. -/
  renewed : ∀ m : Moment τ, (m.request = .get id ∨ ∃ line, m.request = .command id line) →
    lastUse? ((empty : SessionTable τ).exchanges h (ms ++ [m])) id = some m.now
  /-- When another session is created, it is closed as expired if that is too long ago. -/
  expired : ∀ (m : Moment τ) (profile origin : String) (p : Profile),
    m.request = .create profile origin → h.profiles profile = .ok p →
      ((((empty : SessionTable τ).after h ms).step h m).ClosesFor id .expired ↔
        h.ttl.exceededBy (m.now - last) = true)
  /-- Once it is closed as expired, it stays so: every request on it is refused. -/
  refused : ∀ (m : Moment τ) (more : List (Moment τ)) (later : Moment τ),
    (((empty : SessionTable τ).after h ms).step h m).ClosesFor id .expired →
      later.request.addressee? = some id →
        (((empty : SessionTable τ).after h (ms ++ m :: more)).step h later).Refuses
          ((empty : SessionTable τ).after h (ms ++ m :: more))

/-- A line or a look at a session that is in the table uses it. -/
theorem uses_of_find? {e : Entry τ} (hfind : t.find? id = some e)
    (hon : m.request = .get id ∨ ∃ line, m.request = .command id line) :
    (⟨m, t.step h m⟩ : Exchange τ).uses id = true := by
  obtain ⟨request, now, date⟩ := m
  rcases hon with rfl | ⟨line, rfl⟩
  · rw [step, answer, get_of_some hfind]
    exact BEq.rfl
  · rw [step, answer]
    cases hends : e.ends (h.dated date) now line with
    | true =>
      rw [command_of_ends hfind hends]
      exact BEq.rfl
    | false =>
      rw [command_of_goesOn hfind hends, Exchange.uses, Entry.response]
      cases (e.submit (h.dated date) now line).escaped <;> exact BEq.rfl

/-- After any requests, and with ids that are not issued twice, a session that is in the table has
been used at some time. However long it is idle, it is served until another one is created. That
closes it if it has been idle for too long, and from then on it is refused. -/
theorem idle_until_creation (h : WebHost τ)
    (hd : ∀ p, (h.console p).dispatcher.registry = .standard)
    (hfresh : Function.Injective h.newId) (ms : List (Moment τ)) (id : String)
    (hid : id ∈ ((empty : SessionTable τ).after h ms).ids) :
    ∃ last, AwaitsCreation h ms id last := by
  have ht := (sound_after h hd hfresh ms).toAligned
  obtain ⟨e, hfind⟩ := exists_find?_of_mem hid
  obtain ⟨last, hlast⟩ := Keyed.exists_lookup_of_mem (ht.keys_eq.symm ▸ hid)
  refine ⟨last, lookup_lastUsed_after h hd hfresh ms hlast, ?_, ?_, ?_, ?_⟩
  · intro m hon hrefused
    have huses := uses_of_find? (h := h) hfind hon
    rw [Exchange.uses, hrefused] at huses
    exact Bool.false_ne_true huses
  · intro m hon
    rw [exchanges_concat, lastUse?_concat, if_pos (uses_of_find? hfind hon)]
  · intro m profile origin p hrequest hprofile
    rw [step, hrequest]
    exact closesFor_expired_iff (h := h.dated m.date) ht hlast hprofile origin
  · intro m more later hcloses hto
    exact refuses_of_not_mem hto (not_mem_of_closesFor hd hfresh ms more hcloses)

end Times

/-! ### An operator who is idle for too long -/

/-- A visitor becomes an operator, and is not heard of again after the first twenty
milliseconds. -/
def idleOperator : List (Moment Int) :=
  [⟨.create "map" "web", 0, .ok ""⟩, ⟨.command "" "login", 10, .ok ""⟩,
    ⟨.command "" "legion", 20, .ok ""⟩]

/-- After seventy seconds somebody else creates a session, and the operator's is closed. -/
theorem idle_until_creation_operator :
    let h := WebHost.sample 10
    (∀ p, (h.console p).dispatcher.registry = .standard) ∧ Function.Injective h.newId ∧
      "" ∈ ((empty : SessionTable Int).after h idleOperator).ids ∧
        (((empty : SessionTable Int).after h idleOperator).step h
          ⟨.create "map" "web", 70000, .ok ""⟩).ClosesFor "" .expired := by
  intro h
  have hd := WebHost.sample_registry 10
  have hfresh := WebHost.sample_newId_injective 10
  have hid : "" ∈ ((empty : SessionTable Int).after h idleOperator).ids := by decide +kernel
  obtain ⟨last, hawaits⟩ := idle_until_creation h hd hfresh idleOperator "" hid
  have htwenty : lastUse? ((empty : SessionTable Int).exchanges h idleOperator) "" = some 20 := by
    decide +kernel
  obtain rfl : last = 20 := Option.some.inj (hawaits.lastUse_eq.symm.trans htwenty)
  refine ⟨hd, hfresh, hid, ?_⟩
  exact (hawaits.expired _ "map" "web" _ rfl rfl).2 (by decide)

/-- Nobody else creates a session: after seventy seconds, with a minute allowed, the operator's
session still answers, and as that of an operator. -/
theorem idle_operator_answers :
    let h := WebHost.sample 10
    lastUse? ((empty : SessionTable Int).exchanges h idleOperator) "" = some 20 ∧
      h.ttl.exceededBy ((70000 : Int) - 20) = true ∧
      (((empty : SessionTable Int).after h idleOperator).step h
        ⟨.command "" "whoami", 70000, .ok ""⟩).response.reply?.map (·.lines) = some ["root"] := by
  decide +kernel

end MissionConsole.SessionTable
