import MissionConsole.Proofs.Web.Request

/-!
# Sessions do not see each other

All sessions share the consoles, the file trees, the tables and the journal. Still a request that
names a session is answered from what the table holds under its id, and changes what is held under
that id alone. Two runs that hold the same under an id therefore go on doing so, whatever the one of
them does under other ids in between; so the visitor of a session cannot tell whether there are
others, as long as none is created, for that may drop any session.

## Main definitions

* `SessionTable.Outcome.Alike` — outcomes that are the same to the visitor of a session

## Main results

* `SessionTable.answer_alike` — what is answered to a session depends on that session alone
* `SessionTable.find?_answer_of_ne` — what is done to one session does nothing to another one
* `SessionTable.session_isolation` — a session among others is answered as if it were alone
-/

namespace MissionConsole.SessionTable

variable {τ : Type} [Timescale τ]

omit [Timescale τ] in
theorem Moment.isTo_iff {m : Moment τ} {id : String} :
    m.isTo id = true ↔ m.request.addressee? = some id := by
  rw [Moment.isTo, beq_iff_eq]

/-- Two outcomes are the same to the visitor of a session: the response, what is written to the
journal, and the session as it is left. -/
structure Outcome.Alike (id : String) (o o' : Outcome τ) : Prop where
  response : o.response = o'.response
  journal : o.journal = o'.journal
  found : o.table.find? id = o'.table.find? id

variable {h : WebHost τ} {t t' : SessionTable τ} {id : String} {now : τ}

/-! ### The session that a request names -/

theorem command_alike (hfound : t.find? id = t'.find? id) (line : String) :
    (t.command h now id line).Alike id (t'.command h now id line) := by
  cases hfind : t.find? id with
  | none =>
    rw [command_of_none hfind, command_of_none (hfound ▸ hfind)]
    exact ⟨rfl, rfl, hfound⟩
  | some e =>
    have hfind' : t'.find? id = some e := hfound ▸ hfind
    cases hends : e.ends h now line with
    | true =>
      rw [command_of_ends hfind hends, command_of_ends hfind' hends]
      refine ⟨rfl, rfl, ?_⟩
      dsimp only
      rw [find?_drop, find?_drop, if_pos rfl, if_pos rfl]
    | false =>
      rw [command_of_goesOn hfind hends, command_of_goesOn hfind' hends]
      refine ⟨rfl, rfl, ?_⟩
      dsimp only
      rw [find?_update, find?_update, if_pos rfl, if_pos rfl]

theorem get_alike (hfound : t.find? id = t'.find? id) :
    (t.get h now id).Alike id (t'.get h now id) := by
  cases hfind : t.find? id with
  | none =>
    rw [get_of_none hfind, get_of_none (hfound ▸ hfind)]
    exact ⟨rfl, rfl, hfound⟩
  | some e =>
    rw [get_of_some hfind, get_of_some (hfound ▸ hfind)]
    exact ⟨rfl, rfl, hfound⟩

omit [Timescale τ] in
theorem delete_alike (hfound : t.find? id = t'.find? id) :
    (t.delete h id).Alike id (t'.delete h id) := by
  have hdrop : (t.drop id).find? id = (t'.drop id).find? id := by
    rw [find?_drop, find?_drop, if_pos rfl, if_pos rfl]
  cases hfind : t.find? id with
  | none =>
    rw [delete_of_none hfind, delete_of_none (hfound ▸ hfind)]
    exact ⟨rfl, rfl, hdrop⟩
  | some e =>
    rw [delete_of_some hfind, delete_of_some (hfound ▸ hfind)]
    exact ⟨rfl, rfl, hdrop⟩

/-- What is answered to a session, and what becomes of it, depends on that session alone. -/
theorem answer_alike {request : Request} (hto : request.addressee? = some id)
    (hfound : t.find? id = t'.find? id) :
    (t.answer h now request).Alike id (t'.answer h now request) := by
  cases request with
  | create profile origin => exact absurd hto.symm (Option.some_ne_none id)
  | command other line =>
    obtain rfl : other = id := Option.some.inj hto
    rw [answer, answer]
    exact command_alike hfound line
  | get other =>
    obtain rfl : other = id := Option.some.inj hto
    rw [answer, answer]
    exact get_alike hfound
  | delete other =>
    obtain rfl : other = id := Option.some.inj hto
    rw [answer, answer]
    exact delete_alike hfound

/-! ### The other sessions -/

/-- What is done to one session does nothing to another one. -/
theorem find?_answer_of_ne {request : Request} (hnamed : request.addressee? ≠ none)
    (hto : request.addressee? ≠ some id) :
    (t.answer h now request).table.find? id = t.find? id := by
  have hanswers := answers_answer h now t request
  generalize t.answer h now request = o at hanswers ⊢
  have hne : ∀ {other : String}, request.addressee? = some other → id ≠ other := by
    rintro other hother rfl
    exact hto hother
  cases hanswers with
  | unknownProfile | created => exact absurd rfl hnamed
  | unknownSession hother _ htable =>
    rcases htable with rfl | rfl
    · rfl
    · exact find?_drop.trans (if_neg (hne hother))
  | ended => exact find?_drop.trans (if_neg (hne rfl))
  | entered => exact find?_update.trans (if_neg (hne rfl))
  | shown => rfl
  | deleted => exact find?_drop.trans (if_neg (hne rfl))

/-! ### Interleaved sessions -/

/-- What the visitor of a session sees of an exchange, and what it has left in the journal. -/
def Exchange.seen (x : Exchange τ) : Moment τ × Response × List Journal.Entry :=
  (x.moment, x.outcome.response, x.outcome.journal)

theorem seen_isolated {ms : List (Moment τ)} (hms : ∀ m ∈ ms, m.request.addressee? ≠ none)
    (hfound : t.find? id = t'.find? id) :
    ((t.exchanges h ms).filter (·.moment.isTo id)).map Exchange.seen =
      (t'.exchanges h (ms.filter (·.isTo id))).map Exchange.seen := by
  -- The one run passes over the other sessions; what both hold under the id stays the same.
  induction ms generalizing t t' with
  | nil => rfl
  | cons m ms ih =>
    obtain ⟨hnamed, hrest⟩ := List.forall_mem_cons.1 hms
    cases hto : m.isTo id with
    | true =>
      have halike : (t.step h m).Alike id (t'.step h m) :=
        answer_alike (Moment.isTo_iff.1 hto) hfound
      have hhead : Exchange.seen ⟨m, t.step h m⟩ = Exchange.seen ⟨m, t'.step h m⟩ := by
        rw [Exchange.seen, Exchange.seen, halike.response, halike.journal]
      simp only [exchanges, List.filter_cons, hto, if_true, List.map_cons]
      rw [hhead, ih hrest halike.found]
    | false =>
      have hne : m.request.addressee? ≠ some id := by
        intro hsame
        exact Bool.false_ne_true (hto.symm.trans (Moment.isTo_iff.2 hsame))
      have hother : (t.step h m).table.find? id = t.find? id := find?_answer_of_ne hnamed hne
      simp only [exchanges, List.filter_cons, hto, if_neg Bool.false_ne_true]
      exact ih hrest (hother.trans hfound)

/-- On any table, and as long as no session is created, the requests on a session are answered, and
written to the journal, as if the requests on the other sessions had never been sent. -/
theorem session_isolation (h : WebHost τ) (t : SessionTable τ) (ms : List (Moment τ))
    (hms : ∀ m ∈ ms, m.request.addressee? ≠ none) (id : String) :
    ((t.exchanges h ms).filter (·.moment.isTo id)).map Exchange.seen =
      (t.exchanges h (ms.filter (·.isTo id))).map Exchange.seen :=
  seen_isolated hms rfl

/-- Two visitors take turns; the one logs in, the other one leaves and comes back too late. -/
theorem session_isolation_turns :
    let h := WebHost.sample 10
    let t := (empty : SessionTable Int).after h
      [⟨.create "map" "web", 0, .ok ""⟩, ⟨.create "briefing" "web", 5, .ok ""⟩]
    let ms : List (Moment Int) :=
      [⟨.command "" "login", 10, .ok ""⟩, ⟨.command "i" "pwd", 20, .ok ""⟩,
        ⟨.command "" "Legion", 30, .ok ""⟩, ⟨.command "i" "exit", 40, .ok ""⟩,
        ⟨.get "", 50, .ok ""⟩, ⟨.get "i", 60, .ok ""⟩]
    (∀ m ∈ ms, m.request.addressee? ≠ none) ∧
      ((t.exchanges h ms).filter (·.moment.isTo "i")).map Exchange.seen =
        (t.exchanges h
          [⟨.command "i" "pwd", 20, .ok ""⟩, ⟨.command "i" "exit", 40, .ok ""⟩,
            ⟨.get "i", 60, .ok ""⟩]).map Exchange.seen := by
  intro h t ms
  have hms : ∀ m ∈ ms, m.request.addressee? ≠ none := by decide
  exact ⟨hms, session_isolation h t ms hms "i"⟩

end MissionConsole.SessionTable
