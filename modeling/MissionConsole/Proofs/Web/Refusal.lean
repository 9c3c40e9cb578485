import MissionConsole.Audit.Queue
import MissionConsole.Proofs.Access.Browsing
import MissionConsole.Proofs.Web.Eviction

/-!
# Requests that are refused

Visitors ask for profiles, sessions and paths by name, and the name may be wrong. The site finds
that out before it does anything else: nobody is evicted for a session that cannot be created, no
time of use is noted for a session that is not there, and nothing is recorded. So a visitor who
guesses ids keeps no session alive and closes none.

Deleting is the one request that drops before it looks. That this does nothing to a session that is
not there rests on the two tables having the same keys, which they have after any requests.

## Main definitions

* `Site` — the table of sessions and the live queue of their records
* `Site.serve` — what becomes of a site at a request, and the answer
* `Site.Answer.IsRefusal` — the answers that refuse
* `Site.Lacks` — what a request asks for is not there, or not for guests

## Main results

* `Site.isRefusal_serve_iff` — which requests are refused
* `Site.serve_of_isRefusal` — a request that is refused changes nothing
* `Site.refused_unchanged` — both, after any requests
-/

namespace MissionConsole

/-! ### What guests do not see -/

namespace Browser

variable {files : Filesystem} {path : String}

theorem browse_eq_denied_iff (files : Filesystem) (path : String) :
    browse files path = .denied ↔ System.isRestricted (Path.canonicalize path) = true := by
  simp only [browse]
  split_ifs with hrestricted
  · exact iff_of_true rfl hrestricted
  · refine iff_of_false ?_ hrestricted
    split
    · exact fun h => by cases h
    · split <;> (intro h; cases h)

theorem browse_eq_missing_iff :
    browse files path = .missing ↔
      System.isRestricted (Path.canonicalize path) = false ∧ files.exists? path = false := by
  have hnode : files.node? (Path.canonicalize path) = files.node? path := by
    rw [Filesystem.node?, Filesystem.node?, Path.canonicalize_canonicalize]
  constructor
  · intro hmissing
    have hopen : System.isRestricted (Path.canonicalize path) = false := by
      rw [← Bool.not_eq_true, ← browse_eq_denied_iff files, hmissing]
      exact fun h => by cases h
    have hnone := node?_of_browse_missing hmissing
    rw [hnode] at hnone
    exact ⟨hopen, by rw [Filesystem.exists?, hnone, Option.isSome_none]⟩
  · rintro ⟨hopen, hnone⟩
    rw [Filesystem.exists?, Option.isSome_eq_false_iff, Option.isNone_iff_eq_none] at hnone
    simp only [browse, hopen, Filesystem.list?, Filesystem.read?, hnode, hnone,
      Bool.false_eq_true, if_false]

end Browser

/-! ### A site -/

/-- What visitors of the web act upon: the table of sessions, and the live queue of their
records. -/
structure Site (τ : Type) where
  table : SessionTable τ
  live : Queue Json

namespace Site

variable {τ : Type}

/-- What a visitor may ask a site for: something of a session, or what stands at a path. -/
inductive Request where
  | session (request : SessionTable.Request)
  | browse (path : String)

/-- What a site answers. -/
inductive Answer where
  | session (response : SessionTable.Response)
  | browsed (answer : Browser.Answer)

/-- An answer refuses what was asked for: there is no such profile, session or path, or it is not
for guests. A line that fails is not refused, for what it had done stays. -/
def Answer.IsRefusal : Answer → Prop
  | .session (.refused _) => True
  | .browsed .denied => True
  | .browsed .missing => True
  | _ => False

theorem Answer.isRefusal_session_iff {response : SessionTable.Response} :
    (Answer.session response).IsRefusal ↔ ∃ why, response = .refused why := by
  cases response <;> simp [IsRefusal]

theorem Answer.isRefusal_browsed_iff {answer : Browser.Answer} :
    (Answer.browsed answer).IsRefusal ↔ answer = .denied ∨ answer = .missing := by
  cases answer <;> simp [IsRefusal]

/-- A request with what the clock, the calendar and the time stamp of records show when it is
answered. -/
structure Moment (τ : Type) where
  request : Request
  now : τ
  date : Except String String
  stamp : String

/-- What a request asks for is not there, or it is not for guests. -/
def Lacks (h : WebHost τ) (files : Filesystem) (s : Site τ) : Request → Prop
  | .session (.create profile _) => ∃ e, h.profiles profile = .error e
  | .session (.command id _) => id ∉ s.table.ids
  | .session (.get id) => id ∉ s.table.ids
  | .session (.delete id) => id ∉ s.table.ids
  | .browse path =>
    System.isRestricted (Path.canonicalize path) = true ∨ files.exists? path = false

variable {h : WebHost τ} {files : Filesystem} {s : Site τ}

/-- What guests may not see, or what is not there, is refused on the web. -/
theorem browse_refused_iff {path : String} :
    (Browser.browse files path = .denied ∨ Browser.browse files path = .missing) ↔
      s.Lacks h files (.browse path) := by
  rw [Browser.browse_eq_denied_iff, Browser.browse_eq_missing_iff, Lacks]
  by_cases hrestricted : System.isRestricted (Path.canonicalize path) = true <;>
    simp [hrestricted]

section Serve

variable [Timescale τ]

/-- What becomes of a site at a request, and the answer. All that is recorded goes to the live
queue. -/
def serve (h : WebHost τ) (files : Filesystem) (s : Site τ) (m : Moment τ) : Site τ × Answer :=
  match m.request with
  | .session request =>
    let o := s.table.answer (h.dated m.date) m.now request
    (⟨o.table, s.live.pushAll ((Journal.records o.journal).map (·.form m.stamp))⟩,
      .session o.response)
  | .browse path => (s, .browsed (Browser.browse files path))

theorem serve_session (request : SessionTable.Request) (now : τ) (date : Except String String)
    (stamp : String) :
    s.serve h files ⟨.session request, now, date, stamp⟩ =
      (⟨(s.table.answer (h.dated date) now request).table,
          s.live.pushAll ((Journal.records
            (s.table.answer (h.dated date) now request).journal).map (·.form stamp))⟩,
        .session (s.table.answer (h.dated date) now request).response) := rfl

theorem serve_browse (path : String) (now : τ) (date : Except String String) (stamp : String) :
    s.serve h files ⟨.browse path, now, date, stamp⟩ =
      (s, .browsed (Browser.browse files path)) := rfl

/-! ### What is refused -/

/-- A request about sessions is refused exactly if its profile or its session is not there. -/
theorem refused_iff_lacks (files : Filesystem) (now : τ) (request : SessionTable.Request) :
    (∃ why, (s.table.answer h now request).response = .refused why) ↔
      s.Lacks h files (.session request) := by
  have hanswers := SessionTable.answers_answer h now s.table request
  generalize s.table.answer h now request = o at hanswers ⊢
  cases hanswers with
  | unknownProfile hprofile => exact iff_of_true ⟨_, rfl⟩ ⟨_, hprofile⟩
  | created hprofile =>
    refine iff_of_false (fun ⟨_, hrefused⟩ => by cases hrefused) ?_
    rintro ⟨e, hunknown⟩
    cases hprofile.symm.trans hunknown
  | @unknownSession _ id _ hto hfind =>
    have hid : id ∉ s.table.ids := SessionTable.find?_eq_none_iff.1 hfind
    refine iff_of_true ⟨_, rfl⟩ ?_
    cases request with
    | create => cases hto
    | command | get | delete => exact Option.some.inj hto ▸ hid
  | ended hfind | shown hfind | deleted hfind =>
    exact iff_of_false (fun ⟨_, hrefused⟩ => by cases hrefused)
      fun hlacks => hlacks (SessionTable.mem_ids_of_find? hfind)
  | @entered id line e hfind =>
    refine iff_of_false (fun ⟨_, hrefused⟩ => ?_)
      fun hlacks => hlacks (SessionTable.mem_ids_of_find? hfind)
    -- A line that is taken is answered, or it fails.
    rw [SessionTable.Entry.response] at hrefused
    split at hrefused <;> cases hrefused

/-- A request is refused exactly if what it asks for is not there, or not for guests. -/
theorem isRefusal_serve_iff (m : Moment τ) :
    (s.serve h files m).2.IsRefusal ↔ s.Lacks h files m.request := by
  obtain ⟨request, now, date, stamp⟩ := m
  cases request with
  | session request =>
    -- The date is not looked at before the profile or the session is found.
    have hlacks : s.Lacks (h.dated date) files (.session request) ↔
        s.Lacks h files (.session request) := by
      cases request <;> exact Iff.rfl
    rw [serve_session, Answer.isRefusal_session_iff, refused_iff_lacks files, hlacks]
  | browse path =>
    rw [serve_browse, Answer.isRefusal_browsed_iff]
    exact browse_refused_iff

/-! ### What becomes of the site -/

/-- A request about sessions that is refused leaves the table as it is, and records nothing. -/
theorem answer_of_refused {t : SessionTable τ} (ht : t.Aligned) (now : τ)
    (request : SessionTable.Request) {why : SessionTable.Refusal}
    (hrefused : (t.answer h now request).response = .refused why) :
    (t.answer h now request).table = t ∧ (t.answer h now request).journal = [] := by
  have hanswers := SessionTable.answers_answer h now t request
  generalize t.answer h now request = o at hanswers hrefused ⊢
  cases hanswers with
  | unknownProfile => exact ⟨rfl, rfl⟩
  | unknownSession hto hfind htable =>
    refine ⟨?_, rfl⟩
    rcases htable with rfl | rfl
    · rfl
    · exact ht.drop_of_not_mem (SessionTable.find?_eq_none_iff.1 hfind)
  | entered =>
    rw [SessionTable.Entry.response] at hrefused
    split at hrefused <;> cases hrefused
  | created | ended | shown | deleted => cases hrefused

/-- A request that is refused changes nothing. -/
theorem serve_of_isRefusal (hs : s.table.Aligned) {m : Moment τ}
    (hrefusal : (s.serve h files m).2.IsRefusal) : (s.serve h files m).1 = s := by
  obtain ⟨request, now, date, stamp⟩ := m
  cases request with
  | browse path => rfl
  | session request =>
    rw [serve_session, Answer.isRefusal_session_iff] at hrefusal
    obtain ⟨why, hrefused⟩ := hrefusal
    obtain ⟨htable, hjournal⟩ := answer_of_refused hs now request hrefused
    rw [serve_session, htable, hjournal]
    rfl

/-- After any requests, and whatever waits in the live queue, a request is refused exactly if what
it asks for is not there, or not for guests. Then all sessions, the times of their last use and the
queue are what they were before. -/
theorem refused_unchanged (h : WebHost τ) (files : Filesystem)
    (ms : List (SessionTable.Moment τ)) (live : Queue Json) (m : Moment τ) :
    let s : Site τ := ⟨(SessionTable.empty : SessionTable τ).after h ms, live⟩
    ((s.serve h files m).2.IsRefusal ↔ s.Lacks h files m.request) ∧
      ((s.serve h files m).2.IsRefusal → (s.serve h files m).1 = s) :=
  ⟨isRefusal_serve_iff m, serve_of_isRefusal (SessionTable.Aligned.empty.after h ms)⟩

end Serve

/-- A session is deleted twice. The second time nothing happens, neither to the other session nor to
the record of a third one in the queue. -/
theorem refused_unchanged_twice :
    let h := WebHost.sample 10
    let ms : List (SessionTable.Moment Int) :=
      [⟨.create "map" "web", 0, .ok ""⟩, ⟨.create "map" "web", 10, .ok ""⟩,
        ⟨.delete "", 20, .ok ""⟩]
    let s : Site Int := ⟨(SessionTable.empty : SessionTable Int).after h ms, ⟨3, [.str "record"]⟩⟩
    let m : Moment Int := ⟨.session (.delete ""), 30, .ok "", "noon"⟩
    (s.serve h .empty m).2.IsRefusal ∧ (s.serve h .empty m).1 = s := by
  intro h ms s m
  obtain ⟨hiff, hunchanged⟩ := refused_unchanged h .empty ms ⟨3, [.str "record"]⟩ m
  have hlacks : s.Lacks h .empty m.request := by
    have hids : s.table.ids = ["i"] := by decide +kernel
    rw [Lacks, hids]
    decide
  exact ⟨hiff.2 hlacks, hunchanged (hiff.2 hlacks)⟩

end Site

end MissionConsole
