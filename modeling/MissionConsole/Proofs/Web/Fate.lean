import MissionConsole.Proofs.Web.Isolation
import MissionConsole.Proofs.Web.Table

/-!
# What one request does to one session

A session is opened by a request that creates one, and it leaves the table in one of four ways: by
its own last line, because it is deleted, or because it is dropped to make room for a new one, be it
idle or the oldest. Each of these leaves one record that carries the id of the session; apart from
them only lines on the session do. In all other respects a request passes it by.

## Main definitions

* `Record.tells`, `Record.opens`, `Record.closes`, `Record.reason?` — what a record says of a
  session
* `Removal.IsClosed` — a session that has left the table is put back
* `SessionTable.Cause` — the requests that make a session leave for a reason
* `SessionTable.Fate` — what a request does to a session

## Main results

* `SessionTable.fate_answer` — every request does one of four things to a session
* `SessionTable.isClosed_answer` — whoever leaves the table is put back
-/

namespace MissionConsole

/-! ### Records that tell of a session -/

namespace Record

/-- A record carries the id of a session. -/
def tells (id : String) (r : Record) : Bool := r.sessionId? == some id

/-- A record says that a session is opened. -/
def opens (id : String) (r : Record) : Bool := r.eventType == "session_open" && r.tells id

/-- A record says that a session is closed. -/
def closes (id : String) (r : Record) : Bool := r.eventType == "session_close" && r.tells id

/-- The reason that a record gives. -/
def reason? (r : Record) : Option String :=
  match r.details.lookup "reason" with
  | some (.str reason) => some reason
  | _ => none

variable {id : String} {r : Record}

namespace IsLine

theorem tells_eq (h : r.IsLine id) (other : String) : r.tells other = (id == other) := by
  rw [tells, h.sessionId_eq]
  rfl

theorem not_opens (h : r.IsLine id) : r.opens id = false := by
  cases r with
  | lifecycle => exact absurd rfl h.channel_ne
  | _ => rfl

theorem not_closes (h : r.IsLine id) : r.closes id = false := by
  cases r with
  | lifecycle => exact absurd rfl h.channel_ne
  | _ => rfl

end IsLine

end Record

namespace SessionTable

variable {τ : Type}

namespace Removal

/-- The record of a session's end. -/
def closing (r : Removal τ) : Record :=
  .lifecycle "CLOSE" r.overlay.session.origin
    [("session_id", .str r.id), ("reason", .str r.reason.name)]

/-- A session that has left the table is put back to the state at the start of a visit. -/
structure IsClosed (r : Removal τ) : Prop where
  session_eq : r.overlay.session = .fresh r.id r.overlay.session.origin
  isOpen_eq : r.overlay.isOpen = false

variable (r : Removal τ) (id : String)

theorem tells_closing : r.closing.tells id = (r.id == id) := rfl

theorem closes_closing : r.closing.closes r.id = true := by
  rw [Record.closes, tells_closing, BEq.rfl, Bool.and_true]
  rfl

theorem reason?_closing : r.closing.reason? = some r.reason.name := rfl

theorem records_map_record (gone : List (Removal τ)) :
    Journal.records (gone.map Removal.record) = gone.map closing := by
  rw [Journal.records, List.filterMap_map, ← List.filterMap_eq_map]
  rfl

end Removal

theorem opens_opening (origin id profile : String) :
    (opening origin id profile).opens id = true := by
  rw [Record.opens, Record.tells]
  exact (Bool.and_eq_true_iff).2 ⟨rfl, BEq.rfl⟩

theorem tells_opening (origin id profile other : String) :
    (opening origin id profile).tells other = (id == other) := rfl

theorem isClosed_remove {h : WebHost τ} {reason : Reason} {id : String} {e : Entry τ}
    (hid : e.id = id) : (remove h reason id e).IsClosed where
  session_eq := by
    rw [remove, Overlay.close_session, Session.reset, ← hid]
    rfl
  isOpen_eq := rfl

theorem reason_name_injective : Function.Injective Reason.name := by
  intro a b hname
  cases a <;> cases b <;> first | rfl | exact absurd hname (by decide)

/-! ### The fate of a session -/

/-- What is recorded that tells of a session. -/
def Outcome.told (o : Outcome τ) (id : String) : List Record :=
  (Journal.records o.journal).filter (·.tells id)

section Fate

variable [Timescale τ]

/-- A request enters a line on a session whose events end it. -/
def Exits (h : WebHost τ) (now : τ) (t : SessionTable τ) (id : String) (request : Request) : Prop :=
  ∃ line e, request = .command id line ∧ t.find? id = some e ∧
    Event.endsSession (e.submit h now line).reply.events = true

/-- The requests that make a session leave the table for a reason. -/
def Cause (h : WebHost τ) (now : τ) (t : SessionTable τ) (id : String) (request : Request) :
    Reason → Prop
  | .exited => t.Exits h now id request
  | .deleted => request = .delete id
  | .expired => ∃ profile origin, request = .create profile origin
  | .evicted => ∃ profile origin, request = .create profile origin

variable {h : WebHost τ} {now : τ} {t : SessionTable τ} {id other : String} {reason : Reason}

/-- A line makes a session leave as its last one only. -/
theorem Cause.of_command {line : String}
    (hcause : Cause h now t id (.command other line) reason) : reason = .exited := by
  cases reason with
  | exited => rfl
  | deleted => exact Request.noConfusion hcause
  | expired | evicted =>
    obtain ⟨_, _, hrequest⟩ := hcause
    exact Request.noConfusion hrequest

theorem Cause.of_delete (hcause : Cause h now t id (.delete other) reason) : reason = .deleted := by
  cases reason with
  | deleted => rfl
  | exited =>
    obtain ⟨_, _, hrequest, -⟩ := hcause
    exact Request.noConfusion hrequest
  | expired | evicted =>
    obtain ⟨_, _, hrequest⟩ := hcause
    exact Request.noConfusion hrequest

theorem Cause.of_create {profile origin : String}
    (hcause : Cause h now t id (.create profile origin) reason) :
    reason = .expired ∨ reason = .evicted := by
  cases reason with
  | expired => exact .inl rfl
  | evicted => exact .inr rfl
  | deleted => exact Request.noConfusion hcause
  | exited =>
    obtain ⟨_, _, hrequest, -⟩ := hcause
    exact Request.noConfusion hrequest

/-- What a request does to a session. -/
inductive Fate (h : WebHost τ) (now : τ) (t : SessionTable τ) (id : String) (request : Request)
    (o : Outcome τ) : Prop
  /-- It passes it by. -/
  | untouched (hids : id ∈ o.table.ids ↔ id ∈ t.ids) (htold : o.told id = [])
  /-- It opens it. -/
  | opened (hissued : h.newId t.issued = id) (hbefore : id ∉ t.ids) (hafter : id ∈ o.table.ids)
    (first : Record) (hfirst : first.opens id = true) (htold : o.told id = [first])
  /-- It enters a line on it. -/
  | entered (hbefore : id ∈ t.ids) (hafter : id ∈ o.table.ids)
    (hlines : ∀ r ∈ o.told id, r.IsLine id)
  /-- It makes it leave the table, maybe with a last line. -/
  | left (hbefore : id ∈ t.ids) (hafter : id ∉ o.table.ids) (lines : List Record)
    (hlines : ∀ r ∈ lines, r.IsLine id) (gone : Removal τ)
    (hgone : o.removed.filter (·.id == id) = [gone]) (hcause : Cause h now t id request gone.reason)
    (htold : o.told id = lines ++ [gone.closing])

end Fate

/-! ### What is told and found -/

section Told

variable {t t' : SessionTable τ} {id other : String}

theorem mem_ids_iff : id ∈ t.ids ↔ ∃ e, t.find? id = some e :=
  ⟨exists_find?_of_mem, fun ⟨_, hfind⟩ => mem_ids_of_find? hfind⟩

theorem mem_ids_congr (hfind : t'.find? id = t.find? id) : id ∈ t'.ids ↔ id ∈ t.ids := by
  rw [mem_ids_iff, mem_ids_iff, hfind]

/-- Lines on one session tell of no other one. -/
theorem filter_tells_of_isLine {rs : List Record} (hlines : ∀ r ∈ rs, r.IsLine other) :
    rs.filter (·.tells id) = if other = id then rs else [] := by
  have htells : ∀ r ∈ rs, r.tells id = (other == id) := fun r hr => (hlines r hr).tells_eq id
  split_ifs with hsame
  · exact List.filter_eq_self.2 fun r hr => by rw [htells r hr, hsame, BEq.rfl]
  · exact List.filter_eq_nil_iff.2 fun r hr => by simp [htells r hr, hsame]

/-- Nothing tells of a session after lines on another one. -/
theorem told_of_lines {o : Outcome τ} {entries : List Journal.Entry}
    (hjournal : o.journal = entries) (hlines : ∀ r ∈ Journal.records entries, r.IsLine other)
    (hne : id ≠ other) :
    o.told id = [] := by
  rw [Outcome.told, hjournal, filter_tells_of_isLine hlines, if_neg (Ne.symm hne)]

/-- What tells of a session after drops and a beginning: its own end, and its own beginning. -/
theorem told_of_drops {o : Outcome τ} {gone : List (Removal τ)} {first : Record}
    (hjournal : o.journal = gone.map Removal.record ++ [.record first]) (id : String) :
    o.told id = (gone.filter (·.id == id)).map Removal.closing ++ [first].filter (·.tells id) := by
  have hlast : Journal.records [.record first] = [first] := rfl
  rw [Outcome.told, hjournal, Journal.records_append, Removal.records_map_record, hlast,
    List.filter_append, List.filter_map]
  rfl

/-- What tells of a session after lines on a session and its end: all of it, if it is the same. -/
theorem told_of_end {o : Outcome τ} (entries : List Journal.Entry) {gone : Removal τ}
    (hjournal : o.journal = entries ++ [gone.record])
    (hlines : ∀ r ∈ Journal.records entries, r.IsLine gone.id) (id : String) :
    o.told id = if gone.id = id then Journal.records entries ++ [gone.closing] else [] := by
  have hlast : Journal.records [gone.record] = [gone.closing] := rfl
  rw [Outcome.told, hjournal, Journal.records_append, List.filter_append,
    filter_tells_of_isLine hlines, hlast]
  by_cases hsame : gone.id = id
  · simp [hsame, Removal.tells_closing]
  · simp [hsame, Removal.tells_closing]

end Told

section Requests

variable [Timescale τ] {h : WebHost τ} {readings : List τ} {t : SessionTable τ} {id : String}
  {now : τ}

/-- A line is the last one exactly when its events say so, for no line fails and says so. -/
theorem Entry.ends_eq (hd : ∀ p, (h.console p).dispatcher.registry = .standard) (e : Entry τ)
    (line : String) :
    e.ends h now line = Event.endsSession (e.submit h now line).reply.events := by
  rw [ends]
  cases hescaped : (e.submit h now line).escaped with
  | none => rw [Option.isNone_none, Bool.true_and]
  | some f =>
    have hfailed : (e.submit h now line).escaped ≠ none := hescaped ▸ Option.some_ne_none f
    rw [Option.isNone_some, Bool.false_and]
    exact (Overlay.endsSession_of_escaped (hd e.profile) hfailed).symm

/-- All that is recorded of a line tells of the session that it was entered on. -/
theorem isLine_of_mem_records_submit (ht : t.Sound h.newId h.capacity readings)
    (hd : ∀ p, (h.console p).dispatcher.registry = .standard) {e : Entry τ}
    (hfind : t.find? id = some e) (now : τ) (line : String) :
    ∀ r ∈ Journal.records (e.submit h now line).journal, r.IsLine id := by
  intro r hr
  have hline := Overlay.isLine_of_mem_records_submit (hd e.profile) hr
  exact ht.id_eq hfind ▸ hline

/-- The creation of a session opens it. Another one is left alone, or dropped before. -/
theorem fate_created (ht : t.Sound h.newId h.capacity readings)
    (hfresh : Function.Injective h.newId) {t' : SessionTable τ} {gone : List (Removal τ)}
    (hdrops : Drops h t gone t') {new : String} (hnew : h.newId t'.issued = new) (e : Entry τ)
    (profile origin name : String) (response : Response) :
    Fate h now t id (.create profile origin)
      ⟨t'.add new e now, response,
        gone.map Removal.record ++ [.record (opening origin new name)], gone⟩ := by
  rw [hdrops.issued_eq] at hnew
  by_cases hsame : new = id
  · -- Nobody has had the id before, so nothing that was dropped did.
    subst hsame
    have hbefore : new ∉ t.ids := hnew ▸ ht.newId_not_mem hfresh
    have hnone := (hdrops.of_find?_eq_none (find?_eq_none_iff.2 hbefore)).2
    have hafter : (t'.add new e now).find? new = some e := find?_add.trans (if_pos rfl)
    refine .opened hnew hbefore (mem_ids_of_find? hafter) (opening origin new name)
      (opens_opening _ _ _) ?_
    rw [told_of_drops rfl, filter_eq_nil_of_ne hnone]
    simp [tells_opening]
  · have hother : (t'.add new e now).find? id = t'.find? id :=
      find?_add.trans (if_neg (Ne.symm hsame))
    have hfirst : [opening origin new name].filter (·.tells id) = [] := by
      simp [tells_opening, hsame]
    rcases hdrops.fate id with ⟨hkept, hnone⟩ | ⟨last, reason, hreason, hfind, hdropped, hgone⟩
    · refine .untouched (mem_ids_congr (hother.trans hkept)) ?_
      rw [told_of_drops rfl, filter_eq_nil_of_ne hnone, hfirst]
      rfl
    · have hcause : Cause h now t id (.create profile origin) reason := by
        rcases hreason with rfl | rfl
        · exact ⟨profile, origin, rfl⟩
        · exact ⟨profile, origin, rfl⟩
      refine .left (mem_ids_of_find? hfind) (find?_eq_none_iff.1 (hother.trans hdropped)) [] nofun
        _ hgone hcause ?_
      rw [told_of_drops rfl, hgone, hfirst]
      rfl

/-- Every request does one of four things to a session. -/
theorem fate_answer (ht : t.Sound h.newId h.capacity readings)
    (hd : ∀ p, (h.console p).dispatcher.registry = .standard)
    (hfresh : Function.Injective h.newId) (now : τ) (id : String) (request : Request) :
    Fate h now t id request (t.answer h now request) := by
  have hanswers := answers_answer h now t request
  generalize t.answer h now request = o at hanswers ⊢
  -- A request that names a session does something to that one only, if it is there at all.
  cases hanswers with
  | unknownProfile => exact .untouched Iff.rfl rfl
  | created _ hevict hid =>
    have hdrops := drops_evict h h.ttl h.capacity now ht.toAligned
    rw [hevict] at hdrops
    exact fate_created ht hfresh hdrops hid _ _ _ _ _
  | @unknownSession _ other t' _ hfind htable =>
    refine .untouched (mem_ids_congr ?_) rfl
    rcases htable with rfl | rfl
    · rfl
    · -- What is not there may as well be dropped.
      refine find?_drop.trans ?_
      split_ifs with hsame
      · rw [hsame, hfind]
      · rfl
  | @ended other line e hfind hends =>
    have hlines := isLine_of_mem_records_submit ht hd hfind now line
    by_cases hsame : id = other
    · subst hsame
      have hexits : t.Exits h now id (.command id line) :=
        ⟨line, e, rfl, hfind, (e.ends_eq hd line).symm.trans hends⟩
      refine .left (mem_ids_of_find? hfind) (find?_eq_none_iff.1 (find?_drop.trans (if_pos rfl))) _
        hlines (remove h .exited id (e.next h now line)) ?_ hexits ?_
      · simp [remove]
      · exact (told_of_end _ rfl hlines id).trans (if_pos rfl)
    · refine .untouched (mem_ids_congr (find?_drop.trans (if_neg hsame))) ?_
      exact (told_of_end _ rfl hlines id).trans (if_neg (Ne.symm hsame))
  | @entered other line e hfind _ =>
    have hlines := isLine_of_mem_records_submit ht hd hfind now line
    by_cases hsame : id = other
    · subst hsame
      have hafter : ((t.touch id now).update id (e.next h now line)).find? id =
          some (e.next h now line) := find?_update.trans (if_pos rfl)
      refine .entered (mem_ids_of_find? hfind) (mem_ids_of_find? hafter) fun r hr => ?_
      exact hlines r (List.mem_filter.1 hr).1
    · refine .untouched (mem_ids_congr (find?_update.trans (if_neg hsame))) ?_
      exact told_of_lines rfl hlines hsame
  | shown => exact .untouched Iff.rfl rfl
  | @deleted other e hfind =>
    by_cases hsame : id = other
    · subst hsame
      refine .left (mem_ids_of_find? hfind) (find?_eq_none_iff.1 (find?_drop.trans (if_pos rfl)))
        [] (List.forall_mem_nil _) (remove h .deleted id e) ?_ rfl ?_
      · simp [remove]
      · exact (told_of_end [] rfl (List.forall_mem_nil _) id).trans (if_pos rfl)
    · refine .untouched (mem_ids_congr (find?_drop.trans (if_neg hsame))) ?_
      exact (told_of_end [] rfl (List.forall_mem_nil _) id).trans (if_neg (Ne.symm hsame))

/-! ### Who leaves the table -/

omit [Timescale τ] in
theorem Drops.isClosed {t' : SessionTable τ} {gone : List (Removal τ)} (hdrops : Drops h t gone t')
    (hown : ∀ e ∈ t.sessions, e.2.id = e.1) : ∀ r ∈ gone, r.IsClosed := by
  induction hdrops with
  | none => exact List.forall_mem_nil _
  | drop _ hfind _ ih =>
    have hid := hown _ (Keyed.mem_of_lookup hfind)
    exact List.forall_mem_cons.2
      ⟨isClosed_remove hid, ih fun e he => hown e (Keyed.mem_of_mem_erase he)⟩

/-- Whoever leaves the table is put back. -/
theorem isClosed_answer (ht : t.Sound h.newId h.capacity readings)
    (hd : ∀ p, (h.console p).dispatcher.registry = .standard) (now : τ) (request : Request) :
    ∀ r ∈ (t.answer h now request).removed, r.IsClosed := by
  have hanswers := answers_answer h now t request
  generalize t.answer h now request = o at hanswers ⊢
  cases hanswers with
  | created _ hevict _ =>
    have hdrops := drops_evict h h.ttl h.capacity now ht.toAligned
    rw [hevict] at hdrops
    exact hdrops.isClosed ht.own
  | ended hfind _ =>
    exact List.forall_mem_singleton.2
      (isClosed_remove ((Entry.next_id hd _ _).trans (ht.id_eq hfind)))
  | deleted hfind => exact List.forall_mem_singleton.2 (isClosed_remove (ht.id_eq hfind))
  | unknownProfile | unknownSession | entered | shown => exact List.forall_mem_nil _

end Requests

end SessionTable

end MissionConsole
