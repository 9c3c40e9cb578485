import MissionConsole.Proofs.Web.Fate

/-!
# The life of a session

What is recorded of a session tells its whole life: first that it is opened, then the lines that are
entered on it, and last that it is closed. Whether it is in the table can be read off the records,
and why it has left can be read off the last one. That no id is issued twice keeps a life from
starting again.

## Main definitions

* `SessionTable.Life` — how far the life of a session has come
* `SessionTable.Leaves`, `SessionTable.Outcome.ClosesFor` — a session leaves the table, and its end
  is recorded with a reason
* `SessionTable.Parting` — how a session leaves the table on a request
* `SessionTable.Accounted` — what the records of requests say about a session

## Main results

* `SessionTable.Life.answer` — every request goes on with the life where it has come to
* `SessionTable.lifecycle_accounting` — the records of any requests account for every session
-/

namespace MissionConsole

namespace Record

variable {id : String} {r : Record}

theorem tells_of_closes (h : r.closes id = true) : r.tells id = true := (Bool.and_eq_true_iff.1 h).2

theorem not_closes_of_opens (h : r.opens id = true) : r.closes id = false := by
  rw [opens, Bool.and_eq_true, beq_iff_eq] at h
  rw [closes, h.1]
  rfl

theorem not_opens_of_closes (h : r.closes id = true) : r.opens id = false := by
  rw [closes, Bool.and_eq_true, beq_iff_eq] at h
  rw [opens, h.1]
  rfl

theorem opens_and_tells (id : String) (r : Record) : (r.opens id && r.tells id) = r.opens id := by
  rw [opens, Bool.and_assoc, Bool.and_self]

theorem closes_and_tells (id : String) (r : Record) :
    (r.closes id && r.tells id) = r.closes id := by
  rw [closes, Bool.and_assoc, Bool.and_self]

end Record

namespace SessionTable

variable {τ : Type}

/-! ### A life -/

/-- How far the life of a session has come, by the records that tell of it. -/
inductive Life (newId : Nat → String) (id : String) (t : SessionTable τ) : List Record → Prop
  /-- It is not opened yet. -/
  | ahead (hid : id ∉ t.ids) : Life newId id t []
  /-- It is opened, and lines have been entered. -/
  | going {first : Record} {lines : List Record} (hid : id ∈ t.ids)
    (hfirst : first.opens id = true) (hlines : ∀ r ∈ lines, r.IsLine id) :
    Life newId id t (first :: lines)
  /-- It is closed, and its id will not be issued again. -/
  | ended {first last : Record} {lines : List Record} (hid : id ∉ t.ids)
    (hissued : ∃ n < t.issued, newId n = id) (hfirst : first.opens id = true)
    (hlines : ∀ r ∈ lines, r.IsLine id) (hlast : last.closes id = true) :
    Life newId id t (first :: (lines ++ [last]))

namespace Life

variable {newId : Nat → String} {id : String} {t : SessionTable τ} {told before after : List Record}
  {r : Record}

/-- Lines neither open nor close a session. -/
theorem countP_opens_lines {lines : List Record} (hlines : ∀ r ∈ lines, r.IsLine id) :
    lines.countP (·.opens id) = 0 :=
  List.countP_eq_zero.2 fun r hr => by simp [(hlines r hr).not_opens]

theorem countP_closes_lines {lines : List Record} (hlines : ∀ r ∈ lines, r.IsLine id) :
    lines.countP (·.closes id) = 0 :=
  List.countP_eq_zero.2 fun r hr => by simp [(hlines r hr).not_closes]

/-- A session is in the table when it was opened and not closed; each happens once at most. -/
theorem counts (h : Life newId id t told) :
    told.countP (·.opens id) ≤ 1 ∧ told.countP (·.closes id) ≤ 1 ∧
      (id ∈ t.ids ↔ 0 < told.countP (·.opens id) ∧ told.countP (·.closes id) = 0) := by
  cases h with
  | ahead hid => simp [hid]
  | going hid hfirst hlines =>
    have hopens := countP_opens_lines hlines
    have hcloses := countP_closes_lines hlines
    have hfirst' := Record.not_closes_of_opens hfirst
    simp [hid, hfirst, hfirst', hopens, hcloses]
  | ended hid _ hfirst hlines hlast =>
    have hopens := countP_opens_lines hlines
    have hcloses := countP_closes_lines hlines
    have hfirst' := Record.not_closes_of_opens hfirst
    have hlast' := Record.not_opens_of_closes hlast
    simp [hid, hfirst, hfirst', hlast, hlast', hopens, hcloses]

/-- What is not among the first ones is the last one. -/
theorem eq_of_append_singleton {first : List Record} {last : Record}
    (hsplit : before ++ r :: after = first ++ [last]) (hr : r ∉ first) :
    before = first ∧ after = [] := by
  rcases List.eq_nil_or_concat after with rfl | ⟨rest, x, rfl⟩
  · exact ⟨(List.append_inj' hsplit rfl).1, rfl⟩
  · rw [List.concat_eq_append, ← List.cons_append, ← List.append_assoc] at hsplit
    have hfirst : before ++ r :: rest = first := (List.append_inj' hsplit rfl).1
    exact absurd (hfirst ▸ List.mem_append_right before List.mem_cons_self) hr

/-- The record that a session is closed is the last one, and not the first. -/
theorem of_closes (h : Life newId id t (before ++ r :: after)) (hr : r.closes id = true) :
    id ∉ t.ids ∧ (∃ first ∈ before, first.opens id = true) ∧ after = [] := by
  generalize htold : before ++ r :: after = told at h
  have hmem : r ∈ told := htold ▸ List.mem_append_right before List.mem_cons_self
  have hopens : r.opens id = false := Record.not_opens_of_closes hr
  -- Neither the first record nor a line closes anything.
  have hearly : ∀ {first : Record} {lines : List Record}, first.opens id = true →
      (∀ r ∈ lines, r.IsLine id) → r ∉ first :: lines := by
    intro first lines hfirst hlines hin
    rcases List.mem_cons.1 hin with rfl | hin
    · exact Bool.false_ne_true (hopens.symm.trans hfirst)
    · exact Bool.false_ne_true ((hlines r hin).not_closes.symm.trans hr)
  cases h with
  | ahead => exact absurd hmem List.not_mem_nil
  | going _ hfirst hlines => exact absurd hmem (hearly hfirst hlines)
  | ended hid _ hfirst hlines _ =>
    rw [← List.cons_append] at htold
    obtain ⟨rfl, rfl⟩ := eq_of_append_singleton htold (hearly hfirst hlines)
    exact ⟨hid, ⟨_, List.mem_cons_self, hfirst⟩, rfl⟩

end Life

/-! ### One more request -/

/-- A session is in one table and not in the next one. -/
structure Leaves (t t' : SessionTable τ) (id : String) : Prop where
  before : id ∈ t.ids
  after : id ∉ t'.ids

/-- The end of a session is recorded with a reason. -/
def Outcome.ClosesFor (o : Outcome τ) (id : String) (reason : Reason) : Prop :=
  ∃ r ∈ Journal.records o.journal, r.closes id = true ∧ r.reason? = some reason.name

section Requests

variable [Timescale τ] {h : WebHost τ} {readings : List τ} {t : SessionTable τ} {id : String}
  {now : τ} {request : Request} {o : Outcome τ} {told : List Record} {reason : Reason}

/-- Issued ids are never taken back. -/
theorem issued_le_answer (ht : t.Aligned) (now : τ) (request : Request) :
    t.issued ≤ (t.answer h now request).table.issued := by
  have hanswers := answers_answer h now t request
  generalize t.answer h now request = o at hanswers ⊢
  cases hanswers with
  | created _ hevict _ =>
    have hdrops := drops_evict h h.ttl h.capacity now ht
    rw [hevict] at hdrops
    rw [← hdrops.issued_eq]
    exact Nat.le_succ _
  | unknownSession _ _ htable => rcases htable with rfl | rfl <;> exact Nat.le_refl _
  | unknownProfile | ended | entered | shown | deleted => exact Nat.le_refl _

/-- A life goes on by what a request does to the session. -/
theorem Life.fate (hlife : Life h.newId id t told) (hfresh : Function.Injective h.newId)
    (hissued : id ∈ t.ids → ∃ n < t.issued, h.newId n = id) (hle : t.issued ≤ o.table.issued)
    (hfate : Fate h now t id request o) : Life h.newId id o.table (told ++ o.told id) := by
  cases hlife with
  | ahead hid =>
    cases hfate with
    | untouched hids htold =>
      rw [htold]
      exact .ahead fun hafter => hid (hids.1 hafter)
    | opened _ _ hafter first hfirst htold =>
      rw [htold]
      exact .going hafter hfirst nofun
    | entered hbefore | left hbefore => exact absurd hbefore hid
  | @going first lines hid hfirst hlines =>
    cases hfate with
    | untouched hids htold =>
      rw [htold, List.append_nil]
      exact .going (hids.2 hid) hfirst hlines
    | opened _ hbefore => exact absurd hid hbefore
    | entered _ hafter hmore =>
      exact .going hafter hfirst (List.forall_mem_append.2 ⟨hlines, hmore⟩)
    | left _ hafter more hmore gone hgone _ htold =>
      obtain ⟨n, hn, hsame⟩ := hissued hid
      have hlast : gone.closing.closes id = true := by
        have hmem : gone ∈ o.removed.filter (·.id == id) := hgone ▸ List.mem_singleton_self gone
        rw [← beq_iff_eq.1 (List.mem_filter.1 hmem).2]
        exact gone.closes_closing
      rw [htold, List.cons_append, ← List.append_assoc]
      exact .ended hafter ⟨n, Nat.lt_of_lt_of_le hn hle, hsame⟩ hfirst
        (List.forall_mem_append.2 ⟨hlines, hmore⟩) hlast
  | ended hid hissued hfirst hlines hlast =>
    obtain ⟨n, hn, hsame⟩ := hissued
    cases hfate with
    | untouched hids htold =>
      rw [htold, List.append_nil]
      exact .ended (fun hafter => hid (hids.1 hafter)) ⟨n, Nat.lt_of_lt_of_le hn hle, hsame⟩ hfirst
        hlines hlast
    | opened hagain =>
      -- An id that was issued before is not the next one.
      exact absurd (hfresh (hsame.trans hagain.symm)) (Nat.ne_of_lt hn)
    | entered hbefore | left hbefore => exact absurd hbefore hid

/-- Every request goes on with the life where it has come to. -/
theorem Life.answer (hlife : Life h.newId id t told) (ht : t.Sound h.newId h.capacity readings)
    (hd : ∀ p, (h.console p).dispatcher.registry = .standard)
    (hfresh : Function.Injective h.newId) (now : τ) (request : Request) :
    Life h.newId id (t.answer h now request).table (told ++ (t.answer h now request).told id) :=
  hlife.fate hfresh (ht.issued id) (issued_le_answer ht.toAligned now request)
    (fate_answer ht hd hfresh now id request)

/-! ### The end of a life -/

/-- The end of a session is recorded when it leaves the table, with the reason of the request. -/
theorem Fate.of_closesFor (hfate : Fate h now t id request o) (hcloses : o.ClosesFor id reason) :
    Leaves t o.table id ∧ Cause h now t id request reason := by
  obtain ⟨r, hr, hclosing, hreason⟩ := hcloses
  have htells : r ∈ o.told id := List.mem_filter.2 ⟨hr, Record.tells_of_closes hclosing⟩
  have hopens : r.opens id = false := Record.not_opens_of_closes hclosing
  have hline : ¬r.IsLine id := fun hline =>
    Bool.false_ne_true (hline.not_closes.symm.trans hclosing)
  -- What closes is neither the first record of a life nor a line, so the session has left.
  cases hfate with
  | untouched _ htold => exact absurd (htold ▸ htells) List.not_mem_nil
  | opened _ _ _ first hfirst htold =>
    rw [htold, List.mem_singleton] at htells
    exact absurd (hopens.symm.trans (htells ▸ hfirst)) Bool.false_ne_true
  | entered _ _ hlines => exact absurd (hlines r htells) hline
  | left hbefore hafter lines hlines gone _ hcause htold =>
    rw [htold, List.mem_append, List.mem_singleton] at htells
    rcases htells with hin | rfl
    · exact absurd (hlines r hin) hline
    · have hname : gone.reason = reason :=
        reason_name_injective (Option.some.inj (gone.reason?_closing.symm.trans hreason))
      exact ⟨⟨hbefore, hafter⟩, hname ▸ hcause⟩

/-- When a session leaves the table, its end is recorded with the reason of the request. -/
theorem Fate.of_leaves (hfate : Fate h now t id request o) (hleaves : Leaves t o.table id) :
    ∃ reason, o.ClosesFor id reason ∧ Cause h now t id request reason ∧
      ∃ gone ∈ o.removed, gone.id = id := by
  cases hfate with
  | untouched hids => exact absurd (hids.2 hleaves.before) hleaves.after
  | opened _ hbefore => exact absurd hleaves.before hbefore
  | entered _ hafter => exact absurd hafter hleaves.after
  | left _ _ lines _ gone hgone hcause htold =>
    have hmem : gone ∈ o.removed.filter (·.id == id) := hgone ▸ List.mem_singleton_self gone
    obtain ⟨hremoved, hid⟩ := List.mem_filter.1 hmem
    rw [beq_iff_eq] at hid
    have hlast : gone.closing ∈ o.told id :=
      htold ▸ List.mem_append_right lines (List.mem_singleton_self _)
    have hcloses : o.ClosesFor id gone.reason :=
      ⟨gone.closing, (List.mem_filter.1 hlast).1, hid ▸ gone.closes_closing, rfl⟩
    exact ⟨gone.reason, hcloses, hcause, gone, hremoved, hid⟩

theorem leaves_of_exits (hd : ∀ p, (h.console p).dispatcher.registry = .standard)
    (hexits : t.Exits h now id request) : Leaves t (t.answer h now request).table id := by
  obtain ⟨line, e, rfl, hfind, hclose⟩ := hexits
  have hends : e.ends h now line = true := (e.ends_eq hd line).trans hclose
  refine ⟨mem_ids_of_find? hfind, ?_⟩
  rw [answer, command_of_ends hfind hends]
  exact find?_eq_none_iff.1 (find?_drop.trans (if_pos rfl))

/-- How a session leaves the table on a request, and what is recorded of it. -/
structure Parting (h : WebHost τ) (now : τ) (t : SessionTable τ) (id : String) (request : Request)
    (o : Outcome τ) : Prop where
  /-- The end of a session is recorded when it leaves the table. -/
  recorded : (∃ reason, o.ClosesFor id reason) ↔ Leaves t o.table id
  /-- The reason is its last line when the events of its own command end it. -/
  exited : o.ClosesFor id .exited ↔ t.Exits h now id request
  /-- The reason is the visitor's wish when a request to delete it takes it out of the table. -/
  deleted : o.ClosesFor id .deleted ↔ request = .delete id ∧ Leaves t o.table id
  /-- The reason is its age, or that there are too many, when the creation of another session takes
  it out of the table. -/
  dropped : (o.ClosesFor id .expired ∨ o.ClosesFor id .evicted) ↔
    (∃ profile origin, request = .create profile origin) ∧ Leaves t o.table id
  /-- What leaves the table is removed. -/
  removed : Leaves t o.table id → ∃ gone ∈ o.removed, gone.id = id
  /-- What is removed is put back. -/
  closed : ∀ gone ∈ o.removed, gone.IsClosed

theorem parting_answer (ht : t.Sound h.newId h.capacity readings)
    (hd : ∀ p, (h.console p).dispatcher.registry = .standard)
    (hfresh : Function.Injective h.newId) (now : τ) (id : String) (request : Request) :
    Parting h now t id request (t.answer h now request) := by
  have hfate := fate_answer ht hd hfresh now id request
  -- Each kind of request is a cause for its own reasons, so the reason can be read off the request.
  refine
    { recorded := ⟨?_, ?_⟩
      exited := ⟨?_, ?_⟩
      deleted := ⟨?_, ?_⟩
      dropped := ⟨?_, ?_⟩
      removed := ?_
      closed := isClosed_answer ht hd now request }
  · rintro ⟨reason, hcloses⟩
    exact (hfate.of_closesFor hcloses).1
  · intro hleaves
    obtain ⟨reason, hcloses, -⟩ := hfate.of_leaves hleaves
    exact ⟨reason, hcloses⟩
  · intro hcloses
    exact (hfate.of_closesFor hcloses).2
  · intro hexits
    obtain ⟨reason, hcloses, hcause, -⟩ := hfate.of_leaves (leaves_of_exits hd hexits)
    obtain ⟨line, e, rfl, -⟩ := hexits
    exact hcause.of_command ▸ hcloses
  · intro hcloses
    exact (hfate.of_closesFor hcloses).symm
  · rintro ⟨rfl, hleaves⟩
    obtain ⟨reason, hcloses, hcause, -⟩ := hfate.of_leaves hleaves
    exact hcause.of_delete ▸ hcloses
  · rintro (hcloses | hcloses)
    · exact (hfate.of_closesFor hcloses).symm
    · exact (hfate.of_closesFor hcloses).symm
  · rintro ⟨⟨profile, origin, rfl⟩, hleaves⟩
    obtain ⟨reason, hcloses, hcause, -⟩ := hfate.of_leaves hleaves
    rcases hcause.of_create with rfl | rfl
    · exact .inl hcloses
    · exact .inr hcloses
  · intro hleaves
    obtain ⟨-, -, -, hremoved⟩ := hfate.of_leaves hleaves
    exact hremoved

/-- A request that names a session that is not in the table is refused. -/
theorem response_of_not_mem (hto : request.addressee? = some id) (hid : id ∉ t.ids) :
    (t.answer h now request).response = .refused .unknownSession := by
  have hanswers := answers_answer h now t request
  generalize t.answer h now request = o at hanswers ⊢
  have habsent : ∀ {other : String} {e : Entry τ}, some other = some id →
      t.find? other ≠ some e := by
    rintro other e hother hfind
    exact hid (Option.some.inj hother ▸ mem_ids_of_find? hfind)
  cases hanswers with
  | unknownProfile | created => exact absurd hto.symm (Option.some_ne_none id)
  | unknownSession => rfl
  | ended hfind | entered hfind | shown hfind | deleted hfind => exact absurd hfind (habsent hto)

/-! ### All requests -/

/-- The life of every session after any requests. -/
theorem life_after (h : WebHost τ) (hd : ∀ p, (h.console p).dispatcher.registry = .standard)
    (hfresh : Function.Injective h.newId) (ms : List (Moment τ)) (id : String) :
    Life h.newId id ((empty : SessionTable τ).after h ms)
      (((empty : SessionTable τ).records h ms).filter (·.tells id)) := by
  induction ms using List.reverseRecOn with
  | nil => exact .ahead List.not_mem_nil
  | append_singleton ms m ih =>
    have ht := sound_after h hd hfresh ms
    rw [after_concat, records_concat, List.filter_append]
    exact ih.answer (h := h.dated m.date) ht hd hfresh m.now m.request

/-- What the records of requests say about a session. -/
structure Accounted (h : WebHost τ) (ms : List (Moment τ)) (id : String) : Prop where
  /-- It is opened once at most. -/
  opened_once : ((empty : SessionTable τ).records h ms).countP (·.opens id) ≤ 1
  /-- It is closed once at most. -/
  closed_once : ((empty : SessionTable τ).records h ms).countP (·.closes id) ≤ 1
  /-- It is closed after it was opened, and nothing tells of it any more. -/
  closed_last : ∀ before r after, (empty : SessionTable τ).records h ms = before ++ r :: after →
    r.closes id = true →
      (∃ first ∈ before, first.opens id = true) ∧ ∀ later ∈ after, later.tells id = false
  /-- It is in the table when it was opened and not closed. -/
  present : id ∈ ((empty : SessionTable τ).after h ms).ids ↔
    (∃ r ∈ (empty : SessionTable τ).records h ms, r.opens id = true) ∧
      ¬∃ r ∈ (empty : SessionTable τ).records h ms, r.closes id = true
  /-- Once it is closed, every request on it is refused. -/
  refused : (∃ r ∈ (empty : SessionTable τ).records h ms, r.closes id = true) →
    ∀ m : Moment τ, m.request.addressee? = some id →
      (((empty : SessionTable τ).after h ms).step h m).response = .refused .unknownSession
  /-- Whatever request comes next, the session leaves the table as it is recorded. -/
  parting : ∀ m : Moment τ,
    Parting (h.dated m.date) m.now ((empty : SessionTable τ).after h ms) id m.request
      (((empty : SessionTable τ).after h ms).step h m)

/-- After any requests, and with ids that are not issued twice, the records account for the life of
every session. -/
theorem lifecycle_accounting (h : WebHost τ)
    (hd : ∀ p, (h.console p).dispatcher.registry = .standard)
    (hfresh : Function.Injective h.newId) (ms : List (Moment τ)) (id : String) :
    Accounted h ms id := by
  have ht := sound_after h hd hfresh ms
  have hlife := life_after h hd hfresh ms id
  obtain ⟨hopened, hclosed, hpresent⟩ := hlife.counts
  -- What opens or closes the session tells of it, so that nothing else has to be counted.
  simp only [List.countP_filter, Record.opens_and_tells, Record.closes_and_tells]
    at hopened hclosed hpresent
  have hlast : ∀ before r after, (empty : SessionTable τ).records h ms = before ++ r :: after →
      r.closes id = true → id ∉ ((empty : SessionTable τ).after h ms).ids ∧
        (∃ first ∈ before, first.opens id = true) ∧ ∀ later ∈ after, later.tells id = false := by
    intro before r after hsplit hr
    rw [hsplit, List.filter_append, List.filter_cons_of_pos (Record.tells_of_closes hr)] at hlife
    obtain ⟨hid, ⟨first, hfirst, hopens⟩, hafter⟩ := hlife.of_closes hr
    refine ⟨hid, ⟨first, (List.mem_filter.1 hfirst).1, hopens⟩, fun later hlater => ?_⟩
    exact Bool.not_eq_true _ ▸ List.filter_eq_nil_iff.1 hafter later hlater
  refine ⟨hopened, hclosed, fun before r after hsplit hr => (hlast before r after hsplit hr).2, ?_,
    ?_, fun m => parting_answer (h := h.dated m.date) ht hd hfresh m.now id m.request⟩
  · rw [hpresent, List.countP_pos_iff, List.countP_eq_zero]
    simp
  · rintro ⟨r, hr, hcloses⟩ m hto
    obtain ⟨before, after, hsplit⟩ := List.append_of_mem hr
    exact response_of_not_mem hto (hlast before r after hsplit hcloses).1

/-- A visitor logs in and leaves, and another one is deleted: the id of the one who has left is no
longer in the table, and it is refused from then on. -/
theorem lifecycle_accounting_exit :
    let h := WebHost.sample 10
    let ms : List (Moment Int) :=
      [⟨.create "map" "web", 0, .ok ""⟩, ⟨.create "map" "web", 5, .ok ""⟩,
        ⟨.command "i" "login", 10, .ok ""⟩, ⟨.command "i" "Legion", 20, .ok ""⟩,
        ⟨.delete "", 30, .ok ""⟩, ⟨.command "i" "exit", 40, .ok ""⟩]
    let t := (empty : SessionTable Int).after h ms
    (∀ p, (h.console p).dispatcher.registry = .standard) ∧ Function.Injective h.newId ∧
      (∃ r ∈ (empty : SessionTable Int).records h ms, r.closes "i" = true) ∧ "i" ∉ t.ids ∧
        (t.step h ⟨.get "i", 50, .ok ""⟩).response = .refused .unknownSession := by
  intro h ms t
  have hd := WebHost.sample_registry 10
  have hfresh := WebHost.sample_newId_injective 10
  have haccounted := lifecycle_accounting h hd hfresh ms "i"
  have hclosed : ∃ r ∈ (empty : SessionTable Int).records h ms, r.closes "i" = true := by
    rw [← List.any_eq_true]
    decide +kernel
  refine ⟨hd, hfresh, hclosed, fun hid => ?_, haccounted.refused hclosed _ rfl⟩
  exact (haccounted.present.1 hid).2 hclosed

end Requests

end SessionTable

end MissionConsole
