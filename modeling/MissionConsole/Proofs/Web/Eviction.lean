import MissionConsole.Proofs.Web.Request

/-!
# Eviction

Before a session is added others may have to go: those that were idle for too long, and then the
oldest ones, round by round, until there is room. A round looks for the session with the smallest
time of its last use, and then takes that session out of the table; it finds both as long as the
two tables have the same keys. Whoever has to go goes once, and nobody else is affected.

## Main definitions

* `SessionTable.Aligned` — the two tables have the same keys, and each key once
* `SessionTable.MakesRoom` — the rounds in which room is made
* `SessionTable.Drops` — sessions dropped one after the other, each while it is in the table

## Main results

* `SessionTable.makesRoom_makeRoom` — the loop finds a session in each round, and it ends
* `SessionTable.drops_evict` — what eviction does is a sequence of drops
* `SessionTable.Drops.fate` — a session is left alone, or it is dropped once
* `SessionTable.Aligned.after` — after any requests the two tables have the same keys
-/

namespace MissionConsole.SessionTable

variable {τ : Type}

/-! ### Tables with the same keys -/

/-- The two tables have the same keys, and each key once. -/
structure Aligned (t : SessionTable τ) : Prop where
  keys_eq : t.lastUsed.keys = t.ids
  nodup : t.ids.Nodup

namespace Aligned

variable {t : SessionTable τ} {id : String} {e : Entry τ} {now : τ}

theorem empty : (empty : SessionTable τ).Aligned := ⟨rfl, List.nodup_nil⟩

theorem drop (h : t.Aligned) (id : String) : (t.drop id).Aligned where
  keys_eq := by
    rw [ids, SessionTable.drop, Keyed.keys_erase, Keyed.keys_erase, h.keys_eq, ids]
  nodup := by
    rw [ids, SessionTable.drop, Keyed.keys_erase]
    exact h.nodup.filter _

/-- Dropping what is not there changes nothing. -/
theorem drop_of_not_mem (h : t.Aligned) (hid : id ∉ t.ids) : t.drop id = t := by
  have hsessions : t.sessions.erase id = t.sessions := Keyed.erase_of_not_mem hid
  have hused : t.lastUsed.erase id = t.lastUsed := Keyed.erase_of_not_mem (h.keys_eq ▸ hid)
  rw [SessionTable.drop, hsessions, hused]

theorem touch (h : t.Aligned) (hid : id ∈ t.ids) (now : τ) : (t.touch id now).Aligned where
  keys_eq := by
    rw [SessionTable.touch, Keyed.keys_put_of_mem (h.keys_eq ▸ hid)]
    exact h.keys_eq
  nodup := h.nodup

theorem update (h : t.Aligned) (hid : id ∈ t.ids) (e : Entry τ) : (t.update id e).Aligned := by
  have hids : (t.update id e).ids = t.ids := Keyed.keys_put_of_mem hid
  exact ⟨h.keys_eq.trans hids.symm, hids ▸ h.nodup⟩

/-- A session is added to both tables, be its id new or not. -/
theorem add (h : t.Aligned) (id : String) (e : Entry τ) (now : τ) : (t.add id e now).Aligned := by
  by_cases hid : id ∈ t.ids
  · have hids : (t.add id e now).ids = t.ids := Keyed.keys_put_of_mem hid
    have hused : (t.add id e now).lastUsed.keys = t.lastUsed.keys :=
      Keyed.keys_put_of_mem (h.keys_eq ▸ hid)
    exact ⟨hused.trans (h.keys_eq.trans hids.symm), hids ▸ h.nodup⟩
  · have hids : (t.add id e now).ids = t.ids ++ [id] := Keyed.keys_put_of_not_mem hid
    refine ⟨?_, ?_⟩
    · rw [hids, SessionTable.add, Keyed.keys_put_of_not_mem (h.keys_eq ▸ hid), h.keys_eq]
    · rw [hids, List.nodup_append]
      refine ⟨h.nodup, by simp, fun other hother last hlast hsame => hid ?_⟩
      rwa [← List.mem_singleton.1 hlast, ← hsame]

end Aligned

/-! ### Drops -/

theorem filter_eq_nil_of_ne {gone : List (Removal τ)} {id : String}
    (hnone : ∀ r ∈ gone, r.id ≠ id) :
    gone.filter (·.id == id) = [] :=
  List.filter_eq_nil_iff.2 fun r hr => by simpa using hnone r hr

/-- Sessions are dropped one after the other, each of them while it is in the table. -/
inductive Drops (h : WebHost τ) : SessionTable τ → List (Removal τ) → SessionTable τ → Prop
  | none {t : SessionTable τ} : Drops h t [] t
  | drop {t t' : SessionTable τ} {reason : Reason} {id : String} {e : Entry τ}
    {more : List (Removal τ)} (hreason : reason = .expired ∨ reason = .evicted)
    (hfind : t.find? id = some e) (rest : Drops h (t.drop id) more t') :
    Drops h t (remove h reason id e :: more) t'

namespace Drops

variable {h : WebHost τ} {t t' t'' : SessionTable τ} {gone more : List (Removal τ)} {id : String}

theorem append (hfirst : Drops h t gone t') (hmore : Drops h t' more t'') :
    Drops h t (gone ++ more) t'' := by
  induction hfirst with
  | none => exact hmore
  | drop hreason hfind _ ih => exact .drop hreason hfind (ih hmore)

/-- What every drop keeps, a sequence of drops keeps. -/
theorem invariant (Holds : SessionTable τ → Prop)
    (hdrop : ∀ t id, Holds t → Holds (t.drop id)) (hdrops : Drops h t gone t') (ht : Holds t) :
    Holds t' := by
  induction hdrops with
  | none => exact ht
  | drop _ _ _ ih => exact ih (hdrop _ _ ht)

theorem issued_eq (hdrops : Drops h t gone t') : t'.issued = t.issued := by
  induction hdrops with
  | none => rfl
  | drop _ _ _ ih => exact ih

/-- Who is not in the table is not dropped. -/
theorem of_find?_eq_none (hdrops : Drops h t gone t') (hid : t.find? id = .none) :
    t'.find? id = .none ∧ ∀ r ∈ gone, r.id ≠ id := by
  induction hdrops with
  | none => exact ⟨hid, nofun⟩
  | @drop t t' reason other e more _ hfind _ ih =>
    have hother : other ≠ id := by
      rintro rfl
      exact Option.some_ne_none e (hfind.symm.trans hid)
    obtain ⟨hafter, hmore⟩ := ih (by rw [find?_drop, if_neg hother.symm, hid])
    exact ⟨hafter, List.forall_mem_cons.2 ⟨hother, hmore⟩⟩

/-- A session is left alone, or it is dropped once. -/
theorem fate (hdrops : Drops h t gone t') (id : String) :
    (t'.find? id = t.find? id ∧ ∀ r ∈ gone, r.id ≠ id) ∨
      ∃ e reason, (reason = .expired ∨ reason = .evicted) ∧ t.find? id = some e ∧
        t'.find? id = .none ∧ gone.filter (·.id == id) = [remove h reason id e] := by
  induction hdrops with
  | none => exact .inl ⟨rfl, nofun⟩
  | @drop t t' reason other e more hreason hfind rest ih =>
    by_cases hother : other = id
    · subst hother
      -- Once it is dropped it is no longer there to be dropped again.
      have hnone : (t.drop other).find? other = .none := by rw [find?_drop, if_pos rfl]
      obtain ⟨hafter, hmore⟩ := rest.of_find?_eq_none hnone
      refine .inr ⟨e, reason, hreason, hfind, hafter, ?_⟩
      rw [List.filter_cons_of_pos (by simp [remove]), filter_eq_nil_of_ne hmore]
    · have hfilter : (remove h reason other e :: more).filter (·.id == id) =
          more.filter (·.id == id) :=
        List.filter_cons_of_neg (by simpa [remove] using hother)
      rw [find?_drop, if_neg (Ne.symm hother)] at ih
      rw [hfilter]
      refine ih.imp_left fun hkept => ⟨hkept.1, ?_⟩
      exact List.forall_mem_cons.2 ⟨hother, hkept.2⟩

end Drops

/-- Sessions that are in the table and differ are dropped one after the other. -/
theorem drops_dropAll {h : WebHost τ} {reason : Reason}
    (hreason : reason = .expired ∨ reason = .evicted) {gone : List String}
    (hnodup : gone.Nodup) {t : SessionTable τ} (hids : ∀ id ∈ gone, id ∈ t.ids) :
    Drops h t (t.dropAll h reason gone).2 (t.dropAll h reason gone).1 := by
  induction gone generalizing t with
  | nil => exact .none
  | cons id rest ih =>
    obtain ⟨hid, hrest⟩ := List.nodup_cons.1 hnodup
    obtain ⟨e, hfind⟩ := exists_find?_of_mem (hids id List.mem_cons_self)
    simp only [dropAll, hfind, Option.map_some, Option.toList_some, List.singleton_append]
    refine .drop hreason hfind (ih hrest fun other hother => ?_)
    rw [ids, drop, Keyed.keys_erase, List.mem_filter]
    refine ⟨hids other (List.mem_cons_of_mem id hother), bne_iff_ne.2 ?_⟩
    rintro rfl
    exact hid hother

/-! ### The rounds -/

section Rounds

variable [Timescale τ]

/-- The rounds in which room is made: while there is none, the session that was used least recently
has to go. A round needs a session that was used least recently, and finds it in the table. -/
inductive MakesRoom (h : WebHost τ) (limit : Int) :
    SessionTable τ → List (Removal τ) → SessionTable τ → Prop
  | done {t : SessionTable τ} (hroom : t.hasRoom limit = true) : MakesRoom h limit t [] t
  | round {t t' : SessionTable τ} {id : String} {e : Entry τ} {more : List (Removal τ)}
    (hfull : t.hasRoom limit = false) (holdest : oldest? t.lastUsed = some id)
    (hfind : t.find? id = some e) (rest : MakesRoom h limit (t.drop id) more t') :
    MakesRoom h limit t (remove h .evicted id e :: more) t'

variable {h : WebHost τ} {limit : Int} {t t' : SessionTable τ} {gone : List (Removal τ)}

theorem MakesRoom.drops (hrounds : MakesRoom h limit t gone t') : Drops h t gone t' := by
  induction hrounds with
  | done => exact .none
  | round _ _ hfind _ ih => exact .drop (.inr rfl) hfind ih

theorem MakesRoom.hasRoom (hrounds : MakesRoom h limit t gone t') : t'.hasRoom limit = true := by
  induction hrounds with
  | done hroom => exact hroom
  | round _ _ _ _ ih => exact ih

/-- The one table is not empty where the other is not, so that something was used least recently. -/
theorem exists_oldest (ht : t.Aligned) (hfull : t.hasRoom limit = false) :
    ∃ id, oldest? t.lastUsed = some id := by
  cases hused : t.lastUsed with
  | cons e rest => exact ⟨_, rfl⟩
  | nil =>
    have hkeys := ht.keys_eq
    rw [hused, Keyed.keys_nil, ids] at hkeys
    have hempty : t.sessions.isEmpty = true := by
      rw [List.isEmpty_iff_length_eq_zero, ← Keyed.length_keys, ← hkeys, List.length_nil]
    rw [SessionTable.hasRoom, hempty, Bool.true_or] at hfull
    exact absurd hfull.symm Bool.false_ne_true

/-- The loop finds a session in each round, and it ends. -/
theorem makesRoom_makeRoom (h : WebHost τ) (limit : Int) (t : SessionTable τ) (ht : t.Aligned) :
    MakesRoom h limit t (t.makeRoom h limit).2 (t.makeRoom h limit).1 := by
  cases hroom : t.hasRoom limit with
  | true =>
    rw [makeRoom, if_pos hroom]
    exact .done hroom
  | false =>
    -- A round: what was used least recently is in both tables, and both get smaller without it.
    obtain ⟨id, holdest⟩ := exists_oldest ht hroom
    obtain ⟨e, hfind⟩ := exists_find?_of_mem (ht.keys_eq ▸ oldest?_mem holdest)
    have hrest := makesRoom_makeRoom h limit (t.drop id) (ht.drop id)
    rw [makeRoom, if_neg (by rw [hroom]; exact Bool.false_ne_true)]
    split
    · rename_i hnone
      exact absurd (hnone.symm.trans holdest) (Option.some_ne_none id).symm
    · rename_i other hother
      obtain rfl : id = other := Option.some.inj (holdest.symm.trans hother)
      simp only [hfind, Option.map_some, Option.toList_some, List.singleton_append]
      exact .round hroom holdest hfind hrest
  termination_by t.lastUsed.length
  decreasing_by exact Keyed.length_erase_lt (oldest?_mem holdest)

/-! ### Eviction -/

/-- The idle sessions are picked from the second table, whose keys are those of the first. -/
theorem idle_sublist (ht : t.Aligned) (ttl : Patience τ) (now : τ) :
    (t.idle ttl now).Sublist t.ids := by
  rw [← ht.keys_eq]
  exact List.filter_sublist.map _

theorem drops_expire (h : WebHost τ) (ttl : Patience τ) (now : τ) (ht : t.Aligned) :
    Drops h t (t.expire h ttl now).2 (t.expire h ttl now).1 := by
  have hidle := idle_sublist ht ttl now
  exact drops_dropAll (.inl rfl) (ht.nodup.sublist hidle) fun _ hid => hidle.subset hid

theorem aligned_expire (h : WebHost τ) (ttl : Patience τ) (now : τ) (ht : t.Aligned) :
    (t.expire h ttl now).1.Aligned :=
  (drops_expire h ttl now ht).invariant Aligned (fun _ id ht => ht.drop id) ht

theorem makesRoom_evict (h : WebHost τ) (ttl : Patience τ) (limit : Int) (now : τ)
    (ht : t.Aligned) :
    MakesRoom h limit (t.expire h ttl now).1 ((t.expire h ttl now).1.makeRoom h limit).2
      (t.evict h ttl limit now).1 :=
  makesRoom_makeRoom h limit _ (aligned_expire h ttl now ht)

/-- What eviction does is a sequence of drops. -/
theorem drops_evict (h : WebHost τ) (ttl : Patience τ) (limit : Int) (now : τ) (ht : t.Aligned) :
    Drops h t (t.evict h ttl limit now).2 (t.evict h ttl limit now).1 :=
  (drops_expire h ttl now ht).append (makesRoom_evict h ttl limit now ht).drops

theorem hasRoom_evict (h : WebHost τ) (ttl : Patience τ) (limit : Int) (now : τ)
    (ht : t.Aligned) : (t.evict h ttl limit now).1.hasRoom limit = true :=
  (makesRoom_evict h ttl limit now ht).hasRoom

/-! ### Requests -/

/-- Every request leaves the two tables with the same keys, whatever ids are issued. -/
theorem Aligned.answer (ht : t.Aligned) (h : WebHost τ) (now : τ) (request : Request) :
    (t.answer h now request).table.Aligned := by
  have hanswers := answers_answer h now t request
  generalize t.answer h now request = o at hanswers ⊢
  cases hanswers with
  | unknownProfile => exact ht
  | created _ hevict _ =>
    have hevicted := (drops_evict h h.ttl h.capacity now ht).invariant Aligned
      (fun _ id ht => ht.drop id) ht
    rw [hevict] at hevicted
    exact hevicted.add _ _ now
  | unknownSession _ _ htable =>
    rcases htable with rfl | rfl
    · exact ht
    · exact ht.drop _
  | entered hfind _ =>
    have hid := mem_ids_of_find? hfind
    exact (ht.touch hid now).update hid _
  | shown hfind => exact ht.touch (mem_ids_of_find? hfind) now
  | ended | deleted => exact ht.drop _

/-- So do any requests, one after the other. -/
theorem Aligned.after (ht : t.Aligned) (h : WebHost τ) (ms : List (Moment τ)) :
    (t.after h ms).Aligned := by
  induction ms generalizing t with
  | nil => exact ht
  | cons m rest ih => exact ih (ht.answer (h.dated m.date) m.now m.request)

end Rounds

end MissionConsole.SessionTable
