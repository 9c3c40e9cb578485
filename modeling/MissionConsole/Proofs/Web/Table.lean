import MissionConsole.Proofs.Overlay.Submission
import MissionConsole.Proofs.Web.Eviction
import Mathlib.Data.List.Induction

/-!
# The two tables

The overlays and the times of their last use are kept in two tables, and every kind of request
changes one of them or both. They always have the same keys, each of which is the id of the session
under it; no time is later than the clock; and there are never more sessions than may be. So when
room has to be made there is always a session that was used least recently.

## Main definitions

* `SessionTable.Sound` — what holds of the two tables at any time

## Main results

* `SessionTable.Sound.answer` — every request keeps the tables sound
* `SessionTable.table_invariant` — they are sound after any requests, and making room works on them
-/

namespace MissionConsole.SessionTable

variable {τ : Type}

/-- What holds of the two tables at any time, with the readings of the clock so far. -/
structure Sound (newId : Nat → String) (capacity : Int) (readings : List τ) (t : SessionTable τ) :
    Prop extends Aligned t where
  own : ∀ e ∈ t.sessions, e.2.id = e.1
  issued : ∀ id ∈ t.ids, ∃ n < t.issued, newId n = id
  read : ∀ e ∈ t.lastUsed, e.2 ∈ readings
  capacity_le : (t.sessions.length : Int) ≤ max 1 capacity

namespace Sound

variable {newId : Nat → String} {capacity : Int} {readings : List τ} {t : SessionTable τ}
  {id : String} {e : Entry τ} {now : τ}

theorem empty (newId : Nat → String) (capacity : Int) :
    (empty : SessionTable τ).Sound newId capacity [] where
  toAligned := .empty
  own := List.forall_mem_nil _
  issued := List.forall_mem_nil _
  read := List.forall_mem_nil _
  capacity_le := by
    rw [SessionTable.empty, List.length_nil]
    omega

theorem id_eq (ht : t.Sound newId capacity readings) (hfind : t.find? id = some e) : e.id = id :=
  ht.own (id, e) (Keyed.mem_of_lookup hfind)

/-- The id that is issued next is not in the table. -/
theorem newId_not_mem (ht : t.Sound newId capacity readings) (hfresh : Function.Injective newId) :
    newId t.issued ∉ t.ids := by
  intro hid
  obtain ⟨n, hn, hsame⟩ := ht.issued _ hid
  exact Nat.ne_of_lt hn (hfresh hsame)

/-! ### Changes -/

/-- Time goes on. -/
theorem later (ht : t.Sound newId capacity readings) (now : τ) :
    t.Sound newId capacity (readings ++ [now]) :=
  { ht with read := fun e he => List.mem_append_left _ (ht.read e he) }

theorem drop (ht : t.Sound newId capacity readings) (id : String) :
    (t.drop id).Sound newId capacity readings where
  toAligned := ht.toAligned.drop id
  own e he := ht.own e (Keyed.mem_of_mem_erase he)
  issued other hother := by
    rw [ids, SessionTable.drop, Keyed.keys_erase] at hother
    exact ht.issued other (List.mem_filter.1 hother).1
  read e he := ht.read e (Keyed.mem_of_mem_erase he)
  capacity_le := by
    have hlength : (t.drop id).sessions.length ≤ t.sessions.length :=
      Keyed.length_erase_le t.sessions id
    have hcapacity := ht.capacity_le
    omega

theorem touch (ht : t.Sound newId capacity readings) (hid : id ∈ t.ids) (hnow : now ∈ readings) :
    (t.touch id now).Sound newId capacity readings where
  toAligned := ht.toAligned.touch hid now
  own := ht.own
  issued := ht.issued
  read e he := by
    rcases Keyed.mem_put he with rfl | hold
    · exact hnow
    · exact ht.read e hold
  capacity_le := ht.capacity_le

theorem update (ht : t.Sound newId capacity readings) (hid : id ∈ t.ids) (he : e.id = id) :
    (t.update id e).Sound newId capacity readings := by
  have hids : (t.update id e).ids = t.ids := Keyed.keys_put_of_mem hid
  have hlength : (t.update id e).sessions.length = t.sessions.length := by
    rw [← Keyed.length_keys, ← Keyed.length_keys]
    exact congrArg List.length hids
  exact
    { toAligned := ht.toAligned.update hid e
      own := fun x hx => (Keyed.mem_put hx).elim (fun hnew => hnew ▸ he) (ht.own x)
      issued := hids ▸ ht.issued
      read := ht.read
      capacity_le := hlength ▸ ht.capacity_le }

/-- A session that is added under the next id fits in where there is room. -/
theorem add (ht : t.Sound newId capacity readings) (hfresh : Function.Injective newId)
    (hroom : t.hasRoom capacity = true) (hid : newId t.issued = id) (he : e.id = id)
    (hnow : now ∈ readings) : (t.add id e now).Sound newId capacity readings := by
  have hnew : id ∉ t.ids := hid ▸ ht.newId_not_mem hfresh
  have hids : (t.add id e now).ids = t.ids ++ [id] := Keyed.keys_put_of_not_mem hnew
  refine ⟨ht.toAligned.add id e now, fun x hx => ?_, fun other hother => ?_, fun x hx => ?_, ?_⟩
  · rcases Keyed.mem_put hx with rfl | hold
    · exact he
    · exact ht.own x hold
  · rw [hids, List.mem_append, List.mem_singleton] at hother
    rcases hother with hold | rfl
    · obtain ⟨n, hn, hsame⟩ := ht.issued other hold
      exact ⟨n, Nat.lt_succ_of_lt hn, hsame⟩
    · exact ⟨t.issued, Nat.lt_succ_self _, hid⟩
  · rcases Keyed.mem_put hx with rfl | hold
    · exact hnow
    · exact ht.read x hold
  · -- There was nothing, or less than the limit; one more is at most the limit, or the only one.
    have hlength : (t.add id e now).sessions.length = t.sessions.length + 1 := by
      rw [← Keyed.length_keys, ← Keyed.length_keys]
      simpa [ids] using congrArg List.length hids
    rw [hasRoom, Bool.or_eq_true, List.isEmpty_iff_length_eq_zero, decide_eq_true_eq] at hroom
    rw [hlength]
    omega

end Sound

/-! ### Requests -/

section Requests

variable [Timescale τ] {h : WebHost τ} {readings : List τ} {t : SessionTable τ} {now : τ}

theorem Sound.evict (ht : t.Sound h.newId h.capacity readings) (ttl : Patience τ) (limit : Int)
    (now : τ) : (t.evict h ttl limit now).1.Sound h.newId h.capacity readings :=
  (drops_evict h ttl limit now ht.toAligned).invariant (Sound h.newId h.capacity readings)
    (fun _ id ht => ht.drop id) ht

/-- A line does not change whose session it is. -/
theorem Entry.next_id (hd : ∀ p, (h.console p).dispatcher.registry = .standard) (e : Entry τ)
    (line : String) : (e.next h now line).id = e.id := by
  simp only [Entry.id, Entry.next, Entry.submit]
  exact Overlay.submit_id (hd e.profile)

/-- Every request keeps the tables sound. -/
theorem Sound.answer (ht : t.Sound h.newId h.capacity readings)
    (hd : ∀ p, (h.console p).dispatcher.registry = .standard)
    (hfresh : Function.Injective h.newId) (hnow : now ∈ readings) (request : Request) :
    (t.answer h now request).table.Sound h.newId h.capacity readings := by
  have hanswers := answers_answer h now t request
  generalize t.answer h now request = o at hanswers ⊢
  cases hanswers with
  | unknownProfile => exact ht
  | created _ hevict hid =>
    -- Eviction leaves room, and the next id is not in use.
    have hevicted := ht.evict h.ttl h.capacity now
    have hroom := hasRoom_evict h h.ttl h.capacity now ht.toAligned
    rw [hevict] at hevicted hroom
    exact hevicted.add hfresh hroom hid rfl hnow
  | unknownSession _ _ htable =>
    rcases htable with rfl | rfl
    · exact ht
    · exact ht.drop _
  | ended => exact ht.drop _
  | entered hfind _ =>
    -- Both tables change, but neither of them under a new key.
    have hid := mem_ids_of_find? hfind
    exact (ht.touch hid hnow).update hid ((Entry.next_id hd _ _).trans (ht.id_eq hfind))
  | shown hfind => exact ht.touch (mem_ids_of_find? hfind) hnow
  | deleted => exact ht.drop _

theorem Sound.step (ht : t.Sound h.newId h.capacity readings)
    (hd : ∀ p, (h.console p).dispatcher.registry = .standard)
    (hfresh : Function.Injective h.newId) (m : Moment τ) :
    (t.step h m).table.Sound h.newId h.capacity (readings ++ [m.now]) := by
  have hnow : m.now ∈ readings ++ [m.now] := List.mem_append_right _ (List.mem_singleton_self _)
  -- The date of the moment changes neither the ids nor the limit.
  exact (ht.later m.now).answer (h := h.dated m.date) hd hfresh hnow m.request

/-- The tables are sound after any requests. -/
theorem sound_after (h : WebHost τ) (hd : ∀ p, (h.console p).dispatcher.registry = .standard)
    (hfresh : Function.Injective h.newId) (ms : List (Moment τ)) :
    ((empty : SessionTable τ).after h ms).Sound h.newId h.capacity (ms.map (·.now)) := by
  induction ms using List.reverseRecOn with
  | nil => exact .empty _ _
  | append_singleton ms m ih =>
    rw [after_concat, List.map_append]
    exact ih.step hd hfresh m

/-- After any requests, at any values of the limits and with ids that are not issued twice, the two
tables have the same keys, each of them once and each the id of its own session; no session was used
later than now, if the clock does not go back; and there are no more sessions than may be. Whenever
room has to be made, each round finds a session that was used least recently, and the rounds end. -/
theorem table_invariant (h : WebHost τ)
    (hd : ∀ p, (h.console p).dispatcher.registry = .standard)
    (hfresh : Function.Injective h.newId) (ms : List (Moment τ)) (now : τ)
    (hclock : ∀ m ∈ ms, Timescale.before now m.now = false) :
    let t := (empty : SessionTable τ).after h ms
    t.lastUsed.keys = t.sessions.keys ∧ t.sessions.keys.Nodup ∧
      (∀ e ∈ t.sessions, e.2.overlay.session.id = e.1) ∧
      (∀ e ∈ t.lastUsed, Timescale.before now e.2 = false) ∧
      (t.sessions.length : Int) ≤ max 1 h.capacity ∧
      ∀ (ttl : Patience τ) (limit : Int) (later : τ),
        ∃ gone, MakesRoom h limit (t.expire h ttl later).1 gone (t.evict h ttl limit later).1 := by
  intro t
  have ht := sound_after h hd hfresh ms
  refine ⟨ht.keys_eq, ht.nodup, ht.own, fun e he => ?_, ht.capacity_le, fun ttl limit later => ?_⟩
  · obtain ⟨m, hm, hread⟩ := List.mem_map.1 (ht.read e he)
    rw [← hread]
    exact hclock m hm
  · exact ⟨_, makesRoom_evict h ttl limit later ht.toAligned⟩

/-- Where less than no session may be, there is still one at a time. -/
theorem table_invariant_negative :
    let h := WebHost.sample (-3)
    let ms : List (Moment Int) :=
      [⟨.create "map" "web", 0, .ok ""⟩, ⟨.command "" "login", 10, .ok ""⟩,
        ⟨.create "briefing" "web", 20, .ok ""⟩, ⟨.get "", 30, .ok ""⟩, ⟨.delete "i", 30, .ok ""⟩,
        ⟨.create "map" "web", 90000, .ok ""⟩]
    (∀ p, (h.console p).dispatcher.registry = .standard) ∧ Function.Injective h.newId ∧
      (∀ m ∈ ms, Timescale.before 90000 m.now = false) ∧
      (((empty : SessionTable Int).after h ms).sessions.length : Int) ≤ 1 := by
  intro h ms
  have hd := WebHost.sample_registry (-3)
  have hfresh := WebHost.sample_newId_injective (-3)
  have hclock : ∀ m ∈ ms, Timescale.before 90000 m.now = false := by decide
  exact ⟨hd, hfresh, hclock, (table_invariant h hd hfresh ms 90000 hclock).2.2.2.2.1⟩

end Requests

end MissionConsole.SessionTable
