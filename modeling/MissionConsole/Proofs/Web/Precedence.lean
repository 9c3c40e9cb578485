import MissionConsole.Proofs.Web.Expiry
import Mathlib.Algebra.Order.Group.Int
import Mathlib.Order.Defs.LinearOrder

/-!
# Who has to go first

On a clock that counts exactly it can be told who leaves the table when room is made, and in which
order. First go all sessions that have been idle for too long, as they stand in the table. Of the
others as many go as there are too many for one more, and these are the ones that were used least
recently; of two that were used at the same time, the one that stands first in the table goes first.
Who stays, stays as it is. Being used moves no session to another place in the table, so the order
of the table is that in which the sessions were added.

Floating-point seconds are no such clock: a reading that is no number comes neither before nor
behind any other one.

## Main definitions

* `ExactTimescale` — a scale on which time is counted exactly
* `SessionTable.GoesBefore` — a session was used before another one, or at the same time and stands
  before it
* `SessionTable.without` — a table less some sessions
* `SessionTable.EvictsExactly` — what eviction drops, what it leaves and what it records

## Main results

* `SessionTable.exists_split_of_oldest` — where the session stands that was used least recently
* `SessionTable.MakesRoom.goesBefore`, `SessionTable.MakesRoom.length_eq` — who goes to make room,
  and how many
* `SessionTable.Drops.eq_without` — what drops leave
* `SessionTable.eviction_exact` — eviction after any requests
-/

namespace MissionConsole

/-! ### Exact time -/

/-- A scale on which time is counted exactly: its readings are in order, and a count of seconds is a
duration among others. -/
class ExactTimescale (τ : Type) extends Timescale τ, LinearOrder τ where
  /-- The duration of a count of seconds. -/
  ofSeconds : Int → τ
  before_eq (a b : τ) : before a b = decide (a < b)
  exceedsSeconds_eq (d : τ) (n : Int) : exceedsSeconds d n = decide (ofSeconds n < d)

instance : ExactTimescale Int where
  ofSeconds n := n * 1000
  before_eq _ _ := rfl
  exceedsSeconds_eq _ _ := rfl

/-- The longest duration that is allowed. -/
def Patience.most {τ : Type} [ExactTimescale τ] : Patience τ → τ
  | .seconds n => ExactTimescale.ofSeconds n
  | .duration d => d

theorem Patience.exceededBy_eq {τ : Type} [ExactTimescale τ] (p : Patience τ) (d : τ) :
    p.exceededBy d = decide (p.most < d) := by
  cases p with
  | seconds n => exact ExactTimescale.exceedsSeconds_eq d n
  | duration most => exact ExactTimescale.before_eq most d

/-- Where each key is there once, removing one of them makes the list shorter by one. -/
theorem Keyed.length_erase_add_one {α : Type} {m : Keyed α} {key : String}
    (hnodup : m.keys.Nodup) (hkey : key ∈ m.keys) : (m.erase key).length + 1 = m.length := by
  rw [← length_keys, keys_erase, ← hnodup.erase_eq_filter, List.length_erase_of_mem hkey,
    ← length_keys m]
  exact Nat.sub_add_cancel (List.length_pos_of_mem hkey)

namespace SessionTable

variable {τ : Type}

/-! ### What drops leave -/

/-- A table less some sessions. The others keep their overlays, their times and their order. -/
def without (t : SessionTable τ) (gone : List String) : SessionTable τ :=
  { t with
    sessions := t.sessions.filter fun e => e.1 ∉ gone
    lastUsed := t.lastUsed.filter fun e => e.1 ∉ gone }

namespace Drops

variable {h : WebHost τ} {t t' : SessionTable τ} {gone : List (Removal τ)} {id : String}

theorem mem_ids_of_mem (hdrops : Drops h t gone t') : ∀ r ∈ gone, r.id ∈ t.ids := by
  intro r hr
  by_contra hid
  exact (hdrops.of_find?_eq_none (find?_eq_none_iff.2 hid)).2 r hr rfl

theorem mem_ids_of_mem_ids (hdrops : Drops h t gone t') (hid : id ∈ t'.ids) : id ∈ t.ids := by
  by_contra hnone
  exact find?_eq_none_iff.1 (hdrops.of_find?_eq_none (find?_eq_none_iff.2 hnone)).1 hid

/-- Nobody is dropped twice. -/
theorem nodup_ids (hdrops : Drops h t gone t') : (gone.map (·.id)).Nodup := by
  induction hdrops with
  | none => exact List.nodup_nil
  | @drop t t' reason id e more _ _ rest ih =>
    rw [List.map_cons, List.nodup_cons]
    refine ⟨fun hmem => ?_, ih⟩
    obtain ⟨r, hr, hsame⟩ := List.mem_map.1 hmem
    have hid := rest.mem_ids_of_mem r hr
    rw [hsame] at hid
    exact Keyed.not_mem_keys_erase t.sessions id hid

/-- Whoever is dropped was in the table, and its overlay is closed. -/
theorem eq_remove (hdrops : Drops h t gone t') :
    ∀ r ∈ gone, ∃ e, t.find? r.id = some e ∧ r = remove h r.reason r.id e := by
  induction hdrops with
  | none => exact List.forall_mem_nil _
  | @drop t t' reason id e more _ hfind _ ih =>
    refine List.forall_mem_cons.2 ⟨⟨e, hfind, rfl⟩, fun r hr => ?_⟩
    obtain ⟨last, hlast, hremove⟩ := ih r hr
    rw [find?_drop] at hlast
    split_ifs at hlast
    exact ⟨last, hlast, hremove⟩

theorem length_eq (hdrops : Drops h t gone t') (ht : t.Aligned) :
    t'.sessions.length + gone.length = t.sessions.length := by
  induction hdrops with
  | none => rfl
  | @drop t t' reason id e more _ hfind _ ih =>
    have hshorter : (t.drop id).sessions.length + 1 = t.sessions.length :=
      Keyed.length_erase_add_one ht.nodup (mem_ids_of_find? hfind)
    rw [List.length_cons, ← hshorter, ← ih (ht.drop id)]
    rfl

/-- What is left is the table less those who were dropped. -/
theorem eq_without (hdrops : Drops h t gone t') : t' = t.without (gone.map (·.id)) := by
  induction hdrops with
  | @none t => simp [without]
  | @drop t t' reason id e more _ _ _ ih =>
    have hfilter : ∀ {α : Type} (m : Keyed α),
        (m.erase id).filter (fun e => e.1 ∉ more.map (·.id)) =
          m.filter fun e => e.1 ∉ id :: more.map (·.id) := by
      intro α m
      rw [Keyed.erase, List.filter_filter]
      refine List.filter_congr fun e _ => ?_
      by_cases hsame : e.1 = id <;> simp [hsame]
    rw [ih, List.map_cons, without, without, SessionTable.drop]
    simp only [hfilter]
    rfl

end Drops

/-- Sessions that are in the table and differ are dropped in the order in which they are named. -/
theorem map_id_dropAll {h : WebHost τ} {reason : Reason} {gone : List String} (hnodup : gone.Nodup)
    {t : SessionTable τ} (hids : ∀ id ∈ gone, id ∈ t.ids) :
    (t.dropAll h reason gone).2.map (·.id) = gone := by
  induction gone generalizing t with
  | nil => rfl
  | cons id rest ih =>
    obtain ⟨hid, hrest⟩ := List.nodup_cons.1 hnodup
    obtain ⟨e, hfind⟩ := exists_find?_of_mem (hids id List.mem_cons_self)
    have hothers : ∀ other ∈ rest, other ∈ (t.drop id).ids := by
      intro other hother
      have hne : other ≠ id := fun hsame => hid (hsame ▸ hother)
      rw [mem_ids_iff, find?_drop, if_neg hne]
      exact exists_find?_of_mem (hids other (List.mem_cons_of_mem id hother))
    simp only [dropAll, hfind, Option.map_some, Option.toList_some, List.singleton_append,
      List.map_cons, ih hrest hothers]
    rfl

section Exact

variable [ExactTimescale τ] {h : WebHost τ} {limit : Int} {t t' : SessionTable τ}
  {gone : List (Removal τ)} {id a b : String}

/-! ### The least recently used session -/

/-- The fold keeps the first one of those with the smallest time. -/
theorem foldl_oldest_split (first : String × τ) (rest : Keyed τ) :
    let best := rest.foldl (fun best x => if Timescale.before x.2 best.2 then x else best) first
    ∃ before after, first :: rest = before ++ best :: after ∧
      (∀ e ∈ before, best.2 < e.2) ∧ ∀ e ∈ after, best.2 ≤ e.2 := by
  induction rest using List.reverseRecOn with
  | nil => exact ⟨[], [], rfl, List.forall_mem_nil _, List.forall_mem_nil _⟩
  | append_singleton rest x ih =>
    obtain ⟨before, after, hsplit, hbefore, hafter⟩ := ih
    rw [List.foldl_append, List.foldl_cons, List.foldl_nil, ExactTimescale.before_eq,
      ← List.cons_append, hsplit]
    generalize rest.foldl (fun best x => if Timescale.before x.2 best.2 then x else best) first =
      best at hbefore hafter ⊢
    simp only [decide_eq_true_eq]
    split_ifs with hless
    · -- The new one was used before all others, for each of them is no earlier than the best.
      refine ⟨before ++ best :: after, [], rfl, fun e he => ?_, List.forall_mem_nil _⟩
      rcases List.mem_append.1 he with he | he
      · exact hless.trans (hbefore e he)
      · rcases List.mem_cons.1 he with rfl | he
        · exact hless
        · exact hless.trans_le (hafter e he)
    · refine ⟨before, after ++ [x], by simp, hbefore, fun e he => ?_⟩
      rcases List.mem_append.1 he with he | he
      · exact hafter e he
      · rw [List.mem_singleton.1 he]
        exact not_lt.1 hless

/-- The session that was used least recently: those before it in the table were used later, and
those behind it not earlier. -/
theorem exists_split_of_oldest {lastUsed : Keyed τ} (holdest : oldest? lastUsed = some id) :
    ∃ before used after, lastUsed = before ++ (id, used) :: after ∧
      (∀ e ∈ before, used < e.2) ∧ ∀ e ∈ after, used ≤ e.2 := by
  cases lastUsed with
  | nil => exact absurd holdest nofun
  | cons first rest =>
    obtain ⟨before, after, hsplit, hbefore, hafter⟩ := foldl_oldest_split first rest
    rw [← Option.some.inj holdest]
    exact ⟨before, _, after, hsplit, hbefore, hafter⟩

/-! ### Who goes before whom -/

/-- A session was used before another one, or at the same time and it stands before it in the
table. -/
def GoesBefore (t : SessionTable τ) (a b : String) : Prop :=
  ∃ used other, t.lastUsed.lookup a = some used ∧ t.lastUsed.lookup b = some other ∧
    (used < other ∨ used = other ∧ [a, b].Sublist t.ids)

/-- Dropping a session changes nothing between the others. -/
theorem GoesBefore.of_drop (hgoes : (t.drop id).GoesBefore a b) : t.GoesBefore a b := by
  obtain ⟨used, other, ha, hb, horder⟩ := hgoes
  have hsublist : (t.drop id).ids.Sublist t.ids := by
    rw [ids, drop, Keyed.keys_erase]
    exact List.filter_sublist
  exact ⟨used, other, (lookup_lastUsed_drop ha).2, (lookup_lastUsed_drop hb).2,
    horder.imp_right fun hsame => ⟨hsame.1, hsame.2.trans hsublist⟩⟩

theorem GoesBefore.of_drops (hdrops : Drops h t gone t') (hgoes : t'.GoesBefore a b) :
    t.GoesBefore a b := by
  induction hdrops with
  | none => exact hgoes
  | drop _ _ _ ih => exact (ih hgoes).of_drop

/-- The session that was used least recently goes before every other one. -/
theorem goesBefore_of_oldest (ht : t.Aligned) (holdest : oldest? t.lastUsed = some a)
    (hb : b ∈ t.ids) (hne : b ≠ a) : t.GoesBefore a b := by
  obtain ⟨before, used, after, hsplit, hbefore, hafter⟩ := exists_split_of_oldest holdest
  obtain ⟨other, hother⟩ := Keyed.exists_lookup_of_mem (ht.keys_eq ▸ hb : b ∈ t.lastUsed.keys)
  have hused : t.lastUsed.lookup a = some used := by
    obtain ⟨found, hfound⟩ := Keyed.exists_lookup_of_mem (oldest?_mem holdest)
    have hin : (a, used) ∈ t.lastUsed := by simp [hsplit]
    have hnodup : t.lastUsed.keys.Nodup := ht.keys_eq ▸ ht.nodup
    have hsame := List.inj_on_of_nodup_map hnodup (Keyed.mem_of_lookup hfound) hin rfl
    rw [hfound, (Prod.mk.inj hsame).2]
  refine ⟨used, other, hused, hother, ?_⟩
  have hin := Keyed.mem_of_lookup hother
  rw [hsplit, List.mem_append, List.mem_cons] at hin
  rcases hin with hin | hin | hin
  · exact .inl (hbefore _ hin)
  · exact absurd (Prod.mk.inj hin).1 hne
  · -- Of those that stand behind it, one may have been used at the same time.
    refine (hafter _ hin).lt_or_eq.imp_right fun hsame => ⟨hsame, ?_⟩
    have hbehind : [(a, used), (b, other)].Sublist t.lastUsed := by
      rw [hsplit]
      exact ((List.singleton_sublist.2 hin).cons_cons _).trans (List.sublist_append_right _ _)
    rw [← ht.keys_eq]
    exact hbehind.map Prod.fst

/-! ### The rounds -/

/-- Those who go to make room go in order, and before all who stay. -/
theorem MakesRoom.goesBefore (hrounds : MakesRoom h limit t gone t') (ht : t.Aligned) :
    gone.Pairwise (fun r later => t.GoesBefore r.id later.id) ∧
      ∀ r ∈ gone, ∀ id ∈ t'.ids, t.GoesBefore r.id id := by
  induction hrounds with
  | done => exact ⟨.nil, List.forall_mem_nil _⟩
  | @round t t' id e more _ holdest _ rest ih =>
    obtain ⟨hpairwise, hstay⟩ := ih (ht.drop id)
    have hfirst : ∀ other ∈ (t.drop id).ids, t.GoesBefore id other := by
      intro other hother
      rw [ids, drop, Keyed.keys_erase, List.mem_filter, bne_iff_ne] at hother
      exact goesBefore_of_oldest ht holdest hother.1 hother.2
    -- Whoever goes later, or stays, is still there when the first one has gone.
    refine ⟨List.pairwise_cons.2 ⟨fun r hr => ?_, hpairwise.imp .of_drop⟩,
      List.forall_mem_cons.2 ⟨fun other hother => ?_, fun r hr other hother => ?_⟩⟩
    · exact hfirst _ (rest.drops.mem_ids_of_mem r hr)
    · exact hfirst _ (rest.drops.mem_ids_of_mem_ids hother)
    · exact (hstay r hr other hother).of_drop

/-- As many go as there are too many for one more. -/
theorem MakesRoom.length_eq (hrounds : MakesRoom h limit t gone t') (ht : t.Aligned) :
    (gone.length : Int) =
      max 0 (min (t.sessions.length : Int) (t.sessions.length - limit + 1)) := by
  induction hrounds with
  | @done t hroom =>
    rw [SessionTable.hasRoom, Bool.or_eq_true, List.isEmpty_iff_length_eq_zero,
      decide_eq_true_eq] at hroom
    rw [List.length_nil]
    omega
  | @round t t' id e more hfull _ hfind _ ih =>
    have hshorter : (t.drop id).sessions.length + 1 = t.sessions.length :=
      Keyed.length_erase_add_one ht.nodup (mem_ids_of_find? hfind)
    have hmore := ih (ht.drop id)
    rw [SessionTable.hasRoom, Bool.or_eq_false_iff, decide_eq_false_iff_not] at hfull
    obtain ⟨-, hlimit⟩ := hfull
    rw [List.length_cons]
    omega

/-! ### Eviction -/

/-- The idle sessions are dropped as they stand in the table. -/
theorem map_id_expire (ht : t.Aligned) (ttl : Patience τ) (now : τ) :
    (t.expire h ttl now).2.map (·.id) =
      Keyed.keys (t.lastUsed.filter fun e => ttl.most < now - e.2) := by
  have hidle : t.idle ttl now = Keyed.keys (t.lastUsed.filter fun e => ttl.most < now - e.2) := by
    simp only [idle, Patience.exceededBy_eq]
  rw [← hidle]
  exact map_id_dropAll (ht.nodup.sublist (idle_sublist ht ttl now))
    fun _ hid => (idle_sublist ht ttl now).subset hid

/-- Those who make room once the idle ones are gone go in order, and before all who stay. The order
is that of the table before both. -/
theorem goesBefore_evict (ht : t.Aligned) (h : WebHost τ) (ttl : Patience τ) (limit : Int)
    (now : τ) :
    ((t.expire h ttl now).1.makeRoom h limit).2.Pairwise
        (fun r later => t.GoesBefore r.id later.id) ∧
      ∀ r ∈ ((t.expire h ttl now).1.makeRoom h limit).2, ∀ id ∈ (t.evict h ttl limit now).1.ids,
        t.GoesBefore r.id id := by
  have hexpired := drops_expire h ttl now ht
  obtain ⟨hpairwise, hstay⟩ :=
    (makesRoom_evict h ttl limit now ht).goesBefore (aligned_expire h ttl now ht)
  exact ⟨hpairwise.imp (.of_drops hexpired),
    fun r hr id hid => .of_drops hexpired (hstay r hr id hid)⟩

/-- Eviction drops some sessions as expired and then others as evicted, and leaves a table. -/
structure EvictsExactly (h : WebHost τ) (ttl : Patience τ) (limit : Int) (now : τ)
    (t : SessionTable τ) (expired evicted : List (Removal τ)) (left : SessionTable τ) : Prop where
  /-- Those that have been idle for longer than they may go as expired, as they stand in the
  table. -/
  expired_eq : expired.map (·.id) = Keyed.keys (t.lastUsed.filter fun e => ttl.most < now - e.2)
  reasons : (∀ r ∈ expired, r.reason = .expired) ∧ ∀ r ∈ evicted, r.reason = .evicted
  /-- Of the remaining ones as many go as there are too many for one more. -/
  length_eq : let remaining : Int := t.sessions.length - expired.length
    (evicted.length : Int) = max 0 (min remaining (remaining - limit + 1))
  /-- They go in the order of their last use, -/
  inOrder : evicted.Pairwise fun r later => t.GoesBefore r.id later.id
  /-- and all of them before those who stay. -/
  beforeStaying : ∀ r ∈ evicted, ∀ id ∈ left.ids, t.GoesBefore r.id id
  /-- Whoever stays keeps its overlay, its time and its place. -/
  left_eq : left = t.without ((expired ++ evicted).map (·.id))
  /-- Whoever goes has its overlay closed. -/
  closed : ∀ r ∈ expired ++ evicted, ∃ e, t.find? r.id = some e ∧ r = remove h r.reason r.id e
  /-- Nobody goes twice, -/
  nodup : ((expired ++ evicted).map (·.id)).Nodup
  /-- and of each one there is one record, with its reason. -/
  records_eq : (Journal.records ((expired ++ evicted).map Removal.record)).map
      (fun r => (r.eventType, r.sessionId?, r.reason?)) =
    (expired ++ evicted).map fun r => ("session_close", some r.id, some r.reason.name)

/-- Eviction of a table whose two parts have the same keys. -/
theorem Aligned.evictsExactly (ht : t.Aligned) (h : WebHost τ) (ttl : Patience τ) (limit : Int)
    (now : τ) :
    EvictsExactly h ttl limit now t (t.expire h ttl now).2
      ((t.expire h ttl now).1.makeRoom h limit).2 (t.evict h ttl limit now).1 where
  expired_eq := map_id_expire ht ttl now
  reasons := ⟨fun r hr => (of_mem_dropAll r hr).2, (makesRoom_evict h ttl limit now ht).reason_eq⟩
  length_eq := by
    have hlength := (makesRoom_evict h ttl limit now ht).length_eq (aligned_expire h ttl now ht)
    have hexpired := (drops_expire h ttl now ht).length_eq ht
    rw [hlength, ← hexpired]
    push_cast
    simp only [add_sub_cancel_right]
  inOrder := (goesBefore_evict ht h ttl limit now).1
  beforeStaying := (goesBefore_evict ht h ttl limit now).2
  left_eq := (drops_evict h ttl limit now ht).eq_without
  closed := (drops_evict h ttl limit now ht).eq_remove
  nodup := (drops_evict h ttl limit now ht).nodup_ids
  records_eq := by
    rw [Removal.records_map_record, List.map_map]
    rfl

/-- After any requests, for every allowed idle time, every limit and every reading of an exact
clock: eviction drops whom it should, in the order in which it should, and leaves the others alone.
The creation of a session evicts at the limits of the host, and what is recorded of it comes before
the record of the session that it creates. -/
theorem eviction_exact (h : WebHost τ) (ms : List (Moment τ)) (ttl : Patience τ) (limit : Int)
    (now : τ) :
    let t := (empty : SessionTable τ).after h ms
    (∃ expired evicted, (t.evict h ttl limit now).2 = expired ++ evicted ∧
      EvictsExactly h ttl limit now t expired evicted (t.evict h ttl limit now).1) ∧
    ∀ (profile origin : String) (p : Profile), h.profiles profile = .ok p →
      ∃ id, (t.create h now profile origin).journal =
        (t.evict h h.ttl h.capacity now).2.map Removal.record ++
          [.record (opening origin id p.name)] := by
  intro t
  refine ⟨⟨_, _, rfl, (Aligned.empty.after h ms).evictsExactly h ttl limit now⟩, ?_⟩
  intro profile origin p hprofile
  exact ⟨_, by rw [create, hprofile]; rfl⟩

end Exact

/-- Four sessions are created, two of them at the same time. One has been idle for more than a
minute; two of the other three have to make room, and the first two are those that go. -/
theorem eviction_exact_tie :
    let h := WebHost.sample 10
    let ms : List (Moment Int) :=
      [⟨.create "map" "web", 0, .ok ""⟩, ⟨.create "map" "web", 50000, .ok ""⟩,
        ⟨.create "map" "web", 50000, .ok ""⟩, ⟨.create "map" "web", 50010, .ok ""⟩]
    let t := (empty : SessionTable Int).after h ms
    ∃ expired evicted, (t.evict h (.seconds 60) 2 60500).2 = expired ++ evicted ∧
      expired.map (·.id) = [""] ∧ evicted.length = 2 ∧
      (t.evict h (.seconds 60) 2 60500).1.ids = ["iii"] := by
  intro h ms t
  obtain ⟨⟨expired, evicted, hgone, hexact⟩, -⟩ := eviction_exact h ms (.seconds 60) 2 60500
  have hexpired : expired.map (·.id) = [""] := hexact.expired_eq.trans (by decide +kernel)
  have hlength := hexact.length_eq
  have hfour : ((empty : SessionTable Int).after h ms).sessions.length = 4 := by decide +kernel
  rw [hfour, ← List.length_map Removal.id, hexpired] at hlength
  exact ⟨expired, evicted, hgone, hexpired, Int.ofNat.inj hlength, by decide +kernel⟩

end SessionTable

end MissionConsole
