/-!
# Keyed lists

Entries of a directory, fields of a value and the sessions of the web are kept by name, and the
order in which the names came first is seen in answers. A value that is set again keeps its place.

## Main definitions

* `Keyed` — values by their keys, in order
* `Keyed.keys` — the keys in order
* `Keyed.put` — a value set
* `Keyed.erase` — a key removed

## Main results

* `Keyed.lookup_put`, `Keyed.lookup_erase` — what is found under a key afterwards
* `Keyed.keys_put_of_mem`, `Keyed.keys_put_of_not_mem`, `Keyed.keys_erase` — the keys afterwards
-/

namespace MissionConsole

/-- Values by their keys, in the order in which the keys came first. -/
abbrev Keyed (α : Type) := List (String × α)

namespace Keyed

variable {α : Type}

/-- The keys in order. -/
def keys (m : Keyed α) : List String := m.map (·.1)

/-- Sets a value: a key that is there keeps its place, a new one comes last. -/
def put (m : Keyed α) (key : String) (value : α) : Keyed α :=
  if m.any (·.1 == key) then m.map fun e => if e.1 == key then (key, value) else e
  else m ++ [(key, value)]

/-- Removes a key. -/
def erase (m : Keyed α) (key : String) : Keyed α := m.filter (·.1 != key)

variable {m : Keyed α} {key other : String} {value : α}

/-! ### Keys -/

@[simp] theorem keys_nil : keys ([] : Keyed α) = [] := rfl

@[simp] theorem keys_cons (e : String × α) (m : Keyed α) : keys (e :: m) = e.1 :: keys m := rfl

@[simp] theorem keys_append (a b : Keyed α) : keys (a ++ b) = keys a ++ keys b := List.map_append

@[simp] theorem length_keys (m : Keyed α) : m.keys.length = m.length := List.length_map _

theorem mem_keys_of_mem {e : String × α} (h : e ∈ m) : e.1 ∈ m.keys := List.mem_map_of_mem h

theorem mem_keys_iff_any : key ∈ m.keys ↔ m.any (·.1 == key) = true := by
  simp [keys]

theorem lookup_cons (e : String × α) (m : Keyed α) (key : String) :
    List.lookup key (e :: m) = if key = e.1 then some e.2 else m.lookup key := by
  rw [List.lookup_cons]
  by_cases h : key = e.1
  · simp [h]
  · rw [if_neg h, beq_false_of_ne h]

theorem lookup_eq_none_iff : m.lookup key = none ↔ key ∉ m.keys := by
  induction m with
  | nil => simp
  | cons e m ih =>
    rw [lookup_cons, keys_cons, List.mem_cons]
    by_cases h : key = e.1
    · simp [h]
    · rw [if_neg h, ih, or_iff_right h]

theorem mem_of_lookup (h : m.lookup key = some value) : (key, value) ∈ m := by
  obtain ⟨before, after, rfl, -⟩ := List.lookup_eq_some_iff.1 h
  simp

theorem exists_lookup_of_mem (h : key ∈ m.keys) : ∃ value, m.lookup key = some value := by
  cases hfound : m.lookup key with
  | none => exact absurd h (lookup_eq_none_iff.1 hfound)
  | some value => exact ⟨value, rfl⟩

theorem mem_keys_of_lookup (h : m.lookup key = some value) : key ∈ m.keys :=
  mem_keys_of_mem (mem_of_lookup h)

/-! ### Setting a value -/

theorem put_of_mem (h : key ∈ m.keys) :
    m.put key value = m.map fun e => if e.1 == key then (key, value) else e :=
  if_pos (mem_keys_iff_any.1 h)

theorem put_of_not_mem (h : key ∉ m.keys) : m.put key value = m ++ [(key, value)] :=
  if_neg fun hany => h (mem_keys_iff_any.2 hany)

theorem keys_put_of_mem (h : key ∈ m.keys) : (m.put key value).keys = m.keys := by
  rw [put_of_mem h, keys, keys, List.map_map]
  apply List.map_congr_left
  intro e _
  by_cases hkey : e.1 = key <;> simp [hkey]

theorem keys_put_of_not_mem (h : key ∉ m.keys) : (m.put key value).keys = m.keys ++ [key] := by
  rw [put_of_not_mem h, keys_append]
  rfl

theorem mem_put {e : String × α} (h : e ∈ m.put key value) : e = (key, value) ∨ e ∈ m := by
  by_cases hkey : key ∈ m.keys
  · rw [put_of_mem hkey, List.mem_map] at h
    obtain ⟨x, hx, rfl⟩ := h
    by_cases hx' : x.1 = key
    · exact .inl (by simp [hx'])
    · exact .inr (by simpa [hx'] using hx)
  · rw [put_of_not_mem hkey, List.mem_append, List.mem_singleton] at h
    exact h.symm

theorem nodup_keys_put (h : m.keys.Nodup) (key : String) (value : α) :
    (m.put key value).keys.Nodup := by
  by_cases hkey : key ∈ m.keys
  · rwa [keys_put_of_mem hkey]
  · rw [keys_put_of_not_mem hkey]
    refine List.nodup_append.2 ⟨h, by simp, fun other hother last hlast => ?_⟩
    rw [List.mem_singleton.1 hlast]
    exact fun heq => hkey (heq ▸ hother)

/-- Setting values that are there changes what is found under their key alone. -/
theorem lookup_replace (m : Keyed α) (key other : String) (value : α) :
    List.lookup other (m.map fun e => if e.1 == key then (key, value) else e) =
      if other = key then (m.lookup key).map fun _ => value else m.lookup other := by
  induction m with
  | nil => simp
  | cons e m ih =>
    rw [List.map_cons, lookup_cons, lookup_cons, lookup_cons, ih]
    by_cases hkey : e.1 = key
    · by_cases hother : other = key <;> simp [hkey, hother]
    · by_cases hother : other = key
      · simp [hkey, hother, Ne.symm hkey]
      · simp [hkey, hother]

theorem lookup_put (m : Keyed α) (key other : String) (value : α) :
    (m.put key value).lookup other = if other = key then some value else m.lookup other := by
  by_cases hkey : key ∈ m.keys
  · obtain ⟨old, hold⟩ := exists_lookup_of_mem hkey
    rw [put_of_mem hkey, lookup_replace, hold]
    rfl
  · have hnone : m.lookup key = none := lookup_eq_none_iff.2 hkey
    rw [put_of_not_mem hkey, List.lookup_append, lookup_cons, List.lookup_nil]
    by_cases hother : other = key
    · simp [hother, hnone]
    · simp [hother]

/-- Replacing a value by itself changes nothing. -/
theorem replace_eq_self (h : ∀ e ∈ m, e.1 = key → e = (key, value)) :
    (m.map fun e => if e.1 == key then (key, value) else e) = m := by
  have hsame : ∀ e ∈ m, (if e.1 == key then (key, value) else e) = id e := by
    intro e he
    by_cases hkey : e.1 = key
    · rw [if_pos (beq_iff_eq.2 hkey), ← h e he hkey, id]
    · rw [if_neg (mt beq_iff_eq.1 hkey), id]
  rw [List.map_congr_left hsame, List.map_id]

/-- Of two values set for one key the second is kept. -/
theorem put_put (m : Keyed α) (key : String) (first second : α) :
    (m.put key first).put key second = m.put key second := by
  by_cases hkey : key ∈ m.keys
  · have hput : key ∈ (m.put key first).keys := keys_put_of_mem hkey ▸ hkey
    rw [put_of_mem hput, put_of_mem hkey, put_of_mem hkey, List.map_map]
    refine List.map_congr_left fun e _ => ?_
    by_cases he : e.1 = key <;> simp [he]
  · have hput : key ∈ (m.put key first).keys := by
      rw [keys_put_of_not_mem hkey]
      exact List.mem_append_right _ List.mem_cons_self
    have hold : (m.map fun e => if e.1 == key then (key, second) else e) = m :=
      replace_eq_self fun e he heq => absurd (heq ▸ mem_keys_of_mem he) hkey
    rw [put_of_mem hput, put_of_not_mem hkey, put_of_not_mem hkey, List.map_append, hold]
    simp

/-- Setting what is there already changes nothing, as long as no key is there twice. -/
theorem put_of_lookup (hnodup : m.keys.Nodup) (h : m.lookup key = some value) :
    m.put key value = m := by
  rw [put_of_mem (mem_keys_of_lookup h)]
  obtain ⟨before, after, rfl, hbefore⟩ := List.lookup_eq_some_iff.1 h
  rw [keys_append, keys_cons, List.nodup_append] at hnodup
  obtain ⟨-, hrest, -⟩ := hnodup
  refine replace_eq_self fun e he heq => ?_
  rcases List.mem_append.1 he with he | he
  · exact absurd (beq_iff_eq.2 heq.symm) (by simpa using hbefore e he)
  · rcases List.mem_cons.1 he with rfl | he
    · rfl
    · have hkey : key ∈ keys after := by
        rw [← heq]
        exact mem_keys_of_mem he
      exact absurd hkey (List.nodup_cons.1 hrest).1

/-! ### Removing a key -/

theorem keys_erase (m : Keyed α) (key : String) :
    (m.erase key).keys = m.keys.filter (· != key) := by
  rw [erase, keys, keys, List.filter_map]
  rfl

theorem not_mem_keys_erase (m : Keyed α) (key : String) : key ∉ (m.erase key).keys := by
  rw [keys_erase, List.mem_filter]
  simp

theorem lookup_erase (m : Keyed α) (key other : String) :
    (m.erase key).lookup other = if other = key then none else m.lookup other := by
  by_cases hother : other = key
  · rw [if_pos hother, hother]
    exact lookup_eq_none_iff.2 (not_mem_keys_erase m key)
  · rw [if_neg hother]
    induction m with
    | nil => rfl
    | cons e m ih =>
      rw [lookup_cons, ← ih, erase, List.filter_cons]
      by_cases hkey : e.1 = key
      · simp [hkey, hother, erase]
      · simp [hkey, lookup_cons, erase]

/-- Removing what is not there changes nothing. -/
theorem erase_of_not_mem (h : key ∉ m.keys) : m.erase key = m := by
  refine List.filter_eq_self.2 fun e he => bne_iff_ne.2 ?_
  rintro rfl
  exact h (mem_keys_of_mem he)

/-- What is removed may as well not have been set before. -/
theorem erase_put (m : Keyed α) (key : String) (value : α) :
    (m.put key value).erase key = m.erase key := by
  by_cases hkey : key ∈ m.keys
  · rw [put_of_mem hkey, erase, erase]
    clear hkey
    induction m with
    | nil => rfl
    | cons e m ih =>
      by_cases he : e.1 = key <;> simpa [he] using ih
  · rw [put_of_not_mem hkey, erase, erase, List.filter_append]
    simp

theorem mem_of_mem_erase {e : String × α} (h : e ∈ m.erase key) : e ∈ m := (List.mem_filter.1 h).1

theorem length_erase_le (m : Keyed α) (key : String) : (m.erase key).length ≤ m.length :=
  List.length_filter_le _ m

theorem length_erase_lt (h : key ∈ m.keys) : (m.erase key).length < m.length := by
  obtain ⟨e, he, rfl⟩ := List.mem_map.1 h
  exact List.length_filter_lt_length_iff_exists.2 ⟨e, he, by simp⟩

end Keyed

end MissionConsole
