import MissionConsole.Retention
import Mathlib.Data.List.DropRight

/-!
# The newest entries

Cutting a buffer each time that entries are added to it leaves the newest of all entries there have
been, for what an early cut removes would be removed by any later one.

## Main definitions

* `Retention.newest` — the entries that a limit leaves of all that there have been

## Main results

* `Retention.keep_eq_rtake` — a positive limit keeps the entries at the end
* `Retention.rtake_rtake_append` — an early cut makes no difference to a later one
* `Retention.keep_newest_append` — a buffer that is cut each time holds the newest entries
-/

namespace MissionConsole.Retention

variable {α : Type} {n : Nat} {limit : Int}

theorem keep_eq_rtake (h : 0 < limit) (entries : List α) :
    keep limit entries = entries.rtake limit.toNat := by
  rw [keep, List.rtake]
  split_ifs with hfits
  · have hnothing : entries.length - limit.toNat = 0 := by omega
    rw [hnothing, List.drop_zero]
  · rfl

/-- Entries may be cut before others are added to them as well as afterwards. -/
theorem rtake_rtake_append (n : Nat) (old new : List α) :
    (old.rtake n ++ new).rtake n = (old ++ new).rtake n := by
  -- Seen from the end, the new entries come first, and there is room for at most `n` old ones.
  have hless : n - new.reverse.length ≤ n := Nat.sub_le n _
  rw [List.rtake_eq_reverse_take_reverse, List.rtake_eq_reverse_take_reverse,
    List.rtake_eq_reverse_take_reverse, List.reverse_append, List.reverse_append,
    List.reverse_reverse, List.take_append, List.take_append, List.take_take, Nat.min_eq_left hless]

theorem length_rtake_le (n : Nat) (entries : List α) : (entries.rtake n).length ≤ n := by
  rw [List.rtake, List.length_drop]
  omega

/-- Where there is room for all entries, all of them are kept. -/
theorem rtake_of_length_le {entries : List α} (h : entries.length ≤ n) :
    entries.rtake n = entries := by
  rw [List.rtake, Nat.sub_eq_zero_of_le h, List.drop_zero]

/-- The newest entries, as many as the limit says; zero stands for all. -/
def newest (limit : Int) (entries : List α) : List α :=
  if limit = 0 then entries else entries.rtake limit.toNat

theorem newest_nil (limit : Int) : newest limit ([] : List α) = [] := by
  rw [newest, List.rtake_nil, ite_self]

/-- A buffer that is cut after each entry holds the newest of all entries. -/
theorem keep_newest_append (h : 0 ≤ limit) (old new : List α) :
    keep limit (newest limit old ++ new) = newest limit (old ++ new) := by
  by_cases hzero : limit = 0
  · rw [newest, newest, if_pos hzero, if_pos hzero, hzero, keep_zero]
  · have hpos : 0 < limit := by omega
    rw [newest, newest, if_neg hzero, if_neg hzero, keep_eq_rtake hpos, rtake_rtake_append]

end MissionConsole.Retention
