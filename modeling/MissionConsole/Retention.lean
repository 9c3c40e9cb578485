/-!
# Retention

A buffer with a limit keeps its newest entries. The limit is a setting and may be any whole number:
zero keeps everything, and a negative limit removes that many entries from the front.

## Main definitions

* `Retention.keep` — the entries that a limit keeps

## Main results

* `Retention.keep_suffix` — what is kept is the end of the buffer
* `Retention.length_keep` — a positive limit bounds the buffer
-/

namespace MissionConsole.Retention

variable {α : Type}

/-- The entries that a limit keeps: all of them when there are no more than the limit, the newest
ones under a positive limit, and all but the oldest `-limit` under a negative one. -/
def keep (limit : Int) (entries : List α) : List α :=
  if (entries.length : Int) ≤ limit then entries
  else if 0 < limit then entries.drop (entries.length - limit.toNat)
  else entries.drop (-limit).toNat

theorem keep_suffix (limit : Int) (entries : List α) : keep limit entries <:+ entries := by
  unfold keep
  split
  · exact List.suffix_refl _
  · split <;> exact List.drop_suffix _ _

@[simp] theorem keep_zero (entries : List α) : keep 0 entries = entries := by
  unfold keep
  split <;> simp

theorem length_keep {limit : Int} (h : 0 < limit) (entries : List α) :
    (keep limit entries).length = min limit.toNat entries.length := by
  unfold keep
  split
  · omega
  · rw [List.length_drop]
    omega

end MissionConsole.Retention
