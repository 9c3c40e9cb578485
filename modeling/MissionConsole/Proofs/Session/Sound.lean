import MissionConsole.Proofs.Dispatch.Run

/-!
# Sound sessions

Five things hold of a session at any time: it stands in a directory, a riddle waits or does not, a
riddle and a password are never asked for at once, failed attempts stay below the threshold, and
root has none. They hold together or not at all: that a riddle waits excludes the password only
because each of the two takes the next line for itself.

## Main definitions

* `Session.Sound` — the five properties

## Main results

* `Session.Sound.fresh`, `Session.Sound.change` — a new session is sound, and a line keeps it so
-/

namespace MissionConsole.Session

/-- What holds of a session at any time. -/
structure Sound (p : Profile) (files : Filesystem) (s : Session) : Prop where
  cwd_canonical : Path.IsCanonical s.cwd
  cwd_directory : files.isDirectory s.cwd = true
  stage : s.puzzleStage = 0 ∨ s.puzzleStage = 1
  exclusive : ¬(s.riddlePending = true ∧ s.awaitingPassword = true)
  attempts_nonneg : 0 ≤ s.failedAttempts
  attempts_lt : s.failedAttempts < max 1 p.lockoutThreshold
  attempts_root : s.isRoot = true → s.failedAttempts = 0

variable {p : Profile} {files : Filesystem} {s after : Session} {line : String}

/-! ### Failed attempts -/

theorem zero_lt_max_one (p : Profile) : 0 < max 1 p.lockoutThreshold := by
  omega

theorem countFailure_nonneg (h : 0 ≤ s.failedAttempts) : 0 ≤ s.countFailure p := by
  rw [countFailure]
  split_ifs <;> omega

/-- One more failed attempt stays below the threshold or puts the count back. -/
theorem countFailure_lt (p : Profile) (s : Session) :
    s.countFailure p < max 1 p.lockoutThreshold := by
  rw [countFailure]
  split_ifs <;> omega

namespace Sound

theorem fresh (p : Profile) (files : Filesystem) (id origin : String) :
    (Session.fresh id origin).Sound p files where
  cwd_canonical := .inl rfl
  cwd_directory := files.isDirectory_root
  stage := .inl rfl
  exclusive := fun h => absurd h.1 Bool.false_ne_true
  attempts_nonneg := Int.le_refl 0
  attempts_lt := zero_lt_max_one p
  attempts_root := fun _ => rfl

theorem reset (p : Profile) (files : Filesystem) (s : Session) : s.reset.Sound p files :=
  fresh p files s.id s.origin

/-- The history is nobody's concern. -/
theorem record (h : s.Sound p files) (line : String) (limit : Int) :
    (s.record line limit).Sound p files :=
  ⟨h.cwd_canonical, h.cwd_directory, h.stage, h.exclusive, h.attempts_nonneg, h.attempts_lt,
    h.attempts_root⟩

/-- Whatever a line makes of a sound session is sound. -/
theorem change (h : s.Sound p files) (hchange : s.Change p files line after) :
    after.Sound p files := by
  cases hchange with
  | unchanged => exact h
  | asked hs =>
    -- Commands are taken only when no password is asked for.
    have hawaiting : s.awaitingPassword = false := (takesCommand_iff.1 hs).2
    exact
      { h with
        stage := .inr rfl
        exclusive := fun hboth => Bool.false_ne_true (hawaiting.symm.trans hboth.2) }
  | solved =>
    exact
      { h with
        stage := .inl rfl
        exclusive := fun hboth => absurd hboth.1 Bool.false_ne_true }
  | granted =>
    exact
      { h with
        exclusive := fun hboth => absurd hboth.2 Bool.false_ne_true
        attempts_nonneg := Int.le_refl 0
        attempts_lt := zero_lt_max_one p
        attempts_root := fun _ => rfl }
  | denied =>
    exact
      { h with
        exclusive := fun hboth => absurd hboth.2 Bool.false_ne_true
        attempts_nonneg := countFailure_nonneg h.attempts_nonneg
        attempts_lt := countFailure_lt p s
        attempts_root := fun hroot => absurd hroot Bool.false_ne_true }
  | challenged hs =>
    -- A riddle that waited would have taken the line.
    have hriddle : s.riddlePending = false := (takesCommand_iff.1 hs).1
    exact
      { h with
        exclusive := fun hboth => Bool.false_ne_true (hriddle.symm.trans hboth.1)
        attempts_root := fun hroot => absurd hroot Bool.false_ne_true }
  | moved _ path hpath hdir => exact { h with cwd_canonical := hpath, cwd_directory := hdir }

end Sound

end MissionConsole.Session
