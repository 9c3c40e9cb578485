import MissionConsole.Proofs.Dispatch.Invocation
import MissionConsole.Proofs.Dispatch.Run
import MissionConsole.Proofs.Text.Lowering

/-!
# Ways out of a riddle

A riddle looks for its keywords in the lower-case form of an answer. If they are all lower-case
forms themselves, every answer that names them solves the riddle. If one of them is not, no answer
does: the keyword is found in no lower-case form, not even in that of an answer which holds it
letter for letter. Since a riddle that waits takes every line for an answer, the session is never
answered otherwise again.

## Main definitions

* `Riddle.NamedIn` — an answer names every keyword
* `Riddle.IsFair` — every keyword is its own lower-case form
* `Dispatcher.Solves` — a line solves the riddle that waits
* `Dispatcher.Traps` — no line ever solves it

## Main results

* `Riddle.solvedBy_of_namedIn`, `Riddle.isFair_of_solvedBy` — which riddles can be solved
* `Dispatcher.solves_or_traps` — a riddle is solved by its keywords, or it keeps its session
-/

namespace MissionConsole

/-! ### Keywords and answers -/

namespace Riddle

/-- The answer names every keyword, letter for letter. -/
def NamedIn (r : Riddle) (answer : String) : Prop :=
  ∀ k ∈ r.keywords, Text.contains answer k = true

/-- Every keyword is its own lower-case form. -/
def IsFair (r : Riddle) : Prop := ∀ k ∈ r.keywords, Text.lower k = k

instance (r : Riddle) (answer : String) : Decidable (r.NamedIn answer) :=
  inferInstanceAs (Decidable (∀ k ∈ r.keywords, Text.contains answer k = true))

instance (r : Riddle) : Decidable r.IsFair :=
  inferInstanceAs (Decidable (∀ k ∈ r.keywords, Text.lower k = k))

variable {r : Riddle} {answer : String}

theorem solvedBy_of_namedIn (hfair : r.IsFair) (hnamed : r.NamedIn answer) :
    r.solvedBy answer = true :=
  List.all_eq_true.2 fun k hk => Text.contains_lower (hfair k hk) (hnamed k hk)

/-- Only a fair riddle is ever solved. -/
theorem isFair_of_solvedBy (h : r.solvedBy answer = true) : r.IsFair :=
  fun k hk => Text.lower_eq_of_contains_lower (List.all_eq_true.1 h k hk)

/-- Every riddle has an answer that names its keywords: all of them in a row. A letter at each end
keeps the blanks of the keywords from being trimmed. -/
theorem exists_namedIn (r : Riddle) :
    ∃ line, Text.trim line ≠ "" ∧ r.NamedIn (Text.trim line) := by
  let row : List Char := 'x' :: (r.keywords.flatMap String.toList ++ ['x'])
  have hletter : Text.isBlank 'x' = false := by decide
  have hself : Text.trim (String.ofList row) = String.ofList row := by
    -- The letters stand first and last.
    rw [Text.trim, String.toList_ofList, Text.trimChars_eq_self]
    · simp [row, hletter]
    · intro c hc
      rw [List.getLast?_cons, List.getLast?_concat] at hc
      rw [← Option.some.inj hc]
      exact hletter
  refine ⟨String.ofList row, ?_, fun k hk => ?_⟩ <;> rw [hself]
  · intro hempty
    exact List.cons_ne_nil _ _ (String.ofList_eq_empty_iff.1 hempty)
  · rw [Text.contains, Text.containsChars_iff, String.toList_ofList]
    have hrow : k.toList <:+: r.keywords.flatMap String.toList := by
      obtain ⟨a, b, hsplit⟩ := List.append_of_mem hk
      rw [hsplit, List.flatMap_append, List.flatMap_cons, ← List.append_assoc]
      exact List.infix_append _ _ _
    exact hrow.trans (List.infix_append ['x'] _ ['x'])

end Riddle

/-! ### Lines while a riddle waits -/

namespace Dispatcher

/-- The line solves the riddle: it gets the line of success, unlocks what the riddle is for, and no
riddle waits any more. -/
structure Solves (d : Dispatcher) (files : Filesystem) (s : Session) (line : String) : Prop where
  reply : (d.dispatch files s line).reply =
    ⟨[d.profile.riddle.success], [.unlock d.profile.riddle.unlockId]⟩
  session : (d.dispatch files s line).session = { s with puzzleStage := Session.puzzleInactive }

/-- The riddle keeps the session: a line that is not blank gets the hint, and no lines change the
session. -/
structure Traps (d : Dispatcher) (files : Filesystem) (s : Session) : Prop where
  reply : ∀ line, Text.trim line ≠ "" →
    (d.dispatch files s line).reply = ⟨[d.profile.riddle.hint], []⟩
  session : ∀ inputs, d.after files s inputs = s

variable {d : Dispatcher} {files : Filesystem} {s : Session} {line : String}

theorem solves_of_solvedBy (hs : s.riddlePending = true) (hline : Text.trim line ≠ "")
    (hsolved : d.profile.riddle.solvedBy (Text.trim line) = true) : d.Solves files s line := by
  have hanswer : d.answerRiddle s (Text.trim line) =
      ⟨{ s with puzzleStage := Session.puzzleInactive },
        ⟨[d.profile.riddle.success], [.unlock d.profile.riddle.unlockId]⟩, []⟩ := by
    rw [answerRiddle]
    exact if_pos hsolved
  constructor
  · rw [dispatch_of_riddle hline hs, recorded_reply, hanswer]
  · rw [dispatch_of_riddle hline hs, recorded_session, hanswer]

/-- An answer to a riddle that is not fair is wrong. -/
theorem answerRiddle_of_not_isFair (hunfair : ¬d.profile.riddle.IsFair) :
    d.answerRiddle s line = ⟨s, ⟨[d.profile.riddle.hint], []⟩, []⟩ := by
  rw [answerRiddle]
  exact if_neg fun hsolved => hunfair (Riddle.isFair_of_solvedBy hsolved)

theorem session_step_of_not_isFair (hs : s.riddlePending = true)
    (hunfair : ¬d.profile.riddle.IsFair) (i : Input) : (d.step files s i).session = s := by
  -- The clock has no part in it: the riddle is that of the profile at any date.
  rw [step]
  by_cases hline : Text.trim i.line = ""
  · rw [dispatch_of_blank hline]
  · have hwrong : ¬(d.dated i.date).profile.riddle.IsFair := hunfair
    rw [dispatch_of_riddle hline hs, recorded_session, answerRiddle_of_not_isFair hwrong]

theorem traps_of_not_isFair (hs : s.riddlePending = true) (hunfair : ¬d.profile.riddle.IsFair) :
    d.Traps files s where
  reply line hline := by
    rw [dispatch_of_riddle hline hs, recorded_reply, answerRiddle_of_not_isFair hunfair]
  session inputs := by
    -- Each line finds the session as the first one has found it.
    induction inputs with
    | nil => rfl
    | cons i rest ih => rw [after_cons, session_step_of_not_isFair hs hunfair, ih]

/-- A riddle whose keywords are lower-case forms is solved by every line that names them. Any other
riddle has lines that name its keywords as well, but it keeps its session for good. -/
theorem solves_or_traps (d : Dispatcher) (files : Filesystem) (s : Session)
    (hs : s.riddlePending = true) :
    (d.profile.riddle.IsFair → ∀ line, Text.trim line ≠ "" →
        d.profile.riddle.NamedIn (Text.trim line) → d.Solves files s line) ∧
      (¬d.profile.riddle.IsFair → d.Traps files s ∧
        ∃ line, Text.trim line ≠ "" ∧ d.profile.riddle.NamedIn (Text.trim line)) :=
  ⟨fun hfair _ hline hnamed =>
      solves_of_solvedBy hs hline (Riddle.solvedBy_of_namedIn hfair hnamed),
    fun hunfair => ⟨traps_of_not_isFair hs hunfair, d.profile.riddle.exists_namedIn⟩⟩

/-- The riddle on the map is solved by its keywords; with a capital in one of them it is not. -/
theorem solves_or_traps_map :
    let p := Profile.map .standard
    let d := standard p [] (.ok "")
    let d' := standard { p with riddle := { p.riddle with keywords := ["Watch"] } } [] (.ok "")
    let s := { Session.fresh "id" "local" with puzzleStage := Session.puzzlePending }
    s.riddlePending = true ∧ d.Solves .empty s " watch the skies " ∧ d'.Traps .empty s := by
  intro p d d' s
  have hs : s.riddlePending = true := rfl
  refine ⟨hs, ?_, ?_⟩
  · exact (solves_or_traps d .empty s hs).1 (by decide) _ (by decide) (by decide)
  · exact ((solves_or_traps d' .empty s hs).2 (by decide)).1

/-- A keyword with a capital is named letter for letter, and the riddle goes on waiting. -/
theorem not_solves_of_capital :
    let p := Profile.map .standard
    let d := standard { p with riddle := { p.riddle with keywords := ["Watch"] } } [] (.ok "")
    let s := { Session.fresh "id" "local" with puzzleStage := Session.puzzlePending }
    s.riddlePending = true ∧ Text.trim "Watch the skies" ≠ "" ∧
      d.profile.riddle.NamedIn (Text.trim "Watch the skies") ∧
      (d.dispatch .empty s "Watch the skies").reply = ⟨[d.profile.riddle.hint], []⟩ ∧
      (d.dispatch .empty s "Watch the skies").session.riddlePending = true ∧
      ¬d.Solves .empty s "Watch the skies" := by
  intro p d s
  have hs : s.riddlePending = true := rfl
  have hline : Text.trim "Watch the skies" ≠ "" := by decide
  have hunfair : ¬d.profile.riddle.IsFair := by decide
  have hsession : (d.dispatch .empty s "Watch the skies").session = s := by
    rw [dispatch_of_riddle hline hs, recorded_session, answerRiddle_of_not_isFair hunfair]
  refine ⟨hs, hline, by decide, (traps_of_not_isFair hs hunfair).reply _ hline, ?_, fun h => ?_⟩
  · rw [hsession, hs]
  · exact absurd (congrArg Session.puzzleStage (hsession.symm.trans h.session)) (by decide)

end Dispatcher

end MissionConsole
