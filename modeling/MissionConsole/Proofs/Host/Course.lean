import MissionConsole.Proofs.Host.Keys
import MissionConsole.Proofs.Host.Shell

/-!
# The course of a remote visit

A remote visit goes on key by key, with the clocks read anew for each line. A key is added to the
line, or completes it so that it is submitted, or makes the visitor leave. What comes of a visit
therefore splits at any point: the keys up to there lead to a shell, if the visit is not over, and
the keys behind it go on from that shell, whatever they are.

## Main definitions

* `RemoteShell.Pressed`, `RemoteShell.press` — what one key leads to
* `RemoteShell.after` — the shell after some keys
* `RemoteShell.served` — a visit up to its end
* `RemoteShell.Round`, `RemoteShell.rounds` — the lines that are submitted, with the keys that each
  has cost

## Main results

* `RemoteShell.served_still`, `RemoteShell.rounds_entered` — where the clocks stand still, this is
  the remote shell, and the lines are those that it enters
* `RemoteShell.served_append` — a visit splits at any point
* `RemoteShell.after_invariant` — what every key keeps, every visit keeps
* `RemoteShell.length_rounds_le` — every line costs a key of its own that completes it
-/

namespace MissionConsole.RemoteShell

variable {τ : Type} [Timescale τ] {c : Console} {s t : RemoteShell τ} {clock later : Clock τ}
  {r : Reading τ} {fault : Option Fault} {b : UInt8} {rest before more : List UInt8}

/-! ### One key -/

/-- What a key leads to. -/
inductive Pressed (τ : Type) where
  /-- The line goes on. -/
  | typing (s : RemoteShell τ)
  /-- A line was submitted. -/
  | entered (x : Entered τ) (s : RemoteShell τ) (next : Next)
  /-- The visitor leaves. -/
  | left

/-- Presses a key, at a moment of the clocks. -/
def press (c : Console) (r : Reading τ) (s : RemoteShell τ) (b : UInt8) : Pressed τ :=
  match s.editor.feed b with
  | .more e sent => .typing { s with editor := e, sent := s.sent ++ sent }
  | .leave => .left
  | .line text sent afterReturn =>
    let x : Entered τ := ⟨text, s.overlay.submit (c.dated r.date) r.now text⟩
    let out := s.submit (c.dated r.date) r.now text sent afterReturn
    .entered x out.1 out.2

/-- The shell after some keys, and what the clocks show then, unless the visit is over. -/
def after (c : Console) (s : RemoteShell τ) (clock : Clock τ) :
    List UInt8 → Option (RemoteShell τ × Clock τ)
  | [] => some (s, clock)
  | b :: rest =>
    match s.press c clock.reading b with
    | .typing s => after c s clock rest
    | .entered _ s .goOn => after c s clock.later rest
    | .entered _ _ .leave => none
    | .entered _ _ (.fail _) => none
    | .left => none

/-- A visit up to its end. -/
def served (c : Console) (fault : Option Fault) (s : RemoteShell τ) (clock : Clock τ) :
    List UInt8 → Served τ
  | [] => s.exhausted c fault
  | b :: rest =>
    match s.press c clock.reading b with
    | .typing s => served c fault s clock rest
    | .entered _ s .goOn => served c fault s clock.later rest
    | .entered _ s .leave => s.finish c rest
    | .entered _ s (.fail f) => s.abandon f rest
    | .left => s.finish c rest

/-- A line that was submitted, with the keys from which it was read. -/
structure Round (τ : Type) extends Entered τ where
  keys : List UInt8

/-- The lines that are submitted, when some keys of the first one have been read already. -/
def rounds (c : Console) (s : RemoteShell τ) (clock : Clock τ) (read : List UInt8) :
    List UInt8 → List (Round τ)
  | [] => []
  | b :: rest =>
    match s.press c clock.reading b with
    | .typing s => rounds c s clock (read ++ [b]) rest
    | .entered x s .goOn => ⟨x, read ++ [b]⟩ :: rounds c s clock.later [] rest
    | .entered x _ .leave => [⟨x, read ++ [b]⟩]
    | .entered x _ (.fail _) => [⟨x, read ++ [b]⟩]
    | .left => []

/-- The line goes on after a key if the editor goes on with it. -/
theorem feed_of_typing (h : s.press c r b = .typing t) :
    ∃ e sent, s.editor.feed b = .more e sent ∧
      t = { s with editor := e, sent := s.sent ++ sent } := by
  rw [press] at h
  cases hfeed : s.editor.feed b with
  | more e sent =>
    rw [hfeed] at h
    exact ⟨e, sent, rfl, (Pressed.typing.inj h).symm⟩
  | leave | line =>
    rw [hfeed] at h
    exact absurd h nofun

/-- A line is submitted after a key if the editor has completed it. -/
theorem feed_of_entered {x : Entered τ} {next : Next} (h : s.press c r b = .entered x t next) :
    ∃ text sent afterReturn, s.editor.feed b = .line text sent afterReturn ∧
      x = ⟨text, s.overlay.submit (c.dated r.date) r.now text⟩ ∧
      s.submit (c.dated r.date) r.now text sent afterReturn = (t, next) := by
  rw [press] at h
  cases hfeed : s.editor.feed b with
  | more | leave =>
    rw [hfeed] at h
    exact absurd h nofun
  | line text sent afterReturn =>
    rw [hfeed] at h
    obtain ⟨hx, ht, hnext⟩ := Pressed.entered.inj h
    exact ⟨text, sent, afterReturn, rfl, hx.symm, Prod.ext ht hnext⟩

theorem journal_typing (h : s.press c r b = .typing t) : t.journal = s.journal := by
  obtain ⟨e, sent, -, rfl⟩ := feed_of_typing h
  rfl

/-- What is logged of a line is added to the journal, whatever the line leads to. -/
theorem journal_entered {x : Entered τ} {next : Next} (h : s.press c r b = .entered x t next) :
    t.journal = s.journal ++ x.submission.journal := by
  obtain ⟨text, sent, afterReturn, -, rfl, hsubmit⟩ := feed_of_entered h
  have hjournal := journal_submit (c.dated r.date) r.now s text sent afterReturn
  rwa [hsubmit] at hjournal

/-- A line fails with what gets out of it. -/
theorem escaped_of_fail {t : RemoteShell τ} {now : τ} {line sent : String} {afterReturn : Bool}
    {f : Fault} (h : s.submit c now line sent afterReturn = (t, .fail f)) :
    (s.overlay.submit c now line).escaped = some f := by
  cases hescaped : (s.overlay.submit c now line).escaped with
  | some g =>
    rw [submit, hescaped] at h
    obtain rfl := Next.fail.inj (congrArg Prod.snd h)
    rfl
  | none =>
    obtain ⟨s', hanswered, -⟩ := submit_of_answered hescaped sent afterReturn
    have hnext := congrArg Prod.snd (h.symm.trans hanswered)
    dsimp only at hnext
    -- A line that is answered goes on or leaves.
    split_ifs at hnext

/-! ### The remote shell goes this course -/

/-- Where the clocks stand still, the visit is the run of the shell. -/
theorem served_still (c : Console) (now : τ) (fault : Option Fault) (s : RemoteShell τ)
    (bytes : List UInt8) :
    s.served c fault (.still ⟨now, c.dispatcher.clock⟩) bytes = s.run c now fault bytes := by
  induction bytes generalizing s with
  | nil => rfl
  | cons b rest ih =>
    rw [served, run, press, Clock.reading_still, Clock.later_still]
    cases s.editor.feed b with
    | more e sent => exact ih _
    | leave => rfl
    | line text sent afterReturn =>
      dsimp only
      rw [Console.dated_clock]
      obtain ⟨s', next⟩ := s.submit c now text sent afterReturn
      cases next with
      | goOn => exact ih s'
      | leave | fail => rfl

/-- The lines are those that the shell enters. -/
theorem rounds_entered (c : Console) (s : RemoteShell τ) (clock : Clock τ)
    (read bytes : List UInt8) :
    (s.rounds c clock read bytes).map Round.toEntered = s.entered c clock bytes := by
  -- The keys that were read already belong to the next round, whose line they do not change.
  induction bytes generalizing s clock read with
  | nil => rfl
  | cons b rest ih =>
    rw [rounds, entered, press]
    cases s.editor.feed b with
    | more e sent => exact ih _ _ _
    | leave => rfl
    | line text sent afterReturn =>
      dsimp only
      obtain ⟨s', next⟩ := s.submit (c.dated clock.reading.date) clock.reading.now text sent
        afterReturn
      cases next with
      | goOn => exact congrArg (List.cons _) (ih _ _ _)
      | leave | fail => rfl

/-- The journal is that of the lines. -/
theorem journal_served (c : Console) (fault : Option Fault) (s : RemoteShell τ) (clock : Clock τ)
    (read bytes : List UInt8) :
    (s.served c fault clock bytes).journal =
      s.journal ++ (s.rounds c clock read bytes).flatMap (·.submission.journal) := by
  induction bytes generalizing s clock read with
  | nil => exact (journal_exhausted c fault s).trans (List.append_nil _).symm
  | cons b rest ih =>
    rw [served, rounds]
    cases hpress : s.press c clock.reading b with
    | typing s' =>
      have hmore := ih s' clock (read ++ [b])
      rwa [journal_typing hpress] at hmore
    | entered x s' next =>
      have hjournal := journal_entered hpress
      cases next with
      | goOn =>
        have hmore := ih s' clock.later []
        rwa [hjournal, List.append_assoc] at hmore
      | leave | fail =>
        rw [List.flatMap_singleton]
        exact hjournal
    | left => exact (List.append_nil _).symm

/-! ### Splitting a visit -/

/-- A visit that goes on beyond a key either goes on with the line, or has submitted it. -/
theorem after_cons (h : s.after c clock (b :: rest) = some (t, later)) :
    (∃ s', s.press c clock.reading b = .typing s' ∧ s'.after c clock rest = some (t, later)) ∨
      ∃ x s', s.press c clock.reading b = .entered x s' .goOn ∧
        s'.after c clock.later rest = some (t, later) := by
  rw [after] at h
  cases hpress : s.press c clock.reading b with
  | typing s' =>
    rw [hpress] at h
    exact .inl ⟨s', rfl, h⟩
  | entered x s' next =>
    rw [hpress] at h
    cases next with
    | goOn => exact .inr ⟨x, s', rfl, h⟩
    | leave | fail => exact absurd h nofun
  | left =>
    rw [hpress] at h
    exact absurd h nofun

theorem after_nil (h : s.after c clock [] = some (t, later)) : s = t ∧ clock = later :=
  Prod.mk.inj (Option.some.inj h)

/-- A visit goes on from the shell that some keys have led to. -/
theorem served_append (h : s.after c clock before = some (t, later)) :
    s.served c fault clock (before ++ rest) = t.served c fault later rest := by
  induction before generalizing s clock with
  | nil =>
    obtain ⟨rfl, rfl⟩ := after_nil h
    rfl
  | cons b before ih =>
    rw [List.cons_append, served]
    obtain ⟨s', hpress, hafter⟩ | ⟨x, s', hpress, hafter⟩ := after_cons h
    · rw [hpress]
      exact ih hafter
    · rw [hpress]
      exact ih hafter

/-- What every key keeps, a visit keeps as long as it goes on. -/
theorem after_invariant (Holds : RemoteShell τ → Prop)
    (htyping : ∀ (s s' : RemoteShell τ) (r : Reading τ) (b : UInt8), Holds s →
      s.press c r b = .typing s' → Holds s')
    (hentered : ∀ (s s' : RemoteShell τ) (r : Reading τ) (b : UInt8) (x : Entered τ), Holds s →
      s.press c r b = .entered x s' .goOn → Holds s')
    (hs : Holds s) (h : s.after c clock before = some (t, later)) : Holds t := by
  induction before generalizing s clock with
  | nil =>
    obtain ⟨rfl, -⟩ := after_nil h
    exact hs
  | cons b before ih =>
    obtain ⟨s', hpress, hafter⟩ | ⟨x, s', hpress, hafter⟩ := after_cons h
    · exact ih (htyping s s' _ b hs hpress) hafter
    · exact ih (hentered s s' _ b x hs hpress) hafter

/-! ### What lines cost -/

/-- Only a key that completes a line submits one. -/
theorem endsLine_of_press {x : Entered τ} {next : Next} (h : s.press c r b = .entered x t next) :
    LineEditor.EndsLine b := by
  obtain ⟨text, sent, afterReturn, hfeed, -⟩ := feed_of_entered h
  exact LineEditor.endsLine_of_feed hfeed

/-- A line was submitted when its last key was pressed. -/
theorem press_of_mem_rounds {x : Round τ} {read bytes : List UInt8}
    (h : x ∈ s.rounds c clock read bytes) :
    ∃ (s' t : RemoteShell τ) (r : Reading τ) (typed : List UInt8) (key : UInt8) (next : Next),
      s'.press c r key = .entered x.toEntered t next ∧ x.keys = typed ++ [key] := by
  induction bytes generalizing s clock read with
  | nil => exact absurd h List.not_mem_nil
  | cons b rest ih =>
    rw [rounds] at h
    cases hpress : s.press c clock.reading b with
    | typing s' =>
      rw [hpress] at h
      exact ih h
    | entered y s' next =>
      have hfirst : s.press c clock.reading b = .entered y s' next ∧ read ++ [b] = read ++ [b] :=
        ⟨hpress, rfl⟩
      rw [hpress] at h
      cases next with
      | goOn =>
        obtain rfl | hlater := List.mem_cons.1 h
        · exact ⟨s, s', clock.reading, read, b, .goOn, hfirst⟩
        · exact ih hlater
      | leave | fail =>
        obtain rfl := List.mem_singleton.1 h
        exact ⟨s, s', clock.reading, read, b, _, hfirst⟩
    | left =>
      rw [hpress] at h
      exact absurd h List.not_mem_nil

/-- The last key of a line is the one that has completed it. -/
theorem endsLine_of_mem_rounds {x : Round τ} {read bytes : List UInt8}
    (h : x ∈ s.rounds c clock read bytes) :
    ∃ typed key, x.keys = typed ++ [key] ∧ LineEditor.EndsLine key := by
  obtain ⟨s', t, r, typed, key, next, hpress, hkeys⟩ := press_of_mem_rounds h
  exact ⟨typed, key, hkeys, endsLine_of_press hpress⟩

/-- A line was submitted on the overlay as it stood then. -/
theorem submission_of_mem_rounds {x : Round τ} {read bytes : List UInt8}
    (h : x ∈ s.rounds c clock read bytes) :
    ∃ (o : Overlay τ) (r : Reading τ), x.submission = o.submit (c.dated r.date) r.now x.line := by
  obtain ⟨s', t, r, typed, key, next, hpress, -⟩ := press_of_mem_rounds h
  obtain ⟨text, sent, afterReturn, -, hx, -⟩ := feed_of_entered hpress
  refine ⟨s'.overlay, r, ?_⟩
  simp only [hx]

/-- The lines are read from the keys in order, each of them once. -/
theorem keys_rounds_prefix (c : Console) (s : RemoteShell τ) (clock : Clock τ)
    (read bytes : List UInt8) :
    (s.rounds c clock read bytes).flatMap (·.keys) <+: read ++ bytes := by
  induction bytes generalizing s clock read with
  | nil => exact List.nil_prefix
  | cons b rest ih =>
    -- The key that is pressed counts among those that were read.
    have hsplit : read ++ b :: rest = (read ++ [b]) ++ rest := List.append_cons read b rest
    rw [rounds, hsplit]
    cases s.press c clock.reading b with
    | typing s' => exact ih s' clock (read ++ [b])
    | entered x s' next =>
      cases next with
      | goOn =>
        rw [List.flatMap_cons, List.prefix_append_right_inj]
        exact ih s' clock.later []
      | leave | fail =>
        rw [List.flatMap_singleton]
        exact List.prefix_append _ _
    | left => exact List.nil_prefix

/-- Every line costs a key of its own that completes it. -/
theorem length_rounds_le (c : Console) (s : RemoteShell τ) (clock : Clock τ)
    (read bytes : List UInt8) :
    (s.rounds c clock read bytes).length ≤ bytes.countP (LineEditor.EndsLine ·) := by
  induction bytes generalizing s clock read with
  | nil => exact Nat.le_refl 0
  | cons b rest ih =>
    rw [rounds, List.countP_cons]
    cases hpress : s.press c clock.reading b with
    | typing s' => exact (ih s' clock (read ++ [b])).trans (Nat.le_add_right _ _)
    | entered x s' next =>
      rw [if_pos (decide_eq_true (endsLine_of_press hpress))]
      cases next with
      | goOn => exact Nat.succ_le_succ (ih s' clock.later [])
      | leave | fail => exact Nat.succ_le_succ (Nat.zero_le _)
    | left => exact Nat.zero_le _

end MissionConsole.RemoteShell
