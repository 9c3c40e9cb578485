import MissionConsole.Proofs.Host.Screen

/-!
# Control sequences

A terminal sends a control sequence for many of its keys: the escape byte, a bracket, and a body of
parameter bytes, intermediate bytes and one final byte. The editor looks at the first byte of the
body only. It takes that byte, and one more if it is a digit, for the whole body. What the body has
beyond that is typed into the line, like any other keys.

So a sequence is discarded, wherever it stands between two keystrokes, exactly if its body is no
longer than the editor expects. An arrow that is sent with a modifier has a longer one, and leaves
its end in the line.

## Main definitions

* `ControlSequence` — a control sequence by its parts
* `ControlSequence.leaked` — the bytes that the editor takes for keys
* `LineEditor.outcomes` — how readings end, and what they send
* `LineEditor.Reaches` — where a reader stands behind some bytes
* `LineEditor.Gap` — a place between two keystrokes
* `ControlSequence.Discarded` — nothing is read or sent otherwise wherever the sequence is put

## Main results

* `LineEditor.Reaches.seen_congr` — a reader who stands at one place sees only what follows there
* `ControlSequence.feedAll_taken` — what the editor takes of a sequence means nothing to it
* `ControlSequence.discarded_iff_fits` — what is left is typed, so only short sequences are
  discarded
-/

namespace MissionConsole

/-! ### Sequences -/

/-- A control sequence by its parts. -/
structure ControlSequence where
  parameters : List UInt8
  intermediates : List UInt8
  final : UInt8
  parameters_range : ∀ b ∈ parameters, 0x30 ≤ b ∧ b ≤ 0x3f
  intermediates_range : ∀ b ∈ intermediates, 0x20 ≤ b ∧ b ≤ 0x2f
  final_range : 0x40 ≤ final ∧ final ≤ 0x7e

namespace ControlSequence

/-- What stands behind the bracket. -/
def body (s : ControlSequence) : List UInt8 := s.parameters ++ s.intermediates ++ [s.final]

/-- The sequence as it is sent. -/
def bytes (s : ControlSequence) : List UInt8 := 0x1b :: 0x5b :: s.body

/-- One of the two sequences that walk through the history. -/
def IsArrow (s : ControlSequence) : Prop := ∃ a : Arrow, s.body = [a.byte]

/-- The bytes behind those that the editor takes for the body. -/
def leaked (s : ControlSequence) : List UInt8 :=
  match s.body with
  | [] => []
  | b :: rest => if 0x30 ≤ b ∧ b ≤ 0x39 then rest.tail else rest

/-- The body is as long as the editor expects: there is nothing in it but the final byte, or one
digit before it. -/
def Fits (s : ControlSequence) : Prop :=
  s.intermediates = [] ∧
    (s.parameters = [] ∨ ∃ d : UInt8, (0x30 ≤ d ∧ d ≤ 0x39) ∧ s.parameters = [d])

variable {s : ControlSequence} {b : UInt8} {rest : List UInt8}

/-- Only the final byte has the range of final bytes. -/
theorem lt_of_body_eq (h : s.body = b :: rest) (hrest : rest ≠ []) : b < 0x40 := by
  rw [body] at h
  cases hparameters : s.parameters with
  | cons p ps =>
    rw [hparameters] at h
    obtain rfl : p = b := (List.cons.inj h).1
    have hp := s.parameters_range p (by simp [hparameters])
    exact UInt8.lt_of_le_of_lt hp.2 (by decide)
  | nil =>
    cases hintermediates : s.intermediates with
    | cons i is =>
      rw [hparameters, hintermediates] at h
      obtain rfl : i = b := (List.cons.inj h).1
      have hi := s.intermediates_range i (by simp [hintermediates])
      exact UInt8.lt_of_le_of_lt hi.2 (by decide)
    | nil =>
      rw [hparameters, hintermediates] at h
      exact absurd (List.cons.inj h).2.symm hrest

theorem eq_final_of_body_eq (h : s.body = [b]) : b = s.final := by
  have hlast := congrArg List.getLast? h
  rw [body, List.getLast?_concat, List.getLast?_singleton] at hlast
  exact (Option.some.inj hlast).symm

theorem body_ne_nil (s : ControlSequence) : s.body ≠ [] := List.concat_ne_nil _ _

/-- All bytes of a body are those of visible characters. -/
theorem range_of_mem_body (hb : b ∈ s.body) : 0x20 ≤ b ∧ b ≤ 0x7e := by
  rw [body, List.mem_append, List.mem_append, List.mem_singleton] at hb
  rcases hb with (hb | hb) | rfl
  · obtain ⟨hge, hle⟩ := s.parameters_range b hb
    exact ⟨UInt8.le_trans (by decide) hge, UInt8.le_trans hle (by decide)⟩
  · obtain ⟨hge, hle⟩ := s.intermediates_range b hb
    exact ⟨hge, UInt8.le_trans hle (by decide)⟩
  · obtain ⟨hge, hle⟩ := s.final_range
    exact ⟨UInt8.le_trans (by decide) hge, hle⟩

theorem leaked_suffix (s : ControlSequence) : s.leaked <:+ s.body := by
  rw [leaked]
  cases s.body with
  | nil => exact List.suffix_refl _
  | cons b rest =>
    dsimp only
    split_ifs
    · exact (List.tail_suffix rest).trans (List.suffix_cons b rest)
    · exact List.suffix_cons b rest

/-- Nothing is left exactly if the body is as long as the editor expects. -/
theorem leaked_eq_nil_iff : s.leaked = [] ↔ s.Fits := by
  rw [leaked, Fits, body]
  cases hparameters : s.parameters with
  | nil =>
    cases hintermediates : s.intermediates with
    | nil => simp
    | cons i is =>
      -- An intermediate byte is no digit, so that the final byte is left.
      have hi := (s.intermediates_range i (by simp [hintermediates])).2
      have hdigit : ¬(0x30 ≤ i ∧ i ≤ 0x39) := fun h =>
        absurd (UInt8.le_trans h.1 hi) (by decide)
      simp [hdigit]
  | cons p ps =>
    by_cases hdigit : 0x30 ≤ p ∧ p ≤ 0x39
    · -- Behind a digit one more byte is taken, and that is the final byte or there is one left.
      have htail : (ps ++ s.intermediates ++ [s.final]).tail = [] ↔
          ps ++ s.intermediates = [] := by
        cases ps ++ s.intermediates with
        | nil => simp
        | cons b rest => simp
      simp [hdigit, -List.append_assoc, htail, and_comm]
    · simp [hdigit]

end ControlSequence

/-! ### Readings as they are seen -/

namespace LineEditor

/-- How a reading ends, and what it sends. -/
def Reading.outcome (r : Reading) : Ending × String := (r.ending, r.sent)

/-- How readings end, and what they send. -/
def outcomes (afterReturn : Bool) (bytes : List UInt8) (calls : List Call) :
    List (Ending × String) :=
  (readings afterReturn bytes calls).map Reading.outcome

/-- The same from the middle of a line on. -/
def seen (e : LineEditor) (calls : List Call) (bytes : List UInt8) : List (Ending × String) :=
  let r := e.readLine bytes
  r.outcome :: outcomes r.afterReturn r.rest calls

/-- Where a reader stands behind some bytes: in a line, with some lines still to be asked for. -/
inductive Reaches : LineEditor → List Call → List UInt8 → LineEditor → List Call → Prop where
  | here (e : LineEditor) (calls : List Call) : Reaches e calls [] e calls
  | more {e next last : LineEditor} {calls later : List Call} {b : UInt8} {rest : List UInt8}
      {sent : String} (hfeed : e.feed b = .more next sent)
      (hrest : Reaches next calls rest last later) : Reaches e calls (b :: rest) last later
  /-- The line ends, and the next one is begun. -/
  | line {e last : LineEditor} {call : Call} {calls later : List Call} {b : UInt8}
      {rest : List UInt8} {text sent : String} {afterReturn : Bool}
      (hfeed : e.feed b = .line text sent afterReturn)
      (hrest : Reaches (start afterReturn call.echo call.history) calls rest last later) :
      Reaches e (call :: calls) (b :: rest) last later
  /-- The visitor leaves, and is asked for a line again. -/
  | leave {e last : LineEditor} {call : Call} {calls later : List Call} {b : UInt8}
      {rest : List UInt8} (hfeed : e.feed b = .leave)
      (hrest : Reaches (start false call.echo call.history) calls rest last later) :
      Reaches e (call :: calls) (b :: rest) last later

variable {e last : LineEditor} {calls later : List Call} {b : UInt8}
  {before after after' rest : List UInt8}

theorem outcomes_cons (afterReturn : Bool) (bytes : List UInt8) (call : Call)
    (calls : List Call) :
    outcomes afterReturn bytes (call :: calls) =
      (start afterReturn call.echo call.history).seen calls bytes := rfl

/-- Where there are no more bytes, it does not matter what was read last. -/
theorem outcomes_nil (afterReturn : Bool) (calls : List Call) :
    outcomes afterReturn [] calls = outcomes false [] calls := by
  induction calls generalizing afterReturn with
  | nil => rfl
  | cons call calls ih => exact congrArg (List.cons _) (ih afterReturn)

/-- What bytes that leave the line open send is sent before all else. -/
theorem seen_of_feedAll {keys : List UInt8} {sent : String}
    (h : e.feedAll keys = some (last, sent)) (rest : List UInt8) :
    e.seen calls (keys ++ rest) =
      (last.seen calls rest).modifyHead fun o => (o.1, sent ++ o.2) := by
  rw [seen, readLine_of_feedAll h]
  rfl

theorem seen_of_silent {keys : List UInt8} (h : e.feedAll keys = some (last, ""))
    (rest : List UInt8) : e.seen calls (keys ++ rest) = last.seen calls rest := by
  rw [seen, readLine_of_feedAll h, String.empty_append]
  rfl

theorem seen_of_line {text sent : String} {afterReturn : Bool}
    (h : e.feed b = .line text sent afterReturn) :
    e.seen calls (b :: rest) = (.line text, sent) :: outcomes afterReturn rest calls := by
  rw [seen, readLine_of_line h]
  rfl

theorem seen_of_leave (h : e.feed b = .leave) :
    e.seen calls (b :: rest) = (.left, "") :: outcomes false rest calls := by
  rw [seen, readLine, h]
  rfl

/-- A reader who stands at one place sees nothing but what follows there. -/
theorem Reaches.seen_congr (h : Reaches e calls before last later)
    (hsame : last.seen later after = last.seen later after') :
    e.seen calls (before ++ after) = e.seen calls (before ++ after') := by
  -- What was read before the place comes first on both sides, byte by byte.
  induction h with
  | here => exact hsame
  | more hfeed _ ih =>
    have hkey := feedAll_singleton hfeed
    rw [List.cons_append, List.cons_append, ← List.singleton_append, seen_of_feedAll hkey, ih hsame,
      ← seen_of_feedAll hkey, List.singleton_append]
  | line hfeed _ ih =>
    rw [List.cons_append, List.cons_append, seen_of_line hfeed, seen_of_line hfeed, outcomes_cons,
      outcomes_cons, ih hsame]
  | leave hfeed _ ih =>
    rw [List.cons_append, List.cons_append, seen_of_leave hfeed, seen_of_leave hfeed, outcomes_cons,
      outcomes_cons, ih hsame]

/-! ### Keys that mean nothing -/

/-- All that keys without a meaning change is that a feed behind them belongs to no return. -/
theorem key_passed (he : e.phase = .text)
    (hfeed : ¬(b = 0x0a ∧ e.afterReturn = true ∧ e.buffer = [])) :
    e.passed.key b = e.key b := by
  obtain ⟨echo, history, buffer, position, phase, afterReturn⟩ := e
  obtain rfl : phase = .text := he
  -- Neither editor takes the byte for the feed of a return, and nothing else looks at that.
  have hpassed : ¬(b = 0x0a ∧ false = true ∧ buffer = []) := fun h => Bool.false_ne_true h.2.1
  simp only [key, passed]
  rw [if_neg hfeed]
  exact if_neg hpassed

theorem seen_passed (he : e.phase = .text)
    (hpair : e.afterReturn = true → after.head? ≠ some 0x0a) (calls : List Call) :
    e.passed.seen calls after = e.seen calls after := by
  cases after with
  | nil => exact congrArg (List.cons _) (outcomes_nil _ calls).symm
  | cons b rest =>
    -- Behind the first byte both editors are the same.
    have hkey : e.passed.feed b = e.feed b := by
      have hpassed : e.passed.phase = .text := rfl
      rw [feed, feed, he, hpassed]
      refine key_passed he ?_
      rintro ⟨rfl, hreturn, -⟩
      exact hpair hreturn rfl
    rw [seen, seen, readLine, readLine, hkey]

/-- A place between two keystrokes: a line is being read there, no sequence is half read, and what
follows is not the feed of a return. -/
def Gap (calls : List Call) (before after : List UInt8) : Prop :=
  ∃ call more e later, calls = call :: more ∧
    Reaches (start false call.echo call.history) more before e later ∧ e.phase = .text ∧
    (e.afterReturn = true → after.head? ≠ some 0x0a)

end LineEditor

/-! ### What becomes of a sequence -/

namespace ControlSequence

variable {s : ControlSequence} {e : LineEditor}

/-- Nothing is read or sent otherwise, wherever the sequence is put between two keystrokes. -/
def Discarded (s : ControlSequence) : Prop :=
  ∀ calls before after, LineEditor.Gap calls before after →
    LineEditor.outcomes false (before ++ s.bytes ++ after) calls =
      LineEditor.outcomes false (before ++ after) calls

/-- What the editor takes of a sequence means nothing to it, unless it is an arrow. -/
theorem feedAll_taken (he : e.phase = .text) (harrow : ¬s.IsArrow) :
    ∃ taken, s.bytes = taken ++ s.leaked ∧ e.feedAll taken = some (e.passed, "") := by
  obtain ⟨b, rest, hbody⟩ := List.exists_cons_of_ne_nil s.body_ne_nil
  rw [bytes, leaked, hbody]
  dsimp only
  split_ifs with hdigit
  · -- A digit is not the final byte, so there is one more behind it.
    have hrest : rest ≠ [] := by
      rintro rfl
      have hfinal := s.final_range.1
      rw [← eq_final_of_body_eq hbody] at hfinal
      exact absurd (UInt8.le_trans hfinal hdigit.2) (by decide)
    obtain ⟨x, rest, rfl⟩ := List.exists_cons_of_ne_nil hrest
    have hnumber : { e with afterReturn := false, phase := .introduced }.feed b =
        .more { e with afterReturn := false, phase := .numbered } "" := if_pos hdigit
    have hlast : { e with afterReturn := false, phase := .numbered }.feed x =
        .more e.passed "" := rfl
    have hbehind := LineEditor.feedAll_append (LineEditor.feedAll_singleton hnumber)
      (LineEditor.feedAll_singleton hlast)
    have hall := LineEditor.feedAll_append (LineEditor.feedAll_introducer he .bracket) hbehind
    rw [String.empty_append, String.empty_append] at hall
    exact ⟨[0x1b, 0x5b, b, x], rfl, hall⟩
  · -- Any other byte ends the sequence, and only as the whole body may it be an arrow.
    have hother : ∀ a : Arrow, b ≠ a.byte := by
      rintro a rfl
      by_cases hrest : rest = []
      · exact harrow ⟨a, hrest ▸ hbody⟩
      · exact absurd (lt_of_body_eq hbody hrest) (by cases a <;> decide)
    exact ⟨[0x1b, 0x5b, b], rfl, LineEditor.feedAll_sequence he .bracket hdigit
      (LineEditor.endSequence_other hother)⟩

/-- A sequence between two keystrokes is the same as the bytes that are left of it. -/
theorem seen_bytes {after : List UInt8} (calls : List LineEditor.Call) (he : e.phase = .text)
    (hpair : e.afterReturn = true → after.head? ≠ some 0x0a) (harrow : ¬s.IsArrow) :
    e.seen calls (s.bytes ++ after) = e.seen calls (s.leaked ++ after) := by
  obtain ⟨taken, hbytes, htaken⟩ := feedAll_taken he harrow
  -- What is left begins with a visible character, if there is anything left.
  have hleft : e.afterReturn = true → (s.leaked ++ after).head? ≠ some 0x0a := by
    intro hreturn
    cases hleaked : s.leaked with
    | nil => exact hpair hreturn
    | cons b rest =>
      intro hfeed
      obtain rfl : b = 0x0a := Option.some.inj hfeed
      have hmem : (0x0a : UInt8) ∈ s.body := s.leaked_suffix.mem (by simp [hleaked])
      exact absurd (range_of_mem_body hmem).1 (by decide)
  rw [hbytes, List.append_assoc, LineEditor.seen_of_silent htaken, LineEditor.seen_passed he hleft]

theorem isEditing_of_mem_leaked {b : UInt8} (hb : b ∈ s.leaked) : LineEditor.IsEditing b := by
  have hrange := range_of_mem_body (s.leaked_suffix.mem hb)
  -- All keys that do something else are below the space.
  rintro ((rfl | rfl | rfl) | rfl | rfl) <;> exact absurd hrange.1 (by decide)

theorem edit_of_mem_leaked {b : UInt8} (hb : b ∈ s.leaked) (line : List Char) :
    LineEditor.edit line b = line ++ [Char.ofNat b.toNat] := by
  obtain ⟨hge, hle⟩ := range_of_mem_body (s.leaked_suffix.mem hb)
  have herase : ¬(b = 0x7f ∨ b = 0x08) := by
    rintro (rfl | rfl)
    · exact absurd hle (by decide)
    · exact absurd hge (by decide)
  rw [LineEditor.edit, if_neg herase, if_pos (UInt8.lt_of_le_of_lt hle (by decide))]

theorem foldl_edit_leaked (s : ControlSequence) (line : List Char) :
    s.leaked.foldl LineEditor.edit line =
      line ++ s.leaked.map fun b => Char.ofNat b.toNat := by
  rw [List.foldl_ext _ _ line fun line b hb => edit_of_mem_leaked hb line,
    List.foldl_append_eq_append, ← List.flatMap_def, ← List.map_eq_flatMap]

/-- At the return, what is left of a sequence stands at the end of the line. -/
theorem ending_readLine_bytes (he : e.phase = .text) (harrow : ¬s.IsArrow) (rest : List UInt8) :
    (e.readLine (s.bytes ++ Typing.carriageReturn :: rest)).ending =
      .line (String.ofList (e.buffer ++ s.leaked.map fun b => Char.ofNat b.toNat)) := by
  have hnofeed : (Typing.carriageReturn :: rest).head? ≠ some 0x0a := by
    intro h
    exact absurd (Option.some.inj h) (by decide)
  -- With no further line to be asked for, what is seen is this reading alone.
  have hseen := seen_bytes [] he (fun _ => hnofeed) harrow
  have hending : (e.readLine (s.bytes ++ Typing.carriageReturn :: rest)).ending =
      (e.readLine (s.leaked ++ Typing.carriageReturn :: rest)).ending :=
    congrArg Prod.fst (List.cons.inj hseen).1
  rw [hending, LineEditor.ending_readLine_edited he (fun _ => isEditing_of_mem_leaked),
    foldl_edit_leaked]

/-- A sequence that is put between two keystrokes, and is no arrow of the history, does what the
bytes do that are left of it when the editor has taken what it expects. It is discarded exactly if
its body is as long as the editor expects. -/
theorem discarded_iff_fits (s : ControlSequence) (harrow : ¬s.IsArrow) :
    (∀ calls before after, LineEditor.Gap calls before after →
      LineEditor.outcomes false (before ++ s.bytes ++ after) calls =
        LineEditor.outcomes false (before ++ s.leaked ++ after) calls) ∧
      (s.Discarded ↔ s.Fits) := by
  have htyped : ∀ calls before after, LineEditor.Gap calls before after →
      LineEditor.outcomes false (before ++ s.bytes ++ after) calls =
        LineEditor.outcomes false (before ++ s.leaked ++ after) calls := by
    rintro calls before after ⟨call, more, e, later, rfl, hreach, he, hpair⟩
    rw [List.append_assoc, List.append_assoc, LineEditor.outcomes_cons, LineEditor.outcomes_cons]
    exact hreach.seen_congr (seen_bytes later he hpair harrow)
  refine ⟨htyped, fun hdiscarded => ?_, fun hfits calls before after hgap => ?_⟩
  · -- Put before a return, a sequence that is discarded leaves the line empty.
    have hgap : LineEditor.Gap [⟨false, []⟩] [] [Typing.carriageReturn] :=
      ⟨_, _, _, _, rfl, .here _ _, rfl, fun h => absurd h Bool.false_ne_true⟩
    have hsame := hdiscarded _ _ _ hgap
    have hempty : _ = LineEditor.Ending.line (String.ofList []) :=
      congrArg Prod.fst (List.cons.inj hsame).1
    have hline := ending_readLine_bytes (e := .start false false []) rfl harrow []
    have hnothing := LineEditor.Ending.line.inj (hline.symm.trans hempty)
    rw [← leaked_eq_nil_iff]
    exact List.map_eq_nil_iff.1 (String.ofList_injective hnothing)
  · -- Nothing is left to be typed.
    rw [htyped calls before after hgap, leaked_eq_nil_iff.2 hfits, List.append_nil]

/-- The key that deletes forward is discarded. -/
theorem delete_discarded :
    let s : ControlSequence := ⟨[0x33], [], 0x7e, by simp, by simp, by decide⟩
    ¬s.IsArrow ∧ s.Fits ∧ s.Discarded := by
  intro s
  have harrow : ¬s.IsArrow := by
    rintro ⟨_ | _, h⟩ <;> exact absurd h (by decide)
  have hfits : s.Fits := ⟨rfl, .inr ⟨0x33, by decide, rfl⟩⟩
  exact ⟨harrow, hfits, (discarded_iff_fits s harrow).2.2 hfits⟩

/-- The up arrow with the control key held leaves its end in the line. -/
theorem modified_arrow_not_discarded :
    let s : ControlSequence := ⟨[0x31, 0x3b, 0x35], [], 0x41, by simp, by simp, by decide⟩
    let before : List UInt8 := [0x6c, 0x73]
    let after : List UInt8 := [Typing.carriageReturn]
    ¬s.IsArrow ∧ LineEditor.Gap [⟨true, []⟩] before after ∧
      LineEditor.outcomes false (before ++ after) [⟨true, []⟩] = [(.line "ls", "ls\r\n")] ∧
      LineEditor.outcomes false (before ++ s.bytes ++ after) [⟨true, []⟩] =
        [(.line "ls5A", "ls5A\r\n")] ∧
      ¬s.Discarded := by
  intro s before after
  have harrow : ¬s.IsArrow := by
    rintro ⟨_ | _, h⟩ <;> exact absurd h (by decide)
  have hgap : LineEditor.Gap [⟨true, []⟩] before after :=
    ⟨_, _, _, _, rfl, .more rfl (.more rfl (.here _ _)), rfl, fun h => absurd h Bool.false_ne_true⟩
  have hwithout : LineEditor.outcomes false (before ++ after) [⟨true, []⟩] =
      [(.line "ls", "ls\r\n")] := by decide
  have hwith : LineEditor.outcomes false (before ++ s.bytes ++ after) [⟨true, []⟩] =
      [(.line "ls5A", "ls5A\r\n")] := by decide
  refine ⟨harrow, hgap, hwithout, hwith, fun hdiscarded => ?_⟩
  have hsame := hdiscarded _ _ _ hgap
  rw [hwithout, hwith] at hsame
  exact absurd hsame (by decide)

end ControlSequence

end MissionConsole
