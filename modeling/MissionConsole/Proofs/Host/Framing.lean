import MissionConsole.Proofs.Host.Typing
import Mathlib.Data.List.Chain

/-!
# Lines on the wire

Terminals end a line with a carriage return, with a line feed, or with both. The editor takes all
three for the end of one line: a line feed behind a carriage return is skipped, even when the two
fall into different readings. So lines come back as they were sent, one by one, and then there are
no more of them. There is one pair of lines that the wire cannot tell from a single one: a line that
ends at a bare return, and an empty line behind it that ends at a bare feed.

## Main definitions

* `Terminator`, `Frame` — how a line ends on the wire, and a line with its end
* `Frame.RunsInto` — two lines look like one
* `LineEditor.Call`, `LineEditor.readings` — readings one after the other

## Main results

* `Frame.bytes_of_runsInto` — two lines that run into each other are sent as one
* `LineEditor.readLine_frame` — a line is read up to its end, and no further than a line feed
* `LineEditor.readings_skip` — the feed of a return that was read before is skipped
* `LineEditor.frames_roundTrip` — the lines that were sent are read in order, and then none
-/

namespace MissionConsole

/-! ### Frames -/

/-- How a line ends on the wire. -/
inductive Terminator where
  /-- A bare carriage return. -/
  | cr
  /-- A bare line feed. -/
  | lf
  /-- A carriage return and a line feed. -/
  | crlf
  deriving DecidableEq

/-- The bytes that end a line. -/
def Terminator.bytes : Terminator → List UInt8
  | .cr => [0x0d]
  | .lf => [0x0a]
  | .crlf => [0x0d, 0x0a]

/-- A line with its end. -/
structure Frame where
  text : String
  terminator : Terminator
  deriving DecidableEq

namespace Frame

/-- A line as it is sent. -/
def bytes (f : Frame) : List UInt8 := f.text.toList.map Typing.byte ++ f.terminator.bytes

/-- An empty line that consists of a bare line feed. -/
def bareFeed : Frame := ⟨"", .lf⟩

/-- Two lines look like one: the feed of the second one seems to belong to the return of the
first. -/
def RunsInto (f g : Frame) : Prop := f.terminator = .cr ∧ g = bareFeed

instance (f g : Frame) : Decidable (f.RunsInto g) := inferInstanceAs (Decidable (_ ∧ _))

/-- Two lines that run into each other are sent as one line, so no reader can tell them apart. -/
theorem bytes_of_runsInto {f g : Frame} (h : f.RunsInto g) :
    f.bytes ++ g.bytes = Frame.bytes ⟨f.text, .crlf⟩ := by
  obtain ⟨text, terminator⟩ := f
  obtain ⟨rfl, rfl⟩ := h
  simp [bytes, bareFeed, Terminator.bytes]

/-- Whether a return was the last byte that a reading of the line takes; it leaves the feed behind
the return to the next reading. -/
def endsAtReturn (f : Frame) : Bool := f.terminator != .lf

/-- What a reading of the line leaves of its bytes. -/
def left (f : Frame) : List UInt8 :=
  match f.terminator with
  | .crlf => [0x0a]
  | _ => []

end Frame

namespace LineEditor

variable {e : LineEditor} {b : UInt8} {rest : List UInt8} {afterReturn : Bool}

/-! ### Reading byte by byte -/

theorem readLine_of_more {after : LineEditor} {sent : String} (h : e.feed b = .more after sent) :
    e.readLine (b :: rest) =
      { after.readLine rest with sent := sent ++ (after.readLine rest).sent } := by
  rw [readLine, h]

theorem readLine_of_line {text sent : String} (h : e.feed b = .line text sent afterReturn) :
    e.readLine (b :: rest) = ⟨.line text, sent, rest, afterReturn⟩ := by
  rw [readLine, h]

/-- The editor after printable keys. -/
def typedAll (e : LineEditor) (keys : List Char) : LineEditor := keys.foldl typed e

variable {keys : List Char}

theorem phase_typedAll (e : LineEditor) (keys : List Char) : (e.typedAll keys).phase = e.phase := by
  induction keys generalizing e with
  | nil => rfl
  | cons key keys ih => exact ih (e.typed key)

theorem buffer_typedAll (e : LineEditor) (keys : List Char) :
    (e.typedAll keys).buffer = e.buffer ++ keys := by
  induction keys generalizing e with
  | nil => exact (List.append_nil _).symm
  | cons key keys ih =>
    rw [List.append_cons]
    exact ih (e.typed key)

/-- After a key, the byte before is no return. -/
theorem afterReturn_typedAll (e : LineEditor) (keys : List Char) :
    (e.typedAll keys).afterReturn = (e.afterReturn && keys.isEmpty) := by
  induction keys generalizing e with
  | nil => exact (Bool.and_true _).symm
  | cons key keys ih =>
    have hkey : (e.typed key).afterReturn = false := rfl
    have hmore := ih (e.typed key)
    rw [hkey, Bool.false_and] at hmore
    exact hmore.trans (Bool.and_false _).symm

theorem shown_append (e : LineEditor) (a b : String) :
    e.shown (a ++ b) = e.shown a ++ e.shown b := by
  simp only [shown]
  split_ifs
  · rfl
  · exact String.append_empty.symm

/-- Printable keys are shown and collected, and then the reading goes on. -/
theorem readLine_keys (he : e.phase = .text) (hkeys : ∀ key ∈ keys, Typing.IsPrintable key)
    (rest : List UInt8) :
    e.readLine (keys.map Typing.byte ++ rest) =
      let r := (e.typedAll keys).readLine rest
      { r with sent := e.shown (String.ofList keys) ++ r.sent } := by
  induction keys generalizing e with
  | nil =>
    have hnothing : e.shown (String.ofList []) = "" := by simp [shown]
    simp [typedAll, hnothing]
  | cons key keys ih =>
    obtain ⟨hkey, hkeys⟩ := List.forall_mem_cons.1 hkeys
    have hphase : (e.typed key).phase = .text := he
    have hshown : (e.typed key).shown (String.ofList keys) = e.shown (String.ofList keys) := rfl
    rw [List.map_cons, List.cons_append, readLine_of_more (feed_key he hkey), ih hphase hkeys,
      hshown, String.ofList_cons, shown_append]
    simp only [String.append_assoc]
    rfl

/-- A line feed ends the line, unless it belongs to the return before it. -/
theorem feed_lineFeed (he : e.phase = .text) (hapart : e.afterReturn = true → e.buffer ≠ []) :
    e.feed 0x0a = .line (String.ofList e.buffer) "\r\n" false := by
  have hskip : ¬(e.afterReturn = true ∧ e.buffer = []) := fun h => hapart h.1 h.2
  simp [feed, he, key, hskip]

/-- At the start of a line, the feed of a return that was read before is skipped. -/
theorem readLine_skip (echo : Bool) (history : List String) (rest : List UInt8) :
    (start true echo history).readLine (0x0a :: rest) =
      (start false echo history).readLine rest := by
  have hfeed : (start true echo history).feed 0x0a = .more (start false echo history) "" := rfl
  rw [readLine_of_more hfeed, String.empty_append]

/-! ### One line -/

/-- A line is shown and read up to its end. A return ends it at once, so that a feed behind the
return is left to the next reading. -/
theorem readLine_frame {f : Frame} (hplain : Typing.IsPlain f.text)
    (hapart : afterReturn = true → f ≠ .bareFeed) (echo : Bool) (history : List String)
    (rest : List UInt8) :
    let e := start afterReturn echo history
    e.readLine (f.bytes ++ rest) =
      ⟨.line f.text, e.shown f.text ++ "\r\n", f.left ++ rest, f.endsAtReturn⟩ := by
  intro e
  obtain ⟨text, terminator⟩ := f
  have hphase : (e.typedAll text.toList).phase = .text := phase_typedAll e text.toList
  have htext : String.ofList (e.typedAll text.toList).buffer = text := by
    rw [buffer_typedAll]
    exact String.ofList_toList
  rw [Frame.bytes, List.append_assoc, readLine_keys rfl hplain, String.ofList_toList]
  cases terminator with
  | cr | crlf =>
    have hread : ∀ more, (e.typedAll text.toList).readLine (0x0d :: more) = _ :=
      fun more => readLine_of_line (feed_return hphase)
    rw [Terminator.bytes, List.cons_append, hread, htext]
    rfl
  | lf =>
    -- A return before the line would swallow its feed if nothing were typed in between.
    have hfeed : (e.typedAll text.toList).feed 0x0a = .line text "\r\n" false := by
      have hline := feed_lineFeed hphase ?_
      · rwa [htext] at hline
      · rw [afterReturn_typedAll, buffer_typedAll]
        intro hreturn hempty
        simp only [Bool.and_eq_true, List.isEmpty_iff] at hreturn
        refine hapart hreturn.1 ?_
        rw [String.toList_eq_nil_iff.1 hreturn.2]
        rfl
    rw [Terminator.bytes, List.singleton_append, readLine_of_line hfeed]
    rfl

/-! ### Line after line -/

/-- How a line is asked for. -/
structure Call where
  /-- Whether keys are shown. -/
  echo : Bool
  history : List String

/-- Readings one after the other, each of what the one before has left. -/
def readings (afterReturn : Bool) (bytes : List UInt8) : List Call → List Reading
  | [] => []
  | call :: calls =>
    let r := (start afterReturn call.echo call.history).readLine bytes
    r :: readings r.afterReturn r.rest calls

variable {frames : List Frame} {calls more : List Call}

/-- When there are no more bytes, there are no more lines. -/
theorem endings_readings_nil (afterReturn : Bool) (calls : List Call) :
    (readings afterReturn [] calls).map (·.ending) = calls.map fun _ => .exhausted := by
  induction calls generalizing afterReturn with
  | nil => rfl
  | cons call calls ih => exact congrArg (List.cons _) (ih afterReturn)

/-- The feed of a return that was read before is skipped, whatever is read next. -/
theorem readings_skip (rest : List UInt8) (calls : List Call) :
    readings true (0x0a :: rest) calls = readings false rest calls := by
  cases calls with
  | nil => rfl
  | cons call calls => rw [readings, readings, readLine_skip]

/-- Behind a line the reader stands at the next one. Only a bare return may be taken for a part of
it. -/
theorem readings_left (f : Frame) (rest : List UInt8) (calls : List Call) :
    readings f.endsAtReturn (f.left ++ rest) calls =
      readings (decide (f.terminator = .cr)) rest calls := by
  rw [Frame.endsAtReturn, Frame.left]
  cases f.terminator with
  | cr | lf => rfl
  | crlf => exact readings_skip rest calls

/-- The lines are read in order and nothing but them, as long as none of them runs into the next
one, and the first one not into what was read before. -/
theorem endings_readings (hplain : ∀ f ∈ frames, Typing.IsPlain f.text)
    (hapart : frames.IsChain fun f g => ¬f.RunsInto g)
    (hfirst : afterReturn = true → ∀ f ∈ frames.head?, f ≠ .bareFeed)
    (hcalls : calls.length = frames.length) :
    (readings afterReturn (frames.flatMap Frame.bytes) (calls ++ more)).map (·.ending) =
      frames.map (fun f => .line f.text) ++ more.map fun _ => .exhausted := by
  induction frames generalizing afterReturn calls with
  | nil =>
    obtain rfl := List.length_eq_zero_iff.1 hcalls
    exact endings_readings_nil afterReturn more
  | cons f frames ih =>
    obtain ⟨call, calls, rfl⟩ := List.exists_cons_of_length_eq_add_one hcalls
    obtain ⟨hf, hplain⟩ := List.forall_mem_cons.1 hplain
    obtain ⟨hnext, hapart⟩ := List.isChain_cons.1 hapart
    have hread := readLine_frame hf (fun hreturn => hfirst hreturn f rfl) call.echo call.history
      (frames.flatMap Frame.bytes)
    -- What the line leaves open is whether a bare feed is part of it, and the next line is none.
    have hsecond : decide (f.terminator = .cr) = true → ∀ g ∈ frames.head?, g ≠ .bareFeed :=
      fun hreturn g hg hbare => hnext g hg ⟨of_decide_eq_true hreturn, hbare⟩
    have hmore := ih hplain hapart hsecond (Nat.succ.inj hcalls)
    simp only [List.flatMap_cons, List.cons_append, readings, hread, readings_left, List.map_cons,
      hmore]

/-- Lines that are sent over the wire, each with an end of its own, are read back in order, however
the readings show their keys and whatever they can recall; and then there are no more. Only a bare
return may not be followed by a bare feed. -/
theorem frames_roundTrip (frames : List Frame) (hplain : ∀ f ∈ frames, Typing.IsPlain f.text)
    (hapart : frames.IsChain fun f g => ¬f.RunsInto g) (calls more : List Call)
    (hcalls : calls.length = frames.length) :
    (readings false (frames.flatMap Frame.bytes) (calls ++ more)).map (·.ending) =
      frames.map (fun f => .line f.text) ++ more.map fun _ => .exhausted :=
  endings_readings hplain hapart (fun h => absurd h Bool.false_ne_true) hcalls

/-- Empty lines with all three ends. The feed of the second one is skipped by the third reading, and
the one behind it is a line of its own. -/
theorem frames_roundTrip_empty :
    let frames : List Frame := [⟨"ls", .cr⟩, ⟨"", .crlf⟩, ⟨"", .lf⟩, ⟨"", .cr⟩, ⟨"pwd", .lf⟩]
    let calls : List Call := [⟨true, []⟩, ⟨false, ["ls"]⟩, ⟨true, []⟩, ⟨true, ["a"]⟩, ⟨false, []⟩]
    (∀ f ∈ frames, Typing.IsPlain f.text) ∧ (frames.IsChain fun f g => ¬f.RunsInto g) ∧
      calls.length = frames.length ∧
      (readings false (frames.flatMap Frame.bytes) (calls ++ [⟨true, []⟩])).map (·.ending) =
        [.line "ls", .line "", .line "", .line "", .line "pwd", .exhausted] := by
  intro frames calls
  have hplain : ∀ f ∈ frames, Typing.IsPlain f.text := by decide
  have hapart : frames.IsChain fun f g => ¬f.RunsInto g := by decide
  exact ⟨hplain, hapart, rfl, frames_roundTrip frames hplain hapart calls [⟨true, []⟩] rfl⟩

end LineEditor

end MissionConsole
