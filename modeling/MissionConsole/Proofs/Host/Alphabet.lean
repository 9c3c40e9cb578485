import MissionConsole.Proofs.Host.Framing
import MissionConsole.Proofs.Text.Escapes

/-!
# The characters of a line

Whatever bytes the editor gets, whole sequences or broken ones, it collects only characters of one
byte, and among them none of its own keys. A line that is recalled has no other characters either,
as long as the history consists of such lines. Nor does the editor ever send the escape character.

## Main definitions

* `Typing.IsLineChar`, `Typing.IsLine` — the characters that a line may have, and such lines
* `LineEditor.KeepsToLines`, `LineEditor.Step.KeepsToLines` — an editor that has collected nothing
  else, and a key that leads to nothing else

## Main results

* `LineEditor.keepsToLines_feed` — what a byte leads to, whatever the byte
* `LineEditor.isLine_of_readLine` — what is read of any bytes
-/

namespace MissionConsole

namespace Typing

/-- A character that a line may have: one of a single byte that the editor takes for none of its
keys. These are the two that break off, the two that erase, the two that complete a line, and the
escape character. -/
def IsLineChar (c : Char) : Prop :=
  c.toNat < 0x80 ∧ c.toNat ∉ [0x03, 0x04, 0x08, 0x7f, 0x0a, 0x0d, 0x1b]

instance (c : Char) : Decidable (IsLineChar c) := inferInstanceAs (Decidable (_ ∧ _))

/-- A line of such characters. -/
def IsLine (line : String) : Prop := ∀ c ∈ line.toList, IsLineChar c

instance (line : String) : Decidable (IsLine line) :=
  List.decidableBAll IsLineChar line.toList

variable {c : Char} {cs : List Char} {line part : String} {b : UInt8}

theorem IsLineChar.ne_escape (h : IsLineChar c) : c ≠ '\x1b' := by
  rintro rfl
  exact absurd h (by decide)

theorem IsLine.escapeFree (h : IsLine line) : Text.EscapeFree line :=
  fun c hc => (h c hc).ne_escape

theorem IsLine.of_subset (h : IsLine line) (hsub : part.toList ⊆ line.toList) : IsLine part :=
  fun c hc => h c (hsub hc)

theorem isLine_ofList : IsLine (String.ofList cs) ↔ ∀ c ∈ cs, IsLineChar c := by
  rw [IsLine, String.toList_ofList]

/-- A byte that makes a character and is no key of the editor makes a character of a line. -/
theorem isLineChar_ofNat (hb : b < 0x80)
    (hkey : b ∉ ([0x03, 0x04, 0x08, 0x7f, 0x0a, 0x0d, 0x1b] : List UInt8)) :
    IsLineChar (Char.ofNat b.toNat) := by
  have hlt : b.toNat < 0x80 := UInt8.lt_iff_toNat_lt.1 hb
  have hcode : (Char.ofNat b.toNat).toNat = b.toNat := Text.toNat_ofNat (.inl (by omega))
  rw [IsLineChar, hcode]
  refine ⟨hlt, fun hin => hkey ?_⟩
  have hcodes : b.toNat ∈
      ([0x03, 0x04, 0x08, 0x7f, 0x0a, 0x0d, 0x1b] : List UInt8).map UInt8.toNat := hin
  obtain ⟨key, hmem, heq⟩ := List.mem_map.1 hcodes
  rwa [← UInt8.toNat_inj.1 heq]

end Typing

namespace LineEditor

/-- An editor has collected characters of lines, and recalls nothing but such lines. -/
structure KeepsToLines (e : LineEditor) : Prop where
  buffer : ∀ c ∈ e.buffer, Typing.IsLineChar c
  history : ∀ line ∈ e.history, Typing.IsLine line

/-- What a byte leads to consists of characters of lines, and nothing that is sent has the escape
character. -/
def Step.KeepsToLines : Step → Prop
  | .more e sent => e.KeepsToLines ∧ Text.EscapeFree sent
  | .line text sent _ => Typing.IsLine text ∧ Text.EscapeFree sent
  | .leave => True

variable {e : LineEditor} {text : String} {b : UInt8}

theorem keepsToLines_start (afterReturn echo : Bool) {history : List String}
    (h : ∀ line ∈ history, Typing.IsLine line) : (start afterReturn echo history).KeepsToLines :=
  ⟨List.forall_mem_nil _, h⟩

theorem escapeFree_shown (h : Text.EscapeFree text) : Text.EscapeFree (e.shown text) := by
  rw [shown]
  split_ifs
  · exact h
  · decide

theorem escapeFree_redraw (old : List Char) {new : List Char}
    (h : ∀ c ∈ new, Typing.IsLineChar c) : Text.EscapeFree (redraw old new) := by
  rw [redraw, Text.escapeFree_append, Text.escapeFree_ofList]
  refine ⟨Text.escapeFree_join fun p hp => ?_, fun c hc => (h c hc).ne_escape⟩
  rw [List.eq_of_mem_replicate hp]
  decide

namespace KeepsToLines

variable (h : e.KeepsToLines)

include h

/-- A byte that only moves the editor on. -/
theorem more_phase (phase : Phase) : (Step.more { e with phase } "").KeepsToLines :=
  ⟨⟨h.buffer, h.history⟩, by decide⟩

/-- Recalling a line, or the empty one below the newest. -/
theorem showEntry (position : Nat) : (e.showEntry position).KeepsToLines := by
  have hnew : ∀ c ∈ ((e.history[position]?).getD "").toList, Typing.IsLineChar c := by
    cases hline : e.history[position]? with
    | none => exact List.forall_mem_nil _
    | some line => exact h.history line (List.mem_of_getElem? hline)
  exact ⟨⟨hnew, h.history⟩, escapeFree_shown (escapeFree_redraw _ hnew)⟩

theorem endSequence (b : UInt8) : (e.endSequence b).KeepsToLines := by
  rw [LineEditor.endSequence]
  split_ifs
  · exact h.showEntry _
  · exact h.showEntry _
  · exact h.more_phase .text

theorem key (b : UInt8) : (e.key b).KeepsToLines := by
  rw [LineEditor.key]
  dsimp only
  split_ifs with hskip hend herase hempty hbreak hleave hescape hsmall
  · exact ⟨⟨h.buffer, h.history⟩, by decide⟩
  · exact ⟨Typing.isLine_ofList.2 h.buffer, by decide⟩
  · exact ⟨⟨h.buffer, h.history⟩, by decide⟩
  · refine ⟨⟨fun c hc => h.buffer c (List.dropLast_subset _ hc), h.history⟩, ?_⟩
    exact escapeFree_shown (by decide)
  · exact ⟨by decide, by decide⟩
  · trivial
  · exact ⟨⟨h.buffer, h.history⟩, by decide⟩
  · -- Only here is a character collected; all keys of the editor are ruled out by now.
    have hc : Typing.IsLineChar (Char.ofNat b.toNat) := by
      refine Typing.isLineChar_ofNat hsmall ?_
      simp only [List.mem_cons, List.not_mem_nil, or_false, not_or]
      exact ⟨hbreak, hleave, fun h => herase (.inr h), fun h => herase (.inl h),
        fun h => hend (.inr h), fun h => hend (.inl h), hescape⟩
    refine ⟨⟨?_, h.history⟩, escapeFree_shown ?_⟩
    · exact List.forall_mem_append.2 ⟨h.buffer, List.forall_mem_singleton.2 hc⟩
    · rw [Text.EscapeFree, String.toList_singleton]
      exact List.forall_mem_singleton.2 hc.ne_escape
  · exact ⟨⟨h.buffer, h.history⟩, by decide⟩

end KeepsToLines

/-- Whatever byte comes, and wherever in a sequence, the editor keeps to characters of lines. -/
theorem keepsToLines_feed (h : e.KeepsToLines) (b : UInt8) : (e.feed b).KeepsToLines := by
  rw [feed]
  split
  · exact h.key b
  · exact h.more_phase _
  · split_ifs
    · exact h.more_phase .numbered
    · exact h.endSequence b
  · exact h.more_phase .text

/-- A line that is read has only characters of lines, whatever the bytes are. -/
theorem isLine_of_readLine (h : e.KeepsToLines) {bytes : List UInt8}
    (hread : (e.readLine bytes).ending = .line text) : Typing.IsLine text := by
  induction bytes generalizing e with
  | nil => cases hread
  | cons b rest ih =>
    have hstep := keepsToLines_feed h b
    rw [readLine] at hread
    cases hfeed : e.feed b with
    | more after sent =>
      rw [hfeed] at hread hstep
      exact ih hstep.1 hread
    | line line sent afterReturn =>
      rw [hfeed] at hread hstep
      rw [← Ending.line.inj hread]
      exact hstep.1
    | leave =>
      rw [hfeed] at hread
      cases hread

end LineEditor

end MissionConsole
