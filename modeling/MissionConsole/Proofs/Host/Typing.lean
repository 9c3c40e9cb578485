import MissionConsole.Local
import Mathlib.Logic.Basic

/-!
# What is typed

The same lines reach the hosts in different forms: as a text whose lines end at line feeds, and as
single bytes with a carriage return at the end of each line. Of lines that consist of printable keys
nothing is lost on either way: no printable key ends a line, erases a character, recalls an earlier
line or makes the visitor leave.

## Main definitions

* `Typing.IsPrintable` — a key that shows a character
* `Typing.text`, `Typing.bytes` — lines as a text and as bytes
* `LineEditor.typed`, `RemoteShell.typed` — what printable keys make of a line

## Main results

* `Typing.inputLines_text` — the lines of the text are those that were typed
* `LineEditor.feed_key`, `LineEditor.feed_return` — what a key and the end of a line lead to
-/

namespace MissionConsole

namespace Typing

/-- A key that shows a character: from the space to the tilde. -/
def IsPrintable (c : Char) : Prop := 0x20 ≤ c.toNat ∧ c.toNat ≤ 0x7e

instance (c : Char) : Decidable (IsPrintable c) := inferInstanceAs (Decidable (_ ∧ _))

/-- A line that consists of printable keys. -/
def IsPlain (line : String) : Prop := ∀ c ∈ line.toList, IsPrintable c

instance (line : String) : Decidable (IsPlain line) :=
  List.decidableBAll IsPrintable line.toList

/-- Lines as a text in which each of them ends at a line feed. -/
def text (lines : List String) : String := String.join (lines.map (· ++ "\n"))

/-- The byte of a key. -/
def byte (c : Char) : UInt8 := UInt8.ofNat c.toNat

/-- The byte that ends a line. -/
def carriageReturn : UInt8 := 0x0d

/-- Lines as bytes, with a carriage return behind each of them. -/
def bytes (lines : List String) : List UInt8 :=
  lines.flatMap fun line => line.toList.map byte ++ [carriageReturn]

variable {c : Char} {line : String} {lines : List String}

/-! ### Lines of a text -/

theorem not_mem_of_isPlain (h : IsPlain line) : '\n' ∉ line.toList := by
  intro hin
  exact absurd (h _ hin) (by decide)

theorem toList_text_cons (line : String) (lines : List String) :
    (text (line :: lines)).toList = line.toList ++ '\n' :: (text lines).toList := by
  simp [text, String.join_cons]

theorem splitOn_text (h : ∀ line ∈ lines, IsPlain line) :
    Text.splitOn '\n' (text lines) = lines ++ [""] := by
  induction lines with
  | nil => rfl
  | cons line lines ih =>
    obtain ⟨hline, hlines⟩ := List.forall_mem_cons.1 h
    rw [Text.splitOn, toList_text_cons,
      List.splitOn_append_cons_self_of_not_mem (not_mem_of_isPlain hline), List.map_cons,
      String.ofList_toList, ← Text.splitOn, ih hlines, List.cons_append]

/-- The lines of the text are those that were typed. -/
theorem inputLines_text (h : ∀ line ∈ lines, IsPlain line) :
    LocalShell.inputLines (text lines) = lines := by
  have hlast : (lines ++ [""]).getLast? = some "" := List.getLast?_concat
  rw [LocalShell.inputLines, splitOn_text h]
  exact (if_pos hlast).trans List.dropLast_concat

/-! ### Bytes -/

theorem bytes_cons (line : String) (lines : List String) :
    bytes (line :: lines) = line.toList.map byte ++ carriageReturn :: bytes lines := by
  rw [bytes, List.flatMap_cons, List.append_assoc, List.singleton_append, ← bytes]

theorem toNat_byte (h : IsPrintable c) : (byte c).toNat = c.toNat := by
  obtain ⟨-, hle⟩ := h
  rw [byte, UInt8.toNat_ofNat']
  omega

/-- A printable key is none of the keys below the space. -/
theorem byte_ne (h : IsPrintable c) {b : UInt8} (hb : b.toNat < 0x20 ∨ b.toNat = 0x7f) :
    byte c ≠ b := by
  rintro rfl
  rw [toNat_byte h] at hb
  obtain ⟨hge, hle⟩ := h
  omega

end Typing

/-! ### The editor -/

namespace LineEditor

variable {e : LineEditor} {c : Char}

/-- The editor after a printable key. -/
def typed (e : LineEditor) (c : Char) : LineEditor :=
  { e with buffer := e.buffer ++ [c], afterReturn := false }

/-- A printable key shows its character, and the line goes on. -/
theorem feed_key (he : e.phase = .text) (hc : Typing.IsPrintable c) :
    e.feed (Typing.byte c) = .more (e.typed c) (e.shown (String.singleton c)) := by
  have hne : ∀ b : UInt8, b.toNat < 0x20 ∨ b.toNat = 0x7f → Typing.byte c ≠ b :=
    fun b hb => Typing.byte_ne hc hb
  have hlt : Typing.byte c < 0x80 := by
    rw [UInt8.lt_iff_toNat_lt, Typing.toNat_byte hc]
    exact Nat.lt_of_le_of_lt hc.2 (by decide)
  have hchar : Char.ofNat (Typing.byte c).toNat = c := by
    rw [Typing.toNat_byte hc, Char.ofNat_toNat]
  rw [feed, he]
  dsimp only
  -- Every key that is tested before the characters is ruled out.
  simp only [key, hne 0x0a (by decide), hne 0x0d (by decide), hne 0x7f (by decide),
    hne 0x08 (by decide), hne 0x03 (by decide), hne 0x04 (by decide), hne 0x1b (by decide), hlt,
    hchar, false_and, or_self, if_false, if_true]
  rfl

/-- A carriage return ends the line. -/
theorem feed_return (he : e.phase = .text) :
    e.feed Typing.carriageReturn = .line (String.ofList e.buffer) "\r\n" true := by
  rw [feed, he]
  rfl

end LineEditor

end MissionConsole
