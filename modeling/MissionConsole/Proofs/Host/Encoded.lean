import MissionConsole.Proofs.Host.Screen

/-!
# Encoded characters

A terminal sends a character as one to four bytes. The editor makes a character of each byte by
itself, and of a byte that is no character alone it makes nothing. All bytes of a longer encoding
are of that kind. What is read of a line is therefore what is left of it without the characters
that take more than one byte: it is the line itself exactly if there are none of them.

## Main definitions

* `Typing.encoded` — a line as it is sent
* `Typing.IsClean` — a line without control characters
* `Typing.narrowed` — the characters of a line that take a single byte

## Main results

* `Typing.le_of_mem_utf8EncodeChar` — the bytes of longer encodings are no characters alone
* `LineEditor.encoded_read_iff` — which lines are read as they were sent
-/

namespace MissionConsole

namespace Typing

/-- A line as it is sent. -/
def encoded (line : String) : List UInt8 := line.toUTF8.data.toList

/-- A character that is not taken for a key of the editor. -/
def IsCleanChar (c : Char) : Prop := 0x20 ≤ c.toNat ∧ c.toNat ≠ 0x7f

instance (c : Char) : Decidable (IsCleanChar c) := inferInstanceAs (Decidable (_ ∧ _))

/-- A line without control characters. -/
def IsClean (line : String) : Prop := ∀ c ∈ line.toList, IsCleanChar c

instance (line : String) : Decidable (IsClean line) :=
  List.decidableBAll IsCleanChar line.toList

/-- A character that takes a single byte. -/
def isNarrow (c : Char) : Bool := c.toNat < 0x80

/-- The characters of a line that take a single byte. -/
def narrowed (line : String) : String := String.ofList (line.toList.filter isNarrow)

variable {c : Char} {line : String} {b : UInt8}

theorem encoded_eq_flatMap (line : String) :
    encoded line = line.toList.flatMap String.utf8EncodeChar := by
  obtain ⟨cs, rfl⟩ : ∃ cs, line = String.ofList cs := ⟨line.toList, String.ofList_toList.symm⟩
  rw [encoded, String.toUTF8_eq_toByteArray, String.toByteArray_ofList, List.utf8Encode,
    String.toList_ofList, List.toList_data_toByteArray]

theorem narrowed_eq_self_iff : narrowed line = line ↔ ∀ c ∈ line.toList, c.toNat < 0x80 := by
  rw [← String.toList_inj, narrowed, String.toList_ofList, List.filter_eq_self]
  simp only [isNarrow, decide_eq_true_eq]

theorem utf8EncodeChar_of_isNarrow (hc : isNarrow c = true) :
    String.utf8EncodeChar c = [byte c] := by
  have hone : c.val.toNat ≤ 0x7f := Nat.le_of_lt_succ (of_decide_eq_true hc)
  rw [String.utf8EncodeChar, if_pos hone]
  rfl

/-- All bytes of a longer encoding are beyond those that are characters alone. -/
theorem le_of_mem_utf8EncodeChar (hc : isNarrow c = false) (hb : b ∈ String.utf8EncodeChar c) :
    0x80 ≤ b := by
  have hbyte : ∀ n : Nat, 0x80 ≤ n → n < 0x100 → 0x80 ≤ UInt8.ofNat n := by
    intro n hge hlt
    rw [UInt8.le_iff_toNat_le, UInt8.toNat_ofNat', Nat.mod_eq_of_lt hlt]
    exact hge
  have hmore : ¬c.val.toNat ≤ 0x7f := fun h => of_decide_eq_false hc (Nat.lt_succ_of_le h)
  rw [String.utf8EncodeChar, if_neg hmore] at hb
  -- Every byte of the three longer forms is a mark from 0x80 on with some bits added.
  split_ifs at hb with htwo hthree
  · simp only [List.mem_cons, List.not_mem_nil, or_false] at hb
    rcases hb with rfl | rfl <;> exact hbyte _ (by omega) (by omega)
  · simp only [List.mem_cons, List.not_mem_nil, or_false] at hb
    rcases hb with rfl | rfl | rfl <;> exact hbyte _ (by omega) (by omega)
  · simp only [List.mem_cons, List.not_mem_nil, or_false] at hb
    rcases hb with rfl | rfl | rfl | rfl <;> exact hbyte _ (by omega) (by omega)

theorem isPrintable_of_isCleanChar (hclean : IsCleanChar c) (hc : isNarrow c = true) :
    IsPrintable c := by
  obtain ⟨hge, hne⟩ := hclean
  have hlt : c.toNat < 0x80 := of_decide_eq_true hc
  exact ⟨hge, by omega⟩

end Typing

namespace LineEditor

variable {e : LineEditor} {c : Char} {cs : List Char} {bs : List UInt8}

/-- Bytes that make no character are read without a trace. -/
theorem feedAll_foreign (e : LineEditor) (hbs : ∀ b ∈ bs, 0x80 ≤ b) :
    e.passed.feedAll bs = some (e.passed, "") := by
  induction bs with
  | nil => rfl
  | cons b bs ih =>
    obtain ⟨hb, hbs⟩ := List.forall_mem_cons.1 hbs
    exact feedAll_cons_iff.2 ⟨_, "", "", feed_foreign (e := e.passed) rfl hb, ih hbs, rfl⟩

/-- A character that takes more than one byte is read without a trace. -/
theorem feedAll_of_not_isNarrow (he : e.phase = .text) (hc : Typing.isNarrow c = false) :
    e.feedAll (String.utf8EncodeChar c) = some (e.passed, "") := by
  have hbs : ∀ b ∈ String.utf8EncodeChar c, 0x80 ≤ b :=
    fun b hb => Typing.le_of_mem_utf8EncodeChar hc hb
  -- The first byte ends the wait for the feed of a return, and the others change nothing.
  obtain ⟨b, bs, hbytes⟩ := List.exists_cons_of_ne_nil (String.utf8EncodeChar_ne_nil (c := c))
  rw [hbytes] at hbs ⊢
  obtain ⟨hb, hbs⟩ := List.forall_mem_cons.1 hbs
  exact feedAll_cons_iff.2 ⟨_, "", "", feed_foreign he hb, feedAll_foreign e hbs, rfl⟩

/-- Of encoded characters, those that take a single byte are collected and shown. -/
theorem readLine_encoded (he : e.phase = .text) (hcs : ∀ c ∈ cs, Typing.IsCleanChar c)
    (rest : List UInt8) :
    e.readLine (cs.flatMap String.utf8EncodeChar ++ Typing.carriageReturn :: rest) =
      ⟨.line (String.ofList (e.buffer ++ cs.filter Typing.isNarrow)),
        e.shown (String.ofList (cs.filter Typing.isNarrow)) ++ "\r\n", rest, true⟩ := by
  induction cs generalizing e with
  | nil =>
    have hnothing : e.shown (String.ofList []) = "" := by simp [shown]
    rw [List.flatMap_nil, List.nil_append, readLine_of_line (feed_return he), List.filter_nil,
      List.append_nil, hnothing, String.empty_append]
  | cons c cs ih =>
    obtain ⟨hclean, hcs⟩ := List.forall_mem_cons.1 hcs
    rw [List.flatMap_cons, List.append_assoc]
    cases hc : Typing.isNarrow c with
    | true =>
      have hfeed := feed_key he (Typing.isPrintable_of_isCleanChar hclean hc)
      have hphase : (e.typed c).phase = .text := he
      have hshown : ∀ text, (e.typed c).shown text = e.shown text := fun _ => rfl
      have hbuffer : (e.typed c).buffer = e.buffer ++ [c] := rfl
      rw [Typing.utf8EncodeChar_of_isNarrow hc, List.singleton_append, readLine_of_more hfeed,
        ih hphase hcs, List.filter_cons_of_pos hc, String.ofList_cons, shown_append, hshown,
        hbuffer, ← List.append_cons, String.append_assoc]
    | false =>
      -- What is collected and how it is shown does not depend on the wait for a feed.
      have hshown : ∀ text, e.passed.shown text = e.shown text := fun _ => rfl
      have hbuffer : e.passed.buffer = e.buffer := rfl
      have hwide : ¬Typing.isNarrow c = true := Bool.eq_false_iff.1 hc
      rw [readLine_of_feedAll (feedAll_of_not_isNarrow he hc), ih rfl hcs,
        List.filter_cons_of_neg hwide, String.empty_append, hshown, hbuffer]

/-- Of a line that is sent without control characters, the characters that take a single byte are
read and shown. So the line is read as it was sent exactly if it has no other characters. -/
theorem encoded_read_iff (afterReturn echo : Bool) (history : List String) (line : String)
    (hline : Typing.IsClean line) (rest : List UInt8) :
    let start := start afterReturn echo history
    let reading := start.readLine (Typing.encoded line ++ Typing.carriageReturn :: rest)
    reading = ⟨.line (Typing.narrowed line), start.shown (Typing.narrowed line) ++ "\r\n", rest,
        true⟩ ∧
      (reading.ending = .line line ↔ ∀ c ∈ line.toList, c.toNat < 0x80) := by
  intro start reading
  have hreading : reading = ⟨.line (Typing.narrowed line),
      start.shown (Typing.narrowed line) ++ "\r\n", rest, true⟩ := by
    have hread := readLine_encoded (e := start) rfl hline rest
    rwa [← Typing.encoded_eq_flatMap] at hread
  refine ⟨hreading, ?_⟩
  rw [hreading, ← Typing.narrowed_eq_self_iff]
  exact ⟨Ending.line.inj, congrArg Ending.line⟩

/-- A letter with an accent, a sign of money and one of music are lost, and the line goes on around
them. -/
theorem encoded_read_iff_mixed :
    let line := "café 5€ 𝄞!"
    Typing.IsClean line ∧
      ((start true true ["ls"]).readLine
        (Typing.encoded line ++ [Typing.carriageReturn])).ending = .line "caf 5 !" := by
  intro line
  have hline : Typing.IsClean line := by decide
  have hread := (encoded_read_iff true true ["ls"] line hline []).1
  refine ⟨hline, ?_⟩
  rw [hread]
  decide

/-- A name with an accent is not read as it was sent. -/
theorem accent_lost :
    let line := "é"
    Typing.IsClean line ∧
      Typing.encoded line = [0xc3, 0xa9] ∧
      ((start false true []).readLine
        (Typing.encoded line ++ [Typing.carriageReturn])).ending = .line "" ∧
      Ending.line "" ≠ .line line := by
  decide

end LineEditor

end MissionConsole
