import MissionConsole.Text.Ranges

/-!
# Blank characters, trimming and words

A line is trimmed of blank characters at both ends before anything reads it, and a command line is
cut into words at runs of blanks.

## Main definitions

* `Text.isBlank` — the 29 blank characters
* `Text.trim`, `Text.trimEnd` — a text without the blanks at its ends, or at its right end
* `Text.words` — the maximal runs of characters that are not blank

## Main results

* `Text.words_trim_ne_nil` — what is left of a line after trimming, if anything, has a word
-/

namespace MissionConsole.Text

/-- The blank characters above ASCII. -/
def blankRanges : List CodeRange :=
  [(0x85, 0x85), (0xa0, 0xa0), (0x1680, 0x1680), (0x2000, 0x200a), (0x2028, 0x2029),
    (0x202f, 0x202f), (0x205f, 0x205f), (0x3000, 0x3000)]

/-- Blank characters: tab to carriage return, the four separators before the space, the space, and
the blanks above ASCII. The zero-width space is not blank. -/
def isBlank (c : Char) : Bool :=
  let n := c.toNat
  (9 ≤ n && n ≤ 13) || (28 ≤ n && n ≤ 32) || (0x80 ≤ n && inRanges blankRanges n)

/-! ### Trimming -/

/-- Characters without the blanks at the right end. -/
def trimEndChars (cs : List Char) : List Char :=
  (cs.reverse.dropWhile isBlank).reverse

/-- Characters without the blanks at both ends. -/
def trimChars (cs : List Char) : List Char :=
  trimEndChars (cs.dropWhile isBlank)

/-- A text without the blanks at its right end. -/
def trimEnd (s : String) : String :=
  String.ofList (trimEndChars s.toList)

/-- A text without the blanks at its ends. -/
def trim (s : String) : String :=
  String.ofList (trimChars s.toList)

/-! ### Words -/

/-- The maximal runs of characters that are not blank, in order. -/
def wordsOfChars (cs : List Char) : List (List Char) :=
  (cs.splitOnP isBlank).filter fun w => !w.isEmpty

/-- The words of a text: its maximal runs of characters that are not blank. -/
def words (s : String) : List String :=
  (wordsOfChars s.toList).map String.ofList

/-- A character that is not blank belongs to a word. -/
theorem wordsOfChars_ne_nil {cs : List Char} {c : Char} (hc : c ∈ cs)
    (hblank : isBlank c = false) : wordsOfChars cs ≠ [] := by
  have hpart : ∃ w ∈ cs.splitOnP isBlank, w ≠ [] := by
    induction cs with
    | nil => exact absurd hc List.not_mem_nil
    | cons x cs ih =>
      rw [List.splitOnP_cons_eq_if_modifyHead]
      split
      · rename_i hx
        rcases List.mem_cons.1 hc with rfl | hc
        · exact absurd (hblank.symm.trans hx) Bool.false_ne_true
        · obtain ⟨w, hw, hne⟩ := ih hc
          exact ⟨w, List.mem_cons_of_mem _ hw, hne⟩
      · -- Here the first character stands at the head of the first part.
        cases hparts : cs.splitOnP isBlank with
        | nil => exact absurd hparts (List.splitOnP_ne_nil _ _)
        | cons w parts => exact ⟨x :: w, by simp [List.modifyHead], List.cons_ne_nil x w⟩
  obtain ⟨w, hw, hne⟩ := hpart
  refine List.ne_nil_of_mem (a := w) (List.mem_filter.2 ⟨hw, ?_⟩)
  simpa using hne

/-- What is trimmed at its right end ends with a character that is not blank. -/
theorem exists_not_blank_of_trimChars_ne_nil {cs : List Char} (h : trimChars cs ≠ []) :
    ∃ c ∈ trimChars cs, isBlank c = false := by
  rw [trimChars, trimEndChars] at h ⊢
  rw [Ne, List.reverse_eq_nil_iff] at h
  exact ⟨_, List.mem_reverse.2 (List.head_mem h), List.head_dropWhile_not isBlank h⟩

theorem words_trim_ne_nil {s : String} (h : trim s ≠ "") : words (trim s) ≠ [] := by
  have hchars : (trim s).toList = trimChars s.toList := String.toList_ofList
  have hne : trimChars s.toList ≠ [] := by
    intro hnil
    exact h (by rw [trim, hnil])
  obtain ⟨c, hc, hblank⟩ := exists_not_blank_of_trimChars_ne_nil hne
  rw [words, hchars]
  intro hwords
  exact wordsOfChars_ne_nil hc hblank (List.map_eq_nil_iff.1 hwords)

end MissionConsole.Text
