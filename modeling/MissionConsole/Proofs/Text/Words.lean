import MissionConsole.Text.Blank
import Mathlib.Data.List.Induction

/-!
# The words of a line

A line falls into words at its blanks. Blanks at the ends of a line are no part of a word, and a
word that is put in front of a line, with a space behind it, is the first of its words.

## Main definitions

* `Text.IsWord` — texts without blanks that are not empty
* `Text.EndsVisibly` — texts that do not end with a blank

## Main results

* `Text.words_trim` — a trimmed line has the words of the line
* `Text.words_of_isWord`, `Text.words_cons` — the words of a line, one by one
-/

namespace MissionConsole.Text

/-- A text without blanks that is not empty. -/
structure IsWord (w : String) : Prop where
  ne_empty : w ≠ ""
  not_blank : ∀ c ∈ w.toList, isBlank c = false

variable {w : String}

theorem not_blank_of_any {cs : List Char} (h : cs.any isBlank = false) :
    ∀ c ∈ cs, isBlank c = false :=
  fun c hc => Bool.eq_false_iff.2 (List.any_eq_false.1 h c hc)

instance (w : String) : Decidable (IsWord w) :=
  decidable_of_iff (w ≠ "" ∧ w.toList.any isBlank = false)
    ⟨fun ⟨hne, h⟩ => ⟨hne, not_blank_of_any h⟩, fun h => ⟨h.ne_empty, by simpa using h.not_blank⟩⟩

theorem IsWord.toList_ne_nil (h : IsWord w) : w.toList ≠ [] := by
  rw [Ne, String.toList_eq_nil_iff]
  exact h.ne_empty

/-- Words end at a blank. -/
theorem wordsOfChars_append_cons (before after : List Char) {c : Char} (hc : isBlank c = true) :
    wordsOfChars (before ++ c :: after) = wordsOfChars before ++ wordsOfChars after := by
  rw [wordsOfChars, List.splitOnP_append_cons before after hc, List.filter_append]
  rfl

theorem wordsOfChars_dropWhile (cs : List Char) :
    wordsOfChars (cs.dropWhile isBlank) = wordsOfChars cs := by
  induction cs with
  | nil => rfl
  | cons c cs ih =>
    by_cases hc : isBlank c = true
    · rw [List.dropWhile_cons_of_pos hc, ih]
      exact (wordsOfChars_append_cons [] cs hc).symm
    · rw [List.dropWhile_cons_of_neg hc]

theorem wordsOfChars_trimEndChars (cs : List Char) :
    wordsOfChars (trimEndChars cs) = wordsOfChars cs := by
  induction cs using List.reverseRecOn with
  | nil => rfl
  | append_singleton cs c ih =>
    rw [trimEndChars, List.reverse_concat]
    by_cases hc : isBlank c = true
    · rw [List.dropWhile_cons_of_pos hc, wordsOfChars_append_cons cs [] hc]
      exact ih.trans (List.append_nil _).symm
    · rw [List.dropWhile_cons_of_neg hc, ← List.reverse_concat, List.reverse_reverse]

/-- Trimming a line leaves its words. -/
theorem words_trim (s : String) : words (trim s) = words s := by
  rw [words, words, trim, String.toList_ofList, trimChars, wordsOfChars_trimEndChars,
    wordsOfChars_dropWhile]

theorem wordsOfChars_of_isWord (hw : IsWord w) : wordsOfChars w.toList = [w.toList] := by
  rw [wordsOfChars, List.splitOnP_eq_singleton hw.not_blank]
  simp [hw.toList_ne_nil]

theorem words_of_isWord (hw : IsWord w) : words w = [w] := by
  rw [words, wordsOfChars_of_isWord hw, List.map_singleton, String.ofList_toList]

/-- A word and a space in front of a line are one word more. -/
theorem words_cons (hw : IsWord w) (s : String) : words (w ++ " " ++ s) = w :: words s := by
  have hchars : (w ++ " " ++ s).toList = w.toList ++ ' ' :: s.toList := by simp
  rw [words, hchars, wordsOfChars_append_cons _ _ (by decide), wordsOfChars_of_isWord hw,
    List.singleton_append, List.map_cons, String.ofList_toList, words]

/-- A text ends with a character that is not blank. -/
def EndsVisibly (s : String) : Prop := ∃ c ∈ s.toList.getLast?, isBlank c = false

theorem EndsVisibly.ne_empty {s : String} (h : EndsVisibly s) : s ≠ "" := by
  rintro rfl
  obtain ⟨c, hc, -⟩ := h
  exact absurd hc (Option.not_mem_none c)

/-- What trimming leaves ends visibly. -/
theorem endsVisibly_trim {s : String} (h : trim s ≠ "") : EndsVisibly (trim s) := by
  rw [EndsVisibly, trim, String.toList_ofList, trimChars, trimEndChars, List.getLast?_reverse]
  have hne : (s.toList.dropWhile isBlank).reverse.dropWhile isBlank ≠ [] := by
    intro hnil
    exact h (by rw [trim, trimChars, trimEndChars, hnil]; rfl)
  exact ⟨_, List.head_mem_head? hne, List.head_dropWhile_not isBlank hne⟩

/-- Joined texts end as the last of them does. -/
theorem endsVisibly_intercalate (between : String) {parts : List String} (hne : parts ≠ [])
    (h : ∀ p ∈ parts, EndsVisibly p) : EndsVisibly (between.intercalate parts) := by
  induction parts with
  | nil => exact absurd rfl hne
  | cons p parts ih =>
    cases parts with
    | nil =>
      rw [String.intercalate_singleton]
      exact h p List.mem_cons_self
    | cons q parts =>
      obtain ⟨c, hc, hblank⟩ :=
        ih (List.cons_ne_nil q parts) fun r hr => h r (List.mem_cons_of_mem p hr)
      refine ⟨c, ?_, hblank⟩
      rw [String.intercalate_cons_of_ne_nil (List.cons_ne_nil q parts), String.toList_append,
        List.getLast?_append, Option.mem_def.1 hc]
      rfl

/-- Characters that neither begin nor end with a blank are trimmed to themselves. -/
theorem trimChars_eq_self {cs : List Char} (hfirst : ∀ c ∈ cs.head?, isBlank c = false)
    (hlast : ∀ c ∈ cs.getLast?, isBlank c = false) : trimChars cs = cs := by
  have hkeep {ds : List Char} (hhead : ∀ c ∈ ds.head?, isBlank c = false) :
      ds.dropWhile isBlank = ds := by
    cases ds with
    | nil => rfl
    | cons c ds => exact List.dropWhile_cons_of_neg (by simp [hhead c rfl])
  rw [← List.head?_reverse] at hlast
  rw [trimChars, hkeep hfirst, trimEndChars, hkeep hlast, List.reverse_reverse]

end MissionConsole.Text
