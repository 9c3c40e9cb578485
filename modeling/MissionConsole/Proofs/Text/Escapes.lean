import MissionConsole.Decimal.Shortest
import MissionConsole.Proofs.Text.Lines
import MissionConsole.Proofs.Text.Lowering
import MissionConsole.Text.Blank

/-!
# Texts without the escape character

A terminal takes the escape character for the beginning of an order. Cutting, joining and
lower-casing bring no such character into a text that has none: what is cut out of a text has only
characters of the text, and no lower-case form is the escape character. Numbers have none anyway.

## Main definitions

* `Text.EscapeFree` — texts without the escape character

## Main results

* `Text.trim_subset`, `Text.words_subset`, `Text.lines_subset` — what is cut out of a text
* `Text.escapeFree_append`, `Text.escapeFree_intercalate` — what is put together
* `Text.escapeFree_lower` — lower-case forms
* `Text.escapeFree_toString`, `Decimal.escapeFree_brief` — numbers
-/

namespace MissionConsole

namespace Text

/-- A text without the escape character. -/
def EscapeFree (s : String) : Prop := ∀ c ∈ s.toList, c ≠ '\x1b'

instance (s : String) : Decidable (EscapeFree s) :=
  List.decidableBAll (fun c => c ≠ '\x1b') s.toList

variable {s t between : String} {parts : List String} {cs line part : List Char}

/-! ### What is cut out of a text -/

theorem trimEndChars_subset (cs : List Char) : trimEndChars cs ⊆ cs := by
  intro c hc
  rw [trimEndChars, List.mem_reverse] at hc
  exact List.mem_reverse.1 (List.dropWhile_subset _ hc)

theorem trim_subset (s : String) : (trim s).toList ⊆ s.toList := by
  rw [trim, String.toList_ofList, trimChars]
  exact List.Subset.trans (trimEndChars_subset _) (List.dropWhile_subset _)

/-- The parts between separators have only characters of the whole. -/
theorem splitOnP_subset {p : Char → Bool} (h : part ∈ cs.splitOnP p) : part ⊆ cs := by
  induction cs generalizing part with
  | nil =>
    rw [List.splitOnP_nil, List.mem_singleton] at h
    rw [h]
    exact List.Subset.refl _
  | cons c cs ih =>
    rw [List.splitOnP_cons_eq_if_modifyHead] at h
    split_ifs at h
    · rcases List.mem_cons.1 h with rfl | hpart
      · exact List.nil_subset _
      · exact List.subset_cons_of_subset c (ih hpart)
    · -- The character belongs to the first part, and the other parts are as before.
      cases hparts : cs.splitOnP p with
      | nil => exact absurd hparts (List.splitOnP_ne_nil _ _)
      | cons first others =>
        rw [hparts, List.modifyHead_cons] at h
        rcases List.mem_cons.1 h with rfl | hpart
        · exact List.cons_subset_cons c (ih (hparts ▸ List.mem_cons_self))
        · exact List.subset_cons_of_subset c (ih (hparts ▸ List.mem_cons_of_mem first hpart))

theorem words_subset (h : t ∈ words s) : t.toList ⊆ s.toList := by
  obtain ⟨word, hword, rfl⟩ := List.mem_map.1 h
  rw [String.toList_ofList]
  exact splitOnP_subset (List.mem_filter.1 hword).1

/-- The lines behind the start of one have only characters of that start and of what follows. -/
theorem linesFrom_subset (h : part ∈ linesFrom line cs) : part ⊆ line ++ cs := by
  fun_induction linesFrom line cs with
  | case1 line hempty => exact absurd h List.not_mem_nil
  | case2 line hsome =>
    rw [List.mem_singleton.1 h, List.append_nil]
    exact fun c hc => List.mem_reverse.1 hc
  | case3 line rest ih =>
    rcases List.mem_cons.1 h with rfl | hlater
    · exact fun c hc => List.mem_append_left _ (List.mem_reverse.1 hc)
    · exact fun c hc => List.mem_append_right _ (by simpa using .inr (.inr (ih hlater hc)))
  | case4 line c rest hne hbreak ih =>
    rcases List.mem_cons.1 h with rfl | hlater
    · exact fun c hc => List.mem_append_left _ (List.mem_reverse.1 hc)
    · exact fun d hd => List.mem_append_right _ (List.mem_cons_of_mem c (ih hlater hd))
  | case5 line c rest hne hgoes ih =>
    -- The character goes over from the text to the start of the line.
    intro d hd
    have hin := ih h hd
    simp only [List.cons_append, List.mem_cons, List.mem_append] at hin ⊢
    tauto

theorem lines_subset (h : t ∈ lines s) : t.toList ⊆ s.toList := by
  obtain ⟨part, hpart, rfl⟩ := List.mem_map.1 h
  rw [String.toList_ofList]
  exact linesFrom_subset hpart

theorem EscapeFree.of_subset (h : EscapeFree s) (hsub : t.toList ⊆ s.toList) : EscapeFree t :=
  fun c hc => h c (hsub hc)

/-! ### What is put together -/

theorem escapeFree_append : EscapeFree (s ++ t) ↔ EscapeFree s ∧ EscapeFree t := by
  simp only [EscapeFree, String.toList_append, List.forall_mem_append]

theorem escapeFree_ofList : EscapeFree (String.ofList cs) ↔ ∀ c ∈ cs, c ≠ '\x1b' := by
  rw [EscapeFree, String.toList_ofList]

theorem escapeFree_intercalate (hbetween : EscapeFree between) (h : ∀ p ∈ parts, EscapeFree p) :
    EscapeFree (between.intercalate parts) := by
  induction parts with
  | nil => exact List.forall_mem_nil _
  | cons p parts ih =>
    obtain ⟨hp, hparts⟩ := List.forall_mem_cons.1 h
    cases parts with
    | nil =>
      rw [String.intercalate_singleton]
      exact hp
    | cons q parts =>
      rw [String.intercalate_cons_of_ne_nil (List.cons_ne_nil q parts), escapeFree_append,
        escapeFree_append]
      exact ⟨⟨hp, hbetween⟩, ih hparts⟩

theorem escapeFree_join (h : ∀ p ∈ parts, EscapeFree p) : EscapeFree (String.join parts) := by
  induction parts with
  | nil => decide
  | cons p parts ih =>
    obtain ⟨hp, hparts⟩ := List.forall_mem_cons.1 h
    rw [String.join_cons, escapeFree_append]
    exact ⟨hp, ih hparts⟩

/-! ### Lower-case forms -/

theorem toNat_ofNat {n : Nat} (h : n.isValidChar) : (Char.ofNat n).toNat = n := by
  rw [Char.ofNat, dif_pos h]
  rfl

/-- A code point that no character has makes the first character of all. -/
theorem ofNat_ne_escape {n : Nat} (h : n ≠ 0x1b) : Char.ofNat n ≠ '\x1b' := by
  intro hescape
  by_cases hvalid : n.isValidChar
  · have hcode := toNat_ofNat hvalid
    rw [hescape] at hcode
    exact h hcode.symm
  · rw [Char.ofNat, dif_neg hvalid] at hescape
    exact absurd hescape (by decide)

theorem escapeFree_lower (h : EscapeFree s) : EscapeFree (lower s) := by
  have htables : 0x1b ∉ lowerForms := by decide +kernel
  rw [lower, escapeFree_ofList]
  intro c hc
  obtain ⟨hin, -⟩ | ⟨n, hn, rfl⟩ := mem_or_mem_lowerForms hc
  · exact h c hin
  · refine ofNat_ne_escape ?_
    rintro rfl
    exact htables hn

/-! ### Numbers -/

theorem ne_escape_of_mem_toDigits {c : Char} {n : Nat} (h : c ∈ Nat.toDigits 10 n) :
    c ≠ '\x1b' := by
  rintro rfl
  exact absurd (Nat.isDigit_of_mem_toDigits (by decide) (by decide) h) (by decide)

theorem escapeFree_repr (n : Nat) : EscapeFree n.repr := by
  rw [← Nat.toString_eq_repr, Nat.toString_eq_ofList_toDigits, escapeFree_ofList]
  exact fun c hc => ne_escape_of_mem_toDigits hc

theorem escapeFree_toString (n : Int) : EscapeFree (toString n) := by
  rw [Int.toString_eq_repr]
  cases n with
  | ofNat m => exact escapeFree_repr m
  | negSucc m => exact escapeFree_append.2 ⟨by decide, escapeFree_repr (m + 1)⟩

end Text

namespace Decimal

open Text (EscapeFree escapeFree_append escapeFree_ofList)

variable {ds : List Char}

theorem ne_escape_of_mem_significant (h : ∀ c ∈ ds, c ≠ '\x1b') :
    ∀ c ∈ significant ds, c ≠ '\x1b' := by
  rw [significant]
  split
  · exact List.forall_mem_singleton.2 (by decide)
  · intro c hc
    exact h c (List.mem_reverse.1 (List.dropWhile_subset _ (List.mem_reverse.1 hc)))

theorem ne_escape_of_mem_replicate (n : Nat) : ∀ c ∈ List.replicate n '0', c ≠ '\x1b' := by
  intro c hc
  rw [List.eq_of_mem_replicate hc]
  decide

/-- Digits that are laid out gain zeros, a point, an exponent and its sign. -/
theorem ne_escape_of_mem_layOut (st : Style) (h : ∀ c ∈ ds, c ≠ '\x1b') (e : Int) :
    ∀ c ∈ layOut st ds e, c ≠ '\x1b' := by
  have htake : ∀ n, ∀ c ∈ ds.take n, c ≠ '\x1b' := fun n c hc => h c (List.mem_of_mem_take hc)
  have hdrop : ∀ n, ∀ c ∈ ds.drop n, c ≠ '\x1b' := fun n c hc => h c (List.mem_of_mem_drop hc)
  have hzeros := ne_escape_of_mem_replicate
  have hzero : ∀ c ∈ ['0'], c ≠ '\x1b' := hzeros 1
  have hexponent : ∀ c ∈ Nat.toDigits 10 e.natAbs, c ≠ '\x1b' :=
    fun c hc => Text.ne_escape_of_mem_toDigits hc
  simp only [layOut]
  split_ifs
  · simp only [List.cons_append, List.forall_mem_cons, List.forall_mem_append]
    exact ⟨by decide, by decide, hzeros _, h⟩
  · simp only [List.forall_mem_append]
    exact ⟨⟨htake _, hzeros _⟩, List.forall_mem_cons.2 ⟨by decide, hzero⟩⟩
  · simp only [List.forall_mem_append, List.forall_mem_cons]
    exact ⟨⟨htake _, hzeros _⟩, by decide, hdrop _⟩
  -- With an exponent, a point follows the first of several digits.
  all_goals
    simp only [padZeros, List.forall_mem_append, List.forall_mem_cons]
    refine ⟨?_, by decide, by decide, hzeros _, hexponent⟩
    split
    · exact h
    · rw [List.forall_mem_cons] at h ⊢
      exact ⟨h.1, List.forall_mem_cons.2 ⟨by decide, h.2⟩⟩
    · exact h

theorem escapeFree_text (x : Float) : EscapeFree (text x) := by
  have hfinite : ∀ m q, EscapeFree (String.ofList (finiteChars m q)) := by
    intro m q
    rw [finiteChars]
    split_ifs
    · decide
    · rw [escapeFree_ofList]
      exact ne_escape_of_mem_layOut _
        (ne_escape_of_mem_significant fun c hc => Text.ne_escape_of_mem_toDigits hc) _
  have hsign : ∀ negative : Bool, EscapeFree (if negative then "-" else "") := by
    decide
  simp only [text, textWith]
  split
  · exact escapeFree_append.2 ⟨hsign _, hfinite _ _⟩
  · exact escapeFree_append.2 ⟨hsign _, by decide⟩
  · decide

/-- A number is written without the escape character. -/
theorem escapeFree_brief (x : Float) : EscapeFree (brief x) := by
  rw [brief]
  split
  · exact Text.escapeFree_toString _
  · exact escapeFree_text x

end Decimal

end MissionConsole
