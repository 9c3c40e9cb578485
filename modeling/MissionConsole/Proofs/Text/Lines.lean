import MissionConsole.Proofs.Text.Words
import MissionConsole.Text.Lines

/-!
# Lines put together and taken apart

Texts without line breaks that are joined by line feeds come apart into the same texts again, if
none of them is empty. A text that does not end with a blank is one line only if it holds no line
break, and is that line then.

## Main definitions

* `Text.Unbroken` — texts without line breaks

## Main results

* `Text.lines_intercalate` — texts joined by line feeds are the lines of what they are joined to
* `Text.lines_eq_singleton_iff` — the texts that are one line
-/

namespace MissionConsole.Text

/-- A text holds no line break. -/
def Unbroken (s : String) : Prop := ∀ c ∈ s.toList, isLineBreak c = false

instance (s : String) : Decidable (Unbroken s) :=
  decidable_of_iff (s.toList.any isLineBreak = false) (by simp [Unbroken])

variable {cs : List Char} {s t : String}

theorem isBlank_of_isLineBreak {c : Char} (h : isLineBreak c = true) : isBlank c = true := by
  simp only [isLineBreak, Bool.or_eq_true, Bool.and_eq_true, decide_eq_true_eq, beq_iff_eq] at h
  simp only [isBlank, blankRanges, inRanges, List.any_cons, List.any_nil, Bool.or_eq_true,
    Bool.and_eq_true, decide_eq_true_eq]
  omega

theorem isLineBreak_eq_false {c : Char} (h : isBlank c = false) : isLineBreak c = false :=
  Bool.eq_false_iff.2 fun hbreak =>
    Bool.false_ne_true (h.symm.trans (isBlank_of_isLineBreak hbreak))

/-- Words are unbroken. -/
theorem IsWord.unbroken (h : IsWord s) : Unbroken s :=
  fun c hc => isLineBreak_eq_false (h.not_blank c hc)

theorem unbroken_append {s t : String} : Unbroken (s ++ t) ↔ Unbroken s ∧ Unbroken t := by
  simp only [Unbroken, String.toList_append, List.forall_mem_append]

/-- Joined texts are unbroken if what joins them is, and all of them are. -/
theorem unbroken_intercalate {between : String} (hbetween : Unbroken between)
    {parts : List String} :
    Unbroken (between.intercalate parts) ↔ ∀ p ∈ parts, Unbroken p := by
  induction parts with
  | nil => exact iff_of_true (fun c hc => absurd hc List.not_mem_nil) (List.forall_mem_nil _)
  | cons p parts ih =>
    cases parts with
    | nil => rw [String.intercalate_singleton, List.forall_mem_singleton]
    | cons q parts =>
      rw [String.intercalate_cons_of_ne_nil (List.cons_ne_nil q parts), unbroken_append,
        unbroken_append, ih, List.forall_mem_cons (a := p)]
      exact and_congr_left fun _ => and_iff_left hbetween

/-! ### Unbroken characters -/

/-- Characters up to a line feed are a line. -/
theorem linesFrom_of_unbroken (line : List Char) (h : ∀ c ∈ cs, isLineBreak c = false)
    (rest : List Char) :
    linesFrom line (cs ++ '\n' :: rest) = (line.reverse ++ cs) :: linesFrom [] rest := by
  induction cs generalizing line with
  | nil =>
    rw [List.nil_append, linesFrom, if_pos (by decide), List.append_nil]
    exact fun _ h => absurd h (by decide)
  | cons c cs ih =>
    have hc := h c List.mem_cons_self
    rw [List.cons_append, linesFrom, if_neg (by simp [hc]),
      ih (c :: line) fun d hd => h d (List.mem_cons_of_mem c hd)]
    · simp
    · rintro _ rfl
      exact absurd hc (by decide)

/-- Characters up to the end are a line, if there are any. -/
theorem linesFrom_of_unbroken_end (line : List Char) (h : ∀ c ∈ cs, isLineBreak c = false) :
    linesFrom line cs = if line.reverse ++ cs = [] then [] else [line.reverse ++ cs] := by
  induction cs generalizing line with
  | nil =>
    rw [linesFrom, List.append_nil]
    cases line <;> simp
  | cons c cs ih =>
    have hc := h c List.mem_cons_self
    rw [linesFrom, if_neg (by simp [hc]),
      ih (c :: line) fun d hd => h d (List.mem_cons_of_mem c hd)]
    · simp
    · rintro _ rfl
      exact absurd hc (by decide)

theorem lines_of_unbroken (hne : s ≠ "") (h : Unbroken s) : lines s = [s] := by
  rw [lines, linesFrom_of_unbroken_end [] h]
  simp [String.toList_eq_nil_iff, hne]

/-- Texts joined by line feeds are the lines of what they are joined to. -/
theorem lines_intercalate {parts : List String} (hne : ∀ p ∈ parts, p ≠ "")
    (h : ∀ p ∈ parts, Unbroken p) : lines ("\n".intercalate parts) = parts := by
  induction parts with
  | nil => rfl
  | cons p parts ih =>
    have hp := h p List.mem_cons_self
    have hrest := ih (fun q hq => hne q (List.mem_cons_of_mem p hq))
      fun q hq => h q (List.mem_cons_of_mem p hq)
    cases parts with
    | nil =>
      rw [String.intercalate_singleton]
      exact lines_of_unbroken (hne p List.mem_cons_self) hp
    | cons q parts =>
      have htext : ("\n".intercalate (p :: q :: parts)).toList =
          p.toList ++ '\n' :: ("\n".intercalate (q :: parts)).toList := by
        rw [String.intercalate_cons_of_ne_nil (List.cons_ne_nil q parts)]
        simp
      rw [lines] at hrest ⊢
      rw [htext, linesFrom_of_unbroken [] hp, List.map_cons, hrest]
      simp

/-! ### Texts of one line -/

/-- Only the empty text has no lines. -/
theorem eq_nil_of_linesFrom_eq_nil {line : List Char} (h : linesFrom line cs = []) :
    line = [] ∧ cs = [] := by
  fun_induction linesFrom line cs with
  | case1 line hline => exact ⟨List.isEmpty_iff.1 hline, rfl⟩
  | case2 | case3 | case4 => exact absurd h (List.cons_ne_nil _ _)
  | case5 line c rest _ _ ih => exact absurd (ih h).1 (List.cons_ne_nil c line)

theorem lines_eq_nil_iff : lines s = [] ↔ s = "" := by
  refine ⟨fun h => ?_, fun h => by rw [h]; rfl⟩
  exact String.toList_eq_nil_iff.1 (eq_nil_of_linesFrom_eq_nil (List.map_eq_nil_iff.1 h)).2

/-- If there is one line only, the characters hold no line break but at their end. -/
theorem unbroken_of_linesFrom_eq_singleton {line l : List Char}
    (hlast : ∀ c ∈ cs.getLast?, isLineBreak c = false) (h : linesFrom line cs = [l]) :
    ∀ c ∈ cs, isLineBreak c = false := by
  -- Behind a line break nothing is left, so the line break is the last character.
  have hend {c : Char} {rest : List Char} (hc : isLineBreak c = true)
      (hrest : linesFrom [] rest = []) (hlast : ∀ d ∈ (c :: rest).getLast?, isLineBreak d = false) :
      False := by
    rw [(eq_nil_of_linesFrom_eq_nil hrest).2] at hlast
    exact Bool.false_ne_true ((hlast c rfl).symm.trans hc)
  fun_induction linesFrom line cs with
  | case1 | case2 => exact fun c hc => absurd hc List.not_mem_nil
  | case3 line rest ih =>
    exact (hend (by decide : isLineBreak '\n' = true) (List.cons.inj h).2
      (by simpa [List.getLast?_cons_cons] using hlast)).elim
  | case4 line c rest _ hc ih => exact (hend hc (List.cons.inj h).2 hlast).elim
  | case5 line c rest _ hc ih =>
    have hrest : ∀ d ∈ rest.getLast?, isLineBreak d = false := by
      intro d hd
      refine hlast d ?_
      rw [List.getLast?_cons, Option.mem_def.1 hd]
      rfl
    intro d hd
    rcases List.mem_cons.1 hd with rfl | hd
    · exact Bool.eq_false_iff.2 hc
    · exact ih hrest h d hd

/-- A text that ends visibly is one line only if it is that line. -/
theorem lines_eq_singleton_iff (hs : EndsVisibly s) : lines s = [t] ↔ s = t ∧ Unbroken s := by
  constructor
  · intro h
    have hlast : ∀ c ∈ s.toList.getLast?, isLineBreak c = false := by
      obtain ⟨d, hd, hblank⟩ := hs
      intro c hc
      rw [Option.mem_unique hc hd]
      exact isLineBreak_eq_false hblank
    obtain ⟨l, hl, -⟩ := List.map_eq_singleton_iff.1 h
    have hunbroken : Unbroken s := unbroken_of_linesFrom_eq_singleton hlast hl
    rw [lines_of_unbroken hs.ne_empty hunbroken] at h
    exact ⟨List.head_eq_of_cons_eq h, hunbroken⟩
  · rintro ⟨rfl, hunbroken⟩
    exact lines_of_unbroken hs.ne_empty hunbroken

end MissionConsole.Text
