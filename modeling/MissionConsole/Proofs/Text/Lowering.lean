import MissionConsole.Text.Lowercase
import MissionConsole.Text.Split
import Mathlib.Data.Nat.Bitwise

/-!
# Lower-case forms

A character that is its own lower-case form stays where it is, whatever stands around it; only a
capital sigma looks at its neighbours. So a text of such characters is found again in the lower-case
form of every text that holds it. A lower-case form has no other characters: lower-casing it again
changes nothing, and a text with a capital is found in no lower-case form at all.

That no lower-case form has capitals is a fact about the case tables. The code points that move and
those that they move to are written as the bits of two numbers, which have no bit in common.

## Main definitions

* `Text.IsLower` — a character that is its own lower-case form
* `Text.capitals`, `Text.lowerForms` — the code points that move, and where they move to

## Main results

* `Text.isLower_of_mem_lowerFrom`, `Text.lower_lower` — a lower-case form is its own lower-case form
* `Text.contains_lower` — what is found in the lower-case form of a text
* `Text.lower_eq_of_contains_lower` — nothing else is found in one
-/

namespace MissionConsole.Text

/-- A character that is its own lower-case form. -/
def IsLower (c : Char) : Prop := lowerChar c = [c]

instance : DecidablePred IsLower := fun c => inferInstanceAs (Decidable (lowerChar c = [c]))

/-! ### The case tables -/

/-- The code points that a run moves. -/
def CaseRun.codes (r : CaseRun) : List Nat :=
  (List.range ((r.last - r.first) / r.step + 1)).map fun i => r.first + i * r.step

/-- All code points that have another lower-case form. -/
def capitals : List Nat :=
  List.range' 65 26 ++ 0x130 :: lowerRuns.flatMap CaseRun.codes

/-- The code points of their lower-case forms. -/
def lowerForms : List Nat :=
  List.range' 97 26 ++ 0x307 :: 0x3c2 :: 0x3c3 ::
    lowerRuns.flatMap fun r => r.codes.map fun n : Nat => ((n : Int) + r.shift).toNat

/-- Numbers as the bits of one number. -/
def bits (ns : List Nat) : Nat := ns.foldr (fun n acc => 2 ^ n ||| acc) 0

theorem testBit_bits {ns : List Nat} {n : Nat} (h : n ∈ ns) : (bits ns).testBit n = true := by
  induction ns with
  | nil => exact absurd h List.not_mem_nil
  | cons m ns ih =>
    rw [bits, List.foldr_cons, Nat.testBit_or, Bool.or_eq_true]
    rcases List.mem_cons.1 h with rfl | h
    · exact .inl Nat.testBit_two_pow_self
    · exact .inr (ih h)

/-- No lower-case form moves again. -/
theorem not_mem_capitals {n : Nat} (h : n ∈ lowerForms) : n ∉ capitals := by
  intro hcapital
  have hdisjoint : bits lowerForms &&& bits capitals = 0 := by decide +kernel
  have hbit := congrArg (Nat.testBit · n) hdisjoint
  simp only [Nat.testBit_and, testBit_bits h, testBit_bits hcapital, Nat.zero_testBit] at hbit
  exact absurd hbit (by decide)

theorem CaseRun.mem_codes {r : CaseRun} {n : Nat} (h : r.moves n = true) : n ∈ r.codes := by
  simp only [moves, Bool.and_eq_true, decide_eq_true_eq, beq_iff_eq] at h
  obtain ⟨⟨hfirst, hlast⟩, hstep⟩ := h
  refine List.mem_map.2 ⟨(n - r.first) / r.step, List.mem_range.2 ?_, ?_⟩
  · exact Nat.lt_succ_of_le (Nat.div_le_div_right (Nat.sub_le_sub_right hlast _))
  · rw [Nat.div_mul_cancel (Nat.dvd_of_mod_eq_zero hstep)]
    exact Nat.add_sub_cancel' hfirst

/-- A character whose code point does not move is its own lower-case form. -/
theorem isLower_of_not_mem {c : Char} (h : c.toNat ∉ capitals) : IsLower c := by
  simp only [capitals, List.mem_append, List.mem_cons, List.mem_range'_1, List.mem_flatMap,
    not_or, not_exists, not_and] at h
  obtain ⟨hascii, hdotted, hruns⟩ := h
  have hnone : lowerRuns.find? (·.moves c.toNat) = none :=
    List.find?_eq_none.2 fun r hr hmoves => hruns r hr (CaseRun.mem_codes hmoves)
  have hletter : ¬(65 ≤ c.toNat ∧ c.toNat ≤ 90) := by omega
  simp only [IsLower, lowerChar, hnone, hdotted, hletter, if_false, ite_self]

/-- A code point that no character has makes the first character of all, which does not move. -/
theorem isLower_ofNat {n : Nat} (h : n ∈ lowerForms) : IsLower (Char.ofNat n) := by
  by_cases hvalid : n.isValidChar
  · have hcode : (Char.ofNat n).toNat = n := by
      rw [Char.ofNat, dif_pos hvalid]
      rfl
    exact isLower_of_not_mem (hcode.symm ▸ not_mem_capitals h)
  · have hzero : Char.ofNat n = Char.ofNat 0 := by
      rw [Char.ofNat, dif_neg hvalid]
      rfl
    rw [hzero]
    decide +kernel

/-- A character is its own lower-case form, or the form comes from the tables. -/
theorem isLower_or_mem_lowerForms (c : Char) :
    IsLower c ∨ ∀ d ∈ lowerChar c, ∃ n ∈ lowerForms, d = Char.ofNat n := by
  simp only [IsLower, lowerChar]
  split_ifs with hascii hletter hdotted
  · refine .inr fun d hd => ⟨c.toNat + 32, ?_, List.mem_singleton.1 hd⟩
    refine List.mem_append_left _ (List.mem_range'_1.2 ?_)
    omega
  · exact .inl rfl
  · have hforms : 'i'.toNat ∈ lowerForms ∧ 0x307 ∈ lowerForms := by decide +kernel
    refine .inr fun d hd => ?_
    simp only [List.mem_cons, List.not_mem_nil, or_false] at hd
    rcases hd with rfl | rfl
    · exact ⟨_, hforms.1, rfl⟩
    · exact ⟨_, hforms.2, rfl⟩
  · split
    · rename_i r hrun
      refine .inr fun d hd => ⟨_, List.mem_append_right _ ?_, List.mem_singleton.1 hd⟩
      refine List.mem_cons_of_mem _ (List.mem_cons_of_mem _ (List.mem_cons_of_mem _ ?_))
      have hmoves := List.find?_some hrun
      exact List.mem_flatMap.2
        ⟨r, List.mem_of_find?_eq_some hrun, List.mem_map_of_mem (CaseRun.mem_codes hmoves)⟩
    · exact .inl rfl

/-! ### Lower-casing a text -/

variable {before cs part : List Char} {s k : String}

/-- A capital sigma is no lower-case form. -/
theorem IsLower.ne_sigma {c : Char} (h : IsLower c) : c.toNat ≠ 0x3a3 := by
  intro hsigma
  have hc : c = Char.ofNat 0x3a3 := by rw [← hsigma, Char.ofNat_toNat]
  rw [hc] at h
  exact absurd h (by decide +kernel)

/-- A lower-case form is made of characters of the text that are their own, and of forms from the
tables. -/
theorem mem_or_mem_lowerForms {d : Char} (h : d ∈ lowerFrom before cs) :
    d ∈ cs ∧ IsLower d ∨ ∃ n ∈ lowerForms, d = Char.ofNat n := by
  induction cs generalizing before with
  | nil => exact absurd h List.not_mem_nil
  | cons first rest ih =>
    rw [lowerFrom, List.mem_append] at h
    rcases h with hfirst | hrest
    · -- Both forms of the small sigma are in the tables.
      have hforms : 0x3c2 ∈ lowerForms ∧ 0x3c3 ∈ lowerForms := by decide +kernel
      split_ifs at hfirst
      · exact .inr ⟨_, hforms.1, List.mem_singleton.1 hfirst⟩
      · exact .inr ⟨_, hforms.2, List.mem_singleton.1 hfirst⟩
      · rcases isLower_or_mem_lowerForms first with hlower | htable
        · rw [hlower, List.mem_singleton] at hfirst
          rw [hfirst]
          exact .inl ⟨List.mem_cons_self, hlower⟩
        · exact .inr (htable d hfirst)
    · exact (ih hrest).imp_left fun ⟨hd, hlower⟩ => ⟨List.mem_cons_of_mem first hd, hlower⟩

/-- A lower-case form is made of characters that are their own. -/
theorem isLower_of_mem_lowerFrom : ∀ c ∈ lowerFrom before cs, IsLower c := by
  intro c hc
  obtain ⟨-, hlower⟩ | ⟨n, hn, rfl⟩ := mem_or_mem_lowerForms hc
  · exact hlower
  · exact isLower_ofNat hn

/-- What comes first is lower-cased by itself, apart from what follows it. -/
theorem lowerFrom_append (before a b : List Char) :
    ∃ start, lowerFrom before (a ++ b) = start ++ lowerFrom (a.reverse ++ before) b := by
  induction a generalizing before with
  | nil => exact ⟨[], rfl⟩
  | cons c a ih =>
    obtain ⟨start, hstart⟩ := ih (c :: before)
    rw [List.cons_append, lowerFrom, hstart, ← List.append_assoc, List.reverse_cons,
      List.append_assoc a.reverse]
    exact ⟨_, rfl⟩

/-- Characters that are their own lower-case forms stay. -/
theorem lowerFrom_of_isLower (hpart : ∀ c ∈ part, IsLower c) (before rest : List Char) :
    lowerFrom before (part ++ rest) = part ++ lowerFrom (part.reverse ++ before) rest := by
  induction part generalizing before with
  | nil => rfl
  | cons c part ih =>
    obtain ⟨hc, hpart⟩ := List.forall_mem_cons.1 hpart
    rw [List.cons_append, lowerFrom, if_neg hc.ne_sigma, hc, ih hpart, List.reverse_cons,
      List.append_assoc part.reverse]
    rfl

/-- A text is its own lower-case form exactly if all its characters are. -/
theorem lower_eq_self_iff : lower s = s ↔ ∀ c ∈ s.toList, IsLower c := by
  constructor
  · intro hself c hc
    rw [← hself, lower, String.toList_ofList] at hc
    exact isLower_of_mem_lowerFrom c hc
  · intro hall
    have hsame := lowerFrom_of_isLower hall [] []
    rw [List.append_nil, lowerFrom, List.append_nil] at hsame
    rw [lower, hsame, String.ofList_toList]

/-- Lower-casing twice is lower-casing once. -/
theorem lower_lower (s : String) : lower (lower s) = lower s := by
  refine lower_eq_self_iff.2 fun c hc => ?_
  rw [lower, String.toList_ofList] at hc
  exact isLower_of_mem_lowerFrom c hc

theorem lowerChar_ne_nil (c : Char) : lowerChar c ≠ [] := by
  simp only [lowerChar]
  split_ifs
  · exact List.cons_ne_nil _ _
  · exact List.cons_ne_nil _ _
  · exact List.cons_ne_nil _ _
  · split <;> exact List.cons_ne_nil _ _

/-- Only the empty text has an empty lower-case form. -/
theorem lower_ne_empty (hs : s ≠ "") : lower s ≠ "" := by
  rw [Ne, ← String.toList_eq_nil_iff] at hs ⊢
  rw [lower, String.toList_ofList]
  cases hcs : s.toList with
  | nil => exact absurd hcs hs
  | cons c rest =>
    rw [lowerFrom]
    refine List.append_ne_nil_of_left_ne_nil ?_ _
    split_ifs
    · exact List.cons_ne_nil _ _
    · exact List.cons_ne_nil _ _
    · exact lowerChar_ne_nil c

/-- What is its own lower-case form is found in the lower-case form of every text that holds it. -/
theorem contains_lower (hk : lower k = k) (hcontains : contains s k = true) :
    contains (lower s) k = true := by
  rw [contains, containsChars_iff] at hcontains ⊢
  obtain ⟨a, b, hsplit⟩ := hcontains
  obtain ⟨start, hstart⟩ := lowerFrom_append [] a (k.toList ++ b)
  rw [lowerFrom_of_isLower (lower_eq_self_iff.1 hk), ← List.append_assoc, hsplit] at hstart
  rw [lower, String.toList_ofList, hstart, ← List.append_assoc]
  exact List.infix_append _ _ _

/-- Nothing else is found in a lower-case form. -/
theorem lower_eq_of_contains_lower (hcontains : contains (lower s) k = true) : lower k = k := by
  rw [contains, containsChars_iff, lower, String.toList_ofList] at hcontains
  exact lower_eq_self_iff.2 fun c hc => isLower_of_mem_lowerFrom c (hcontains.subset hc)

end MissionConsole.Text
