import MissionConsole.Json.Parser
import MissionConsole.Json.Printer
import Mathlib.Tactic.SplitIfs

/-!
# Written texts are read back

A text is written between quotes with escapes, character by character, so both what is written and
how it is read are settled by one character. A character is one unit of sixteen bits or, beyond
them, a pair of surrogates; since no character is itself a surrogate, the pairs are told apart from
their neighbours.

## Main definitions

* `Json.IsVisible` — the characters that texts are written in
* `Json.Written` — the ways in which a character is written
* `Json.charUnits` — the units of a character

## Main results

* `Json.isVisible_stringChars` — a text is written in visible characters
* `Json.string?_stringChars` — a written text is read back
-/

namespace MissionConsole.Json

variable {c d : Char} {n : Nat}

/-! ### Visible characters -/

/-- The characters that texts are written in: a space and the visible ones of ASCII. -/
def IsVisible (c : Char) : Prop := 0x20 ≤ c.toNat ∧ c.toNat < 0x7f

instance (c : Char) : Decidable (IsVisible c) := inferInstanceAs (Decidable (_ ∧ _))

theorem isVisible_of_all {cs : List Char} (h : cs.all (fun c => decide (IsVisible c)) = true) :
    ∀ c ∈ cs, IsVisible c :=
  fun c hc => of_decide_eq_true (List.all_eq_true.1 h c hc)

theorem isVisible_hexDigit : ∀ d < 16, IsVisible (Text.hexDigit d) := by decide

theorem isVisible_hexDigits {width : Nat} (h : c ∈ Text.hexDigits width n) : IsVisible c := by
  induction width generalizing n with
  | zero => cases h
  | succ width ih =>
    rcases List.mem_append.1 h with hearlier | hlast
    · exact ih hearlier
    · rw [List.mem_singleton.1 hlast]
      exact isVisible_hexDigit _ (Nat.mod_lt n (by decide))

theorem isVisible_unitEscape (h : d ∈ unitEscape n) : IsVisible d := by
  rcases List.mem_cons.1 h with rfl | h
  · decide
  rcases List.mem_cons.1 h with rfl | h
  · decide
  · exact isVisible_hexDigits h

/-! ### Hexadecimal digits -/

theorem hexValue?_hexDigit : ∀ d < 16, hexValue? (Text.hexDigit d) = some d := by decide

/-- The four digits of a unit are read back. -/
theorem unit?_hexDigit (hn : n < 0x10000) :
    unit? (Text.hexDigit (n / 16 / 16 / 16 % 16)) (Text.hexDigit (n / 16 / 16 % 16))
      (Text.hexDigit (n / 16 % 16)) (Text.hexDigit (n % 16)) = some n := by
  have hdigit (m : Nat) : hexValue? (Text.hexDigit (m % 16)) = some (m % 16) :=
    hexValue?_hexDigit _ (Nat.mod_lt m (by decide))
  simp only [unit?, hdigit, Option.bind_eq_bind, Option.bind_some, Option.some.injEq]
  omega

/-! ### Writing a character -/

/-- The four ways in which a character is written: an escape of one letter, the character itself,
its unit, or a pair of units. -/
inductive Written (c : Char) : List Char → Prop where
  | short {d : Char} (hvisible : IsVisible d) (hu : d ≠ 'u')
    (hshort : shortEscape? d = some c.toNat) (hsmall : c.toNat < 0x10000) : Written c ['\\', d]
  | self (hquote : c ≠ '"') (hslash : c ≠ '\\') (hvisible : IsVisible c) : Written c [c]
  | unit (hsmall : c.toNat < 0x10000) : Written c (unitEscape c.toNat)
  | pair (hlarge : 0x10000 ≤ c.toNat) :
    Written c (unitEscape (0xd800 + (c.toNat - 0x10000) / 0x400) ++
      unitEscape (0xdc00 + (c.toNat - 0x10000) % 0x400))

theorem written_escapeChar (c : Char) : Written c (escapeChar c) := by
  simp only [escapeChar]
  split_ifs with hquote hslash hfeed hreturn htab hback hform hself hunit
  · subst hquote
    exact .short (by decide) (by decide) rfl (by decide)
  · subst hslash
    exact .short (by decide) (by decide) rfl (by decide)
  · exact .short (by decide) (by decide) (hfeed ▸ rfl) (by omega)
  · exact .short (by decide) (by decide) (hreturn ▸ rfl) (by omega)
  · exact .short (by decide) (by decide) (htab ▸ rfl) (by omega)
  · exact .short (by decide) (by decide) (hback ▸ rfl) (by omega)
  · exact .short (by decide) (by decide) (hform ▸ rfl) (by omega)
  · exact .self hquote hslash hself
  · exact .unit hunit
  · exact .pair (Nat.le_of_not_lt hunit)

/-- Whatever a character is, it is written in visible ones. -/
theorem isVisible_escapeChar (h : d ∈ escapeChar c) : IsVisible d := by
  have hwritten := written_escapeChar c
  generalize escapeChar c = cs at h hwritten
  cases hwritten with
  | short hvisible =>
    rcases List.mem_cons.1 h with rfl | h
    · decide
    · exact List.mem_singleton.1 h ▸ hvisible
  | self _ _ hvisible => exact List.mem_singleton.1 h ▸ hvisible
  | unit => exact isVisible_unitEscape h
  | pair => exact (List.mem_append.1 h).elim isVisible_unitEscape isVisible_unitEscape

/-! ### Reading a character -/

/-- The units of sixteen bits of a character. -/
def charUnits (c : Char) : List Nat :=
  if c.toNat < 0x10000 then [c.toNat]
  else [0xd800 + (c.toNat - 0x10000) / 0x400, 0xdc00 + (c.toNat - 0x10000) % 0x400]

/-- What is read when these units come first. -/
def prependUnits (us : List Nat) :
    Option (List Nat × List Char) → Option (List Nat × List Char) :=
  Option.map fun p => (us ++ p.1, p.2)

theorem prependUnits_append (us vs : List Nat) (read : Option (List Nat × List Char)) :
    prependUnits (us ++ vs) read = prependUnits us (prependUnits vs read) := by
  cases read <;> simp [prependUnits]

theorem stringUnits_unitEscape (hn : n < 0x10000) (rest : List Char) :
    stringUnits (unitEscape n ++ rest) = prependUnits [n] (stringUnits rest) := by
  simp only [unitEscape, Text.hexDigits, List.nil_append, List.cons_append, stringUnits,
    unit?_hexDigit hn, prependUnits]
  cases stringUnits rest <;> rfl

theorem stringUnits_shortEscape (hu : d ≠ 'u') (hd : shortEscape? d = some n)
    (rest : List Char) :
    stringUnits ('\\' :: d :: rest) = prependUnits [n] (stringUnits rest) := by
  rw [stringUnits]
  · simp only [hd, prependUnits]
    cases stringUnits rest <;> rfl
  · exact fun _ _ _ _ _ h _ => hu h

/-- A character that is neither a quote nor a backslash nor a control character stands for
itself. -/
theorem stringUnits_self (hquote : c ≠ '"') (hslash : c ≠ '\\') (hc : 32 ≤ c.toNat)
    (rest : List Char) :
    stringUnits (c :: rest) = prependUnits [c.toNat] (stringUnits rest) := by
  rw [stringUnits]
  · rw [if_neg (by simp only [hslash, false_or]; omega), prependUnits]
    cases stringUnits rest <;> rfl
  · exact hquote
  · exact fun _ _ _ _ _ h _ => hslash h
  · exact fun _ _ h _ => hslash h

theorem toNat_lt (c : Char) : c.toNat < 0x110000 := by
  have hvalid := c.valid
  rw [UInt32.isValidChar, Nat.isValidChar] at hvalid
  change c.val.toNat < 0x110000
  omega

/-- However a character is written, its units are read. -/
theorem stringUnits_escapeChar (c : Char) (rest : List Char) :
    stringUnits (escapeChar c ++ rest) = prependUnits (charUnits c) (stringUnits rest) := by
  have hunits (hsmall : c.toNat < 0x10000) : charUnits c = [c.toNat] := if_pos hsmall
  have hwritten := written_escapeChar c
  generalize escapeChar c = cs at hwritten
  cases hwritten with
  | short hvisible hu hshort hsmall =>
    rw [hunits hsmall]
    exact stringUnits_shortEscape hu hshort rest
  | self hquote hslash hvisible =>
    rw [hunits (by have := hvisible.2; omega)]
    exact stringUnits_self hquote hslash hvisible.1 rest
  | unit hsmall =>
    rw [hunits hsmall]
    exact stringUnits_unitEscape hsmall rest
  | pair hlarge =>
    have hlt := toNat_lt c
    rw [List.append_assoc, stringUnits_unitEscape (by omega), stringUnits_unitEscape (by omega),
      ← prependUnits_append, charUnits, if_neg (by omega)]
    rfl

/-- The units of a text are read up to its closing quote. -/
theorem stringUnits_flatMap (cs rest : List Char) :
    stringUnits (cs.flatMap escapeChar ++ '"' :: rest) = some (cs.flatMap charUnits, rest) := by
  induction cs with
  | nil => rfl
  | cons c cs ih =>
    rw [List.flatMap_cons, List.append_assoc, stringUnits_escapeChar, ih]
    rfl

/-! ### Joining units -/

theorem not_surrogate (c : Char) : ¬(0xd800 ≤ c.toNat ∧ c.toNat ≤ 0xdfff) := by
  have hvalid := c.valid
  rw [UInt32.isValidChar, Nat.isValidChar] at hvalid
  change ¬(0xd800 ≤ c.val.toNat ∧ c.val.toNat ≤ 0xdfff)
  omega

/-- A character's units make the character again, whatever units follow. -/
theorem joinUnits_charUnits (c : Char) (us : List Nat) :
    joinUnits (charUnits c ++ us) = (joinUnits us).map (c :: ·) := by
  have hlt := toNat_lt c
  have hsurrogate := not_surrogate c
  rw [charUnits]
  split_ifs with hsmall
  -- A unit that is no surrogate is not joined with the one behind it.
  · cases us with
    | nil => simp [joinUnits, hsurrogate]
    | cons u us =>
      have hhigh : ¬(0xd800 ≤ c.toNat ∧ c.toNat ≤ 0xdbff ∧ 0xdc00 ≤ u ∧ u ≤ 0xdfff) := by omega
      simp only [List.singleton_append, joinUnits, hhigh, hsurrogate, if_false, Char.ofNat_toNat]
  -- The two surrogates hold the upper and the lower ten bits of the distance from the pairs' start.
  · generalize hk : c.toNat - 0x10000 = k
    have hpair : 0xd800 ≤ 0xd800 + k / 0x400 ∧ 0xd800 + k / 0x400 ≤ 0xdbff ∧
        0xdc00 ≤ 0xdc00 + k % 0x400 ∧ 0xdc00 + k % 0x400 ≤ 0xdfff := by omega
    have hsum : 0x10000 + (0xd800 + k / 0x400 - 0xd800) * 0x400 + (0xdc00 + k % 0x400 - 0xdc00) =
        c.toNat := by omega
    simp only [List.cons_append, List.nil_append, joinUnits, hpair, and_self, if_true, hsum,
      Char.ofNat_toNat]

theorem joinUnits_flatMap (cs : List Char) : joinUnits (cs.flatMap charUnits) = some cs := by
  induction cs with
  | nil => rfl
  | cons c cs ih => rw [List.flatMap_cons, joinUnits_charUnits, ih, Option.map_some]

/-! ### Texts -/

/-- A written text whose opening quote is read is read back, whatever follows it. -/
theorem string?_stringChars (s : String) (rest : List Char) :
    string? (s.toList.flatMap escapeChar ++ '"' :: rest) = some (s, rest) := by
  simp [string?, stringUnits_flatMap, joinUnits_flatMap]

theorem isVisible_stringChars {s : String} (h : d ∈ stringChars s) : IsVisible d := by
  simp only [stringChars, List.mem_cons, List.mem_append, List.mem_flatMap, List.not_mem_nil,
    or_false] at h
  rcases h with (rfl | ⟨c, -, hd⟩) | rfl
  · decide
  · exact isVisible_escapeChar hd
  · decide

end MissionConsole.Json
