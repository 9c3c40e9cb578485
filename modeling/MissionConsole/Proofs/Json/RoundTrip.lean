import MissionConsole.Proofs.Json.Escape

/-!
# Written values are read back

Values without floating-point numbers are written so that they can be told apart: what is read from
the text of a value is that value, and the text ends where the value ends, whatever follows it.

## Main definitions

* `Json.IsExact` — the values without floating-point numbers
* `Json.Stops` — what may follow a number
* `Json.ReadsBack` — the values that are read back from their text

## Main results

* `Json.IsExact.readsBack`, `Json.IsExact.parse?_render` — an exact value is read back
* `Json.IsExact.isVisible` — the text of an exact value is visible ASCII
* `Json.IsExact.render_injective` — exact values with one text are the same
-/

namespace MissionConsole.Json

variable {v : Json} {fuel : Nat} {c : Char} {n : Int} {cs rest : List Char}

/-- A value without floating-point numbers. -/
inductive IsExact : Json → Prop where
  | null : IsExact .null
  | bool (b : Bool) : IsExact (.bool b)
  | int (n : Int) : IsExact (.int n)
  | str (s : String) : IsExact (.str s)
  | arr {items : List Json} (h : ∀ v ∈ items, IsExact v) : IsExact (.arr items)
  | obj {fields : List (String × Json)} (h : ∀ f ∈ fields, IsExact f.2) : IsExact (.obj fields)

theorem IsExact.strs (xs : List String) : IsExact (.strs xs) :=
  .arr fun _ hv => by
    obtain ⟨s, -, rfl⟩ := List.mem_map.1 hv
    exact .str s

/-! ### Whole numbers -/

theorem isDigit_eq (c : Char) : Numeral.isDigit c = c.isDigit := rfl

theorem isDigit_of_mem_toDigits {m : Nat} (h : c ∈ Nat.toDigits 10 m) :
    Numeral.isDigit c = true :=
  (isDigit_eq c).trans (Nat.isDigit_of_mem_toDigits (by decide) (by decide) h)

theorem valueOf_toDigits (m : Nat) : Numeral.valueOf (Nat.toDigits 10 m) = m :=
  calc Numeral.valueOf (Nat.toDigits 10 m)
      = Nat.ofDigitChars 10 (Nat.toDigits 10 m) 0 := Nat.ofDigitChars_eq_foldl.symm
    _ = m := Nat.ofDigitChars_ten_toDigits

/-- The digits of a whole number behind its sign. -/
theorem numberChars_int (n : Int) :
    numberChars (.int n) = (if n < 0 then ['-'] else []) ++ Nat.toDigits 10 n.natAbs := by
  have hdigits (m : Nat) : m.repr.toList = Nat.toDigits 10 m := by
    rw [← Nat.toString_eq_repr, Nat.toString_eq_ofList_toDigits, String.toList_ofList]
  cases n with
  | ofNat m =>
    have hrepr : numberChars (.int (.ofNat m)) = m.repr.toList := rfl
    rw [hrepr, hdigits, if_neg (by simp)]
    rfl
  | negSucc m =>
    have hrepr : numberChars (.int (.negSucc m)) = ("-" ++ (m + 1).repr).toList := rfl
    rw [hrepr, String.toList_append, hdigits, if_pos (Int.negSucc_lt_zero m)]
    rfl

theorem ne_of_isDigit {d : Char} (hc : Numeral.isDigit c = true) (hd : Numeral.isDigit d = false) :
    c ≠ d := by
  rintro rfl
  exact absurd (hc.symm.trans hd) Bool.noConfusion

/-- A run of digits begins with one. -/
theorem exists_toDigits (m : Nat) :
    ∃ c tail, Nat.toDigits 10 m = c :: tail ∧ Numeral.isDigit c = true := by
  obtain ⟨c, tail, hcons⟩ := List.exists_cons_of_ne_nil (Nat.toDigits_ne_nil (n := m) (b := 10))
  exact ⟨c, tail, hcons, isDigit_of_mem_toDigits (hcons ▸ List.mem_cons_self)⟩

theorem takeSign_of_isDigit (hc : Numeral.isDigit c = true) (tail : List Char) :
    Numeral.takeSign (c :: tail) = (false, c :: tail) := by
  rw [Numeral.takeSign]
  · exact fun _ h => ne_of_isDigit hc (by decide) (List.cons.inj h).1
  · exact fun _ h => ne_of_isDigit hc (by decide) (List.cons.inj h).1

theorem number?_numberChars (n : Int) : number? (numberChars (.int n)) = some (.int n) := by
  obtain ⟨c, tail, hcons, hc⟩ := exists_toDigits n.natAbs
  have hall : (Nat.toDigits 10 n.natAbs).all Numeral.isDigit = true :=
    List.all_eq_true.2 fun _ h => isDigit_of_mem_toDigits h
  have hvalue := valueOf_toDigits n.natAbs
  rw [numberChars_int]
  by_cases hn : n < 0
  · have hneg : -(n.natAbs : Int) = n := by omega
    simp only [if_pos hn, List.singleton_append, number?, Numeral.takeSign, hall, hvalue, hneg]
    simp [hcons]
  · have hpos : (n.natAbs : Int) = n := by omega
    have hsign := takeSign_of_isDigit hc tail
    rw [← hcons] at hsign
    simp only [if_neg hn, List.nil_append, number?, hsign, hall, hvalue, hpos]
    simp [hcons]

/-! ### Numbers and words -/

/-- What may follow a number: nothing that numbers consist of. -/
def Stops (rest : List Char) : Prop := rest.takeWhile isNumberChar = []

theorem isNumberChar_of_isDigit (hc : Numeral.isDigit c = true) : isNumberChar c = true := by
  simp [isNumberChar, hc]

/-- A whole number is written in digits, but for its sign. -/
theorem eq_or_isDigit_of_mem_numberChars (h : c ∈ numberChars (.int n)) :
    c = '-' ∨ Numeral.isDigit c = true := by
  rw [numberChars_int] at h
  rcases List.mem_append.1 h with hsign | hdigit
  · split at hsign
    · exact .inl (List.mem_singleton.1 hsign)
    · cases hsign
  · exact .inr (isDigit_of_mem_toDigits hdigit)

theorem isNumberChar_of_mem_numberChars (h : c ∈ numberChars (.int n)) :
    isNumberChar c = true := by
  rcases eq_or_isDigit_of_mem_numberChars h with rfl | hdigit
  · rfl
  · exact isNumberChar_of_isDigit hdigit

/-- A number begins with a digit or with a sign and a digit. -/
theorem exists_numberChars (n : Int) :
    ∃ c tail, Numeral.isDigit c = true ∧
      (numberChars (.int n) = c :: tail ∨ numberChars (.int n) = '-' :: c :: tail) := by
  obtain ⟨c, tail, hcons, hc⟩ := exists_toDigits n.natAbs
  refine ⟨c, tail, hc, ?_⟩
  rw [numberChars_int, hcons]
  split
  · exact .inr rfl
  · exact .inl rfl

/-- No word begins like a number. -/
theorem find?_wordValues_numberChars (n : Int) (rest : List Char) :
    wordValues.find? (·.1.isPrefixOf (numberChars (.int n) ++ rest)) = none := by
  obtain ⟨c, tail, hc, hcons | hcons⟩ := exists_numberChars n
  all_goals
    have hne (d : Char) (hd : Numeral.isDigit d = false) : d ≠ c := (ne_of_isDigit hc hd).symm
    rw [hcons]
    simp [wordValues, hne 'n' rfl, hne 't' rfl, hne 'f' rfl, hne 'N' rfl, hne 'I' rfl, hne '-' rfl]

theorem scalar?_numberChars (n : Int) (hrest : Stops rest) :
    scalar? (numberChars (.int n) ++ rest) = some (.int n, rest) := by
  have htoken := fun c => isNumberChar_of_mem_numberChars (c := c) (n := n)
  have hdrop : rest.dropWhile isNumberChar = rest := by
    have hsplit := List.takeWhile_append_dropWhile (p := isNumberChar) (l := rest)
    rwa [hrest, List.nil_append] at hsplit
  rw [scalar?, find?_wordValues_numberChars, List.takeWhile_append_of_pos htoken,
    List.dropWhile_append_of_pos htoken, hrest, hdrop, List.append_nil]
  simp only [number?_numberChars, Option.map_some]
  rfl

/-! ### Values -/

theorem skipSpace_cons (hc : isSpace c = false) (tail : List Char) :
    skipSpace (c :: tail) = c :: tail := by
  rw [skipSpace, List.dropWhile_cons, hc]
  rfl

/-- A value may follow a space. -/
theorem value_space (fuel : Nat) (cs : List Char) : value fuel (' ' :: cs) = value fuel cs := by
  cases fuel with
  | zero => rfl
  | succ fuel =>
    rw [value, value]
    rfl

theorem items_space (fuel : Nat) (cs : List Char) : items fuel (' ' :: cs) = items fuel cs := by
  cases fuel with
  | zero => rfl
  | succ fuel => rw [items, items, value_space]

theorem members_space (fuel : Nat) (cs : List Char) :
    members fuel (' ' :: cs) = members fuel cs := by
  cases fuel with
  | zero => rfl
  | succ fuel =>
    rw [members, members]
    rfl

/-- What is no blank and opens neither a text nor a list nor an object is a number or a word. -/
theorem value_scalar (hspace : isSpace c = false) (hquote : c ≠ '"') (hlist : c ≠ '[')
    (hobject : c ≠ '{') (tail : List Char) :
    value (fuel + 1) (c :: tail) = scalar? (c :: tail) := by
  rw [value, skipSpace_cons hspace]
  split
  · rename_i h
    exact absurd (List.cons.inj h).1 hquote
  · rename_i h
    exact absurd (List.cons.inj h).1 hlist
  · rename_i h
    exact absurd (List.cons.inj h).1 hobject
  · rfl

theorem isSpace_of_isDigit (hc : Numeral.isDigit c = true) : isSpace c = false := by
  have hne (d : Char) (hd : Numeral.isDigit d = false) : c ≠ d := ne_of_isDigit hc hd
  simp [isSpace, hne ' ' rfl, hne '\n' rfl, hne '\r' rfl, hne '\t' rfl]

theorem value_numberChars (n : Int) (hrest : Stops rest) :
    value (fuel + 1) (numberChars (.int n) ++ rest) = some (.int n, rest) := by
  rw [← scalar?_numberChars n hrest]
  obtain ⟨c, tail, hc, hcons | hcons⟩ := exists_numberChars n
  · have hne (d : Char) (hd : Numeral.isDigit d = false) : c ≠ d := ne_of_isDigit hc hd
    rw [hcons]
    exact value_scalar (isSpace_of_isDigit hc) (hne _ rfl) (hne _ rfl) (hne _ rfl) _
  · rw [hcons]
    exact value_scalar (by decide) (by decide) (by decide) (by decide) _

theorem value_stringChars (s : String) (rest : List Char) :
    value (fuel + 1) (stringChars s ++ rest) = some (.str s, rest) := by
  have hchars : stringChars s ++ rest = '"' :: (s.toList.flatMap escapeChar ++ '"' :: rest) := by
    simp [stringChars]
  rw [hchars, value, skipSpace_cons (by decide)]
  simp only [string?_stringChars, Option.map_some]

/-- A value that is read back from its text, whatever follows it, given as much fuel as twice the
length of the text. -/
def ReadsBack (v : Json) : Prop :=
  ∀ fuel rest, Stops rest → 2 * (chars v).length ≤ fuel →
    value fuel (chars v ++ rest) = some (v, rest)

theorem stops_cons (hc : isNumberChar c = false) (tail : List Char) : Stops (c :: tail) := by
  rw [Stops, List.takeWhile_cons, hc]
  rfl

/-- The items of a list are read up to its closing bracket. -/
theorem items_itemsChars {vs : List Json} (hvs : ∀ v ∈ vs, ReadsBack v) (hne : vs ≠ [])
    (hfuel : 2 * (itemsChars vs).length + 1 ≤ fuel) :
    items fuel (itemsChars vs ++ ']' :: rest) = some (vs, rest) := by
  induction vs generalizing fuel with
  | nil => exact absurd rfl hne
  | cons v vs ih =>
    -- Twice the length pays for the step to an item and for the step behind it.
    obtain ⟨fuel, rfl⟩ : ∃ more, fuel = more + 1 := ⟨fuel - 1, by omega⟩
    have hv := hvs v List.mem_cons_self
    cases vs with
    | nil =>
      rw [itemsChars] at hfuel ⊢
      have hread := hv fuel (']' :: rest) (stops_cons (by decide) rest) (by omega)
      simp [items, hread, skipSpace_cons (c := ']') (by decide)]
    | cons w ws =>
      have hchars : itemsChars (v :: w :: ws) = chars v ++ ',' :: ' ' :: itemsChars (w :: ws) := by
        simp [itemsChars]
      rw [hchars] at hfuel ⊢
      simp only [List.length_append, List.length_cons] at hfuel
      have hread := hv fuel (',' :: ' ' :: (itemsChars (w :: ws) ++ ']' :: rest))
        (stops_cons (by decide) _) (by omega)
      have hrest : items fuel (itemsChars (w :: ws) ++ ']' :: rest) = some (w :: ws, rest) :=
        ih (fun u hu => hvs u (List.mem_cons_of_mem v hu)) (List.cons_ne_nil w ws) (by omega)
      simp [items, hread, skipSpace_cons (c := ',') (by decide), items_space, hrest]

/-- The fields of an object are read up to its closing brace. -/
theorem members_fieldsChars {fields : List (String × Json)} (hfields : ∀ f ∈ fields, ReadsBack f.2)
    (hne : fields ≠ []) (hfuel : 2 * (fieldsChars fields).length + 1 ≤ fuel) :
    members fuel (fieldsChars fields ++ '}' :: rest) = some (fields, rest) := by
  induction fields generalizing fuel with
  | nil => exact absurd rfl hne
  | cons f fields ih =>
    obtain ⟨fuel, rfl⟩ : ∃ more, fuel = more + 1 := ⟨fuel - 1, by omega⟩
    obtain ⟨name, v⟩ := f
    have hv : ReadsBack v := hfields (name, v) List.mem_cons_self
    cases fields with
    | nil =>
      rw [fieldsChars] at hfuel ⊢
      simp only [List.length_append, List.length_cons] at hfuel
      have hread := hv fuel ('}' :: rest) (stops_cons (by decide) rest) (by omega)
      simp [members, stringChars, skipSpace_cons (c := '"') (by decide), string?_stringChars,
        skipSpace_cons (c := ':') (by decide), value_space, hread,
        skipSpace_cons (c := '}') (by decide)]
    | cons g gs =>
      have hchars : fieldsChars ((name, v) :: g :: gs) =
          stringChars name ++ ':' :: ' ' :: chars v ++ ',' :: ' ' :: fieldsChars (g :: gs) := by
        simp [fieldsChars]
      rw [hchars] at hfuel ⊢
      simp only [List.length_append, List.length_cons] at hfuel
      have hread := hv fuel (',' :: ' ' :: (fieldsChars (g :: gs) ++ '}' :: rest))
        (stops_cons (by decide) _) (by omega)
      have hrest : members fuel (fieldsChars (g :: gs) ++ '}' :: rest) = some (g :: gs, rest) :=
        ih (fun u hu => hfields u (List.mem_cons_of_mem _ hu)) (List.cons_ne_nil g gs) (by omega)
      simp [members, stringChars, skipSpace_cons (c := '"') (by decide), string?_stringChars,
        skipSpace_cons (c := ':') (by decide), value_space, hread,
        skipSpace_cons (c := ',') (by decide), members_space, hrest]

/-- Exact values begin with a token that closes no list. -/
theorem IsExact.exists_chars (h : v.IsExact) :
    ∃ c tail, chars v = c :: tail ∧ isSpace c = false ∧ c ≠ ']' := by
  cases h with
  | null => exact ⟨'n', _, rfl, by decide, by decide⟩
  | bool b => cases b <;> exact ⟨_, _, rfl, by decide, by decide⟩
  | int n =>
    obtain ⟨c, tail, hc, hcons | hcons⟩ := exists_numberChars n
    · exact ⟨c, tail, hcons, isSpace_of_isDigit hc, ne_of_isDigit hc rfl⟩
    · exact ⟨'-', _, hcons, by decide, by decide⟩
  | str s => exact ⟨'"', _, rfl, by decide, by decide⟩
  | arr h => exact ⟨'[', _, rfl, by decide, by decide⟩
  | obj h => exact ⟨'{', _, rfl, by decide, by decide⟩

/-- The items of a list that is not empty begin with its first item. -/
theorem exists_itemsChars {vs : List Json} (hexact : ∀ v ∈ vs, v.IsExact) (hne : vs ≠ []) :
    ∃ c tail, itemsChars vs = c :: tail ∧ isSpace c = false ∧ c ≠ ']' := by
  obtain ⟨v, vs, rfl⟩ := List.exists_cons_of_ne_nil hne
  obtain ⟨c, tail, hcons, hc⟩ := (hexact v List.mem_cons_self).exists_chars
  cases vs with
  | nil => exact ⟨c, tail, hcons, hc⟩
  | cons w ws =>
    refine ⟨c, tail ++ ',' :: ' ' :: itemsChars (w :: ws), ?_, hc⟩
    simp [itemsChars, hcons]

theorem exists_fieldsChars {fields : List (String × Json)} (hne : fields ≠ []) :
    ∃ tail, fieldsChars fields = '"' :: tail := by
  obtain ⟨⟨name, v⟩, fields, rfl⟩ := List.exists_cons_of_ne_nil hne
  cases fields <;> exact ⟨_, rfl⟩

/-- A text is never empty, so there is fuel for a first step. -/
theorem IsExact.readsBack_of_succ (h : v.IsExact)
    (hread : ∀ fuel rest, Stops rest → 2 * (chars v).length ≤ fuel + 1 →
      value (fuel + 1) (chars v ++ rest) = some (v, rest)) : v.ReadsBack := by
  intro fuel rest hrest hfuel
  obtain ⟨c, tail, hcons, -⟩ := h.exists_chars
  rw [hcons, List.length_cons] at hfuel
  obtain ⟨fuel, rfl⟩ : ∃ more, fuel = more + 1 := ⟨fuel - 1, by omega⟩
  exact hread fuel rest hrest (by rw [hcons, List.length_cons]; omega)

theorem value_arr {vs : List Json} (hexact : ∀ v ∈ vs, v.IsExact) (hvs : ∀ v ∈ vs, v.ReadsBack)
    (hfuel : 2 * (itemsChars vs).length + 1 ≤ fuel) :
    value (fuel + 1) (chars (.arr vs) ++ rest) = some (.arr vs, rest) := by
  have hchars : chars (.arr vs) ++ rest = '[' :: (itemsChars vs ++ ']' :: rest) := by
    simp [chars]
  by_cases hne : vs = []
  · subst hne
    rfl
  · obtain ⟨c, tail, hcons, hspace, hclose⟩ := exists_itemsChars hexact hne
    rw [hchars, value, skipSpace_cons (by decide)]
    simp only [items_itemsChars hvs hne hfuel, Option.map_some]
    rw [hcons, List.cons_append, skipSpace_cons hspace]
    -- The first item does not look like the end of an empty list.
    split
    · rename_i h
      exact absurd (List.cons.inj h).1 hclose
    · rfl

theorem value_obj {fields : List (String × Json)} (hfields : ∀ f ∈ fields, ReadsBack f.2)
    (hfuel : 2 * (fieldsChars fields).length + 1 ≤ fuel) :
    value (fuel + 1) (chars (.obj fields) ++ rest) = some (.obj fields, rest) := by
  have hchars : chars (.obj fields) ++ rest = '{' :: (fieldsChars fields ++ '}' :: rest) := by
    simp [chars]
  by_cases hne : fields = []
  · subst hne
    rfl
  · obtain ⟨tail, hcons⟩ := exists_fieldsChars hne
    rw [hchars, value, skipSpace_cons (by decide)]
    simp only [members_fieldsChars hfields hne hfuel, Option.map_some]
    rw [hcons, List.cons_append, skipSpace_cons (by decide)]
    rfl

/-- Exact values are read back. -/
theorem IsExact.readsBack (h : v.IsExact) : v.ReadsBack := by
  induction h with
  | null => exact IsExact.null.readsBack_of_succ fun _ _ _ _ => rfl
  | bool b =>
    refine (IsExact.bool b).readsBack_of_succ fun _ _ _ _ => ?_
    cases b <;> rfl
  | int n =>
    exact (IsExact.int n).readsBack_of_succ fun _ _ hrest _ => value_numberChars n hrest
  | str s =>
    exact (IsExact.str s).readsBack_of_succ fun _ rest _ _ => value_stringChars s rest
  | arr h ih =>
    refine (IsExact.arr h).readsBack_of_succ fun fuel rest _ hfuel => value_arr h ih ?_
    simp only [chars, List.length_append, List.length_cons] at hfuel
    omega
  | obj h ih =>
    refine (IsExact.obj h).readsBack_of_succ fun fuel rest _ hfuel => value_obj ih ?_
    simp only [chars, List.length_append, List.length_cons] at hfuel
    omega

/-- Reading the text of an exact value gives the value. -/
theorem IsExact.parse?_render (h : v.IsExact) : parse? v.render = some v := by
  have hchars : v.render.toList = chars v := String.toList_ofList
  have hread := h.readsBack (2 * (chars v).length + 2) [] rfl (by omega)
  rw [List.append_nil] at hread
  rw [parse?, hchars]
  simp only [hread]
  rfl

/-- Exact values with one text are the same. -/
theorem IsExact.render_injective {w : Json} (hv : v.IsExact) (hw : w.IsExact)
    (h : v.render = w.render) : v = w := by
  have hread := hv.parse?_render
  rw [h, hw.parse?_render] at hread
  exact (Option.some.inj hread).symm

/-! ### Visible characters -/

theorem isVisible_numberChars (h : c ∈ numberChars (.int n)) : IsVisible c := by
  rcases eq_or_isDigit_of_mem_numberChars h with rfl | hdigit
  · decide
  · simp only [Numeral.isDigit, Bool.and_eq_true, decide_eq_true_eq] at hdigit
    exact ⟨by omega, by omega⟩

theorem isVisible_itemsChars {vs : List Json} (hvs : ∀ v ∈ vs, ∀ c ∈ chars v, IsVisible c)
    (h : c ∈ itemsChars vs) : IsVisible c := by
  induction vs with
  | nil => cases h
  | cons v vs ih =>
    have hv := hvs v List.mem_cons_self
    cases vs with
    | nil => exact hv c h
    | cons w ws =>
      simp only [itemsChars, List.mem_append, List.mem_cons] at h
      rcases h with h | rfl | rfl | h
      · exact hv c h
      · decide
      · decide
      · exact ih (fun u hu => hvs u (List.mem_cons_of_mem v hu)) h

theorem isVisible_fieldsChars {fields : List (String × Json)}
    (hfields : ∀ f ∈ fields, ∀ c ∈ chars f.2, IsVisible c) (h : c ∈ fieldsChars fields) :
    IsVisible c := by
  induction fields with
  | nil => cases h
  | cons f fields ih =>
    obtain ⟨name, v⟩ := f
    have hv : ∀ c ∈ chars v, IsVisible c := hfields (name, v) List.mem_cons_self
    cases fields with
    | nil =>
      simp only [fieldsChars, List.mem_append, List.mem_cons] at h
      rcases h with h | rfl | rfl | h
      · exact isVisible_stringChars h
      · decide
      · decide
      · exact hv c h
    | cons g gs =>
      simp only [fieldsChars, List.mem_append, List.mem_cons] at h
      rcases h with (h | rfl | rfl | h) | rfl | rfl | h
      · exact isVisible_stringChars h
      · decide
      · decide
      · exact hv c h
      · decide
      · decide
      · exact ih (fun u hu => hfields u (List.mem_cons_of_mem _ hu)) h

/-- The text of an exact value is visible ASCII. -/
theorem IsExact.isVisible (h : v.IsExact) : ∀ c ∈ v.render.toList, IsVisible c := by
  rw [render, String.toList_ofList]
  induction h with
  | null => exact isVisible_of_all (by decide)
  | bool b => cases b <;> exact isVisible_of_all (by decide)
  | int n => exact fun _ => isVisible_numberChars
  | str s => exact fun _ => isVisible_stringChars
  | arr _ ih =>
    intro c hc
    simp only [chars, List.mem_append, List.mem_cons, List.not_mem_nil, or_false] at hc
    rcases hc with (rfl | hc) | rfl
    · decide
    · exact isVisible_itemsChars ih hc
    · decide
  | obj _ ih =>
    intro c hc
    simp only [chars, List.mem_append, List.mem_cons, List.not_mem_nil, or_false] at hc
    rcases hc with (rfl | hc) | rfl
    · decide
    · exact isVisible_fieldsChars ih hc
    · decide

end MissionConsole.Json
