import LayeredUnits.Proofs.WrittenStrings
import LayeredUnits.Toml.Reader

/-!
# Written values are read back

Strings, lists of strings, truth values and positive numbers are the values
that are written, and each is read back as it was, whatever stands on the lines
after it.

* `Spells` — what it is for a text to be the writing of a value.
* `spells_quote`, `spells_list`, `spells_boolean`, `spells_natural` — the writer
  spells every value that it writes.
-/

namespace LayeredUnits.Toml

/-- What follows a value: the end of its line, or the next thing in its list. -/
def Ends (rest : List Char) : Prop := ∃ c more, rest = c :: more ∧ (c = '\n' ∨ c = ',' ∨ c = ']')

theorem Ends.unquoted {rest : List Char} (h : Ends rest) : Unquoted rest := by
  obtain ⟨c, more, rfl, hc⟩ := h
  intro d hd
  cases hd
  rcases hc with rfl | rfl | rfl <;> decide

theorem quoteList_head (text : List Char) :
    ∃ first more, quoteList text = first :: more ∧ (first = '"' ∨ first = '\'') := by
  unfold quoteList
  cases form text
  · exact ⟨_, _, rfl, .inl rfl⟩
  · exact ⟨_, _, rfl, .inr rfl⟩
  · exact ⟨_, _, rfl, .inl rfl⟩
  · exact ⟨_, _, rfl, .inr rfl⟩

theorem value?_quoteList {rest : List Char} (h : Ends rest) (depth : Nat) (text : List Char) :
    value? depth (quoteList text ++ rest) = some (.text (String.ofList text), rest) := by
  have hread := string?_quoteList h.unquoted text
  obtain ⟨first, more, hwritten, hfirst⟩ := quoteList_head text
  rw [hwritten, List.cons_append] at hread ⊢
  rcases hfirst with rfl | rfl
  all_goals
    rw [value?, hread]
    rfl

/-! ## Lists -/

/-- An item of a list on a line of its own. -/
def itemLine (item : String) : List Char :=
  [' ', ' ', ' ', ' '] ++ quoteList item.toList ++ [',', '\n']

theorem skipVoid_quoteList (text rest : List Char) :
    skipVoid false (quoteList text ++ rest) = quoteList text ++ rest := by
  obtain ⟨first, more, hwritten, hfirst⟩ := quoteList_head text
  rw [hwritten, List.cons_append]
  rcases hfirst with rfl | rfl <;> simp [skipVoid, isBlank]

/-- The first item of a list is read, and then what comes after it. -/
theorem elements?_of_item {depth fuel : Nat} {text rest : List Char} {item : String}
    (htext : skipVoid false text = quoteList item.toList ++ rest) (h : Ends rest) :
    elements? (value? depth) (fuel + 1) text =
      match skipVoid false rest with
      | ',' :: rest => (elements? (value? depth) fuel rest).map fun read =>
        (.text item :: read.1, read.2)
      | ']' :: rest => some ([.text item], rest)
      | _ => none := by
  have hvalue := value?_quoteList h depth item.toList
  obtain ⟨first, more, hwritten, hfirst⟩ := quoteList_head item.toList
  rw [elements?, htext]
  rw [hwritten, List.cons_append] at hvalue ⊢
  split
  · next heq =>
    rcases hfirst with rfl | rfl <;> cases heq
  · simp only [hvalue, Option.bind_eq_bind, Option.bind_some, String.ofList_toList]
    cases skipVoid false rest with
    | nil => rfl
    | cons c behind =>
      split
      · next heq =>
        cases heq
        exact Option.map_eq_bind.symm
      · next heq =>
        cases heq
        rfl
      · simp_all

/-- The items are read one after the other, each on its line, up to the closing bracket. -/
theorem elements?_itemLines (depth : Nat) (items : List String) (rest : List Char) :
    ∀ fuel, items.length < fuel →
      elements? (value? depth) fuel ('\n' :: (items.flatMap itemLine ++ ']' :: rest)) =
        some (items.map .text, rest) := by
  induction items with
  | nil =>
    intro fuel hfuel
    obtain ⟨fuel, rfl⟩ := Nat.exists_eq_succ_of_ne_zero (Nat.ne_of_gt hfuel)
    simp [elements?, skipVoid, isBlank]
  | cons item items ih =>
    intro fuel hfuel
    obtain ⟨fuel, rfl⟩ := Nat.exists_eq_succ_of_ne_zero (Nat.ne_of_gt (Nat.zero_lt_of_lt hfuel))
    have hmore := ih fuel (Nat.lt_of_succ_lt_succ hfuel)
    have hskip : skipVoid false ('\n' :: ((item :: items).flatMap itemLine ++ ']' :: rest)) =
        quoteList item.toList ++ ',' :: '\n' :: (items.flatMap itemLine ++ ']' :: rest) := by
      simp [itemLine, skipVoid, isBlank, skipVoid_quoteList]
    rw [elements?_of_item hskip ⟨_, _, rfl, .inr (.inl rfl)⟩]
    simp [skipVoid, isBlank, hmore]

theorem toList_list (items : List String) :
    (list items).toList = match items with
      | [] => ['[', ']']
      | [item] => '[' :: quoteList item.toList ++ [']']
      | items => '[' :: '\n' :: items.flatMap itemLine ++ [']'] := by
  unfold list
  split
  · rfl
  · simp [quote]
  · simp [quote, List.flatMap_map]
    rfl

/-- Every item takes a character at least, so the fuel for the text is enough for the items. -/
theorem length_le_itemLines (items : List String) :
    items.length ≤ (items.flatMap itemLine).length := by
  induction items with
  | nil => exact Nat.le_refl 0
  | cons item items ih =>
    simp only [List.length_cons, List.flatMap_cons, List.length_append, itemLine]
    omega

/-- A list of strings is read back, whether it is written on one line or on several. -/
theorem value?_list (depth : Nat) (items : List String) (rest : List Char) :
    value? (depth + 1) ((list items).toList ++ rest) = some (.list (items.map .text), rest) := by
  rw [toList_list]
  match items with
  | [] => simp [value?, elements?, skipVoid, isBlank]
  | [item] =>
    simp only [List.cons_append, List.append_assoc, List.nil_append]
    rw [value?, elements?_of_item (skipVoid_quoteList item.toList (']' :: rest))
      ⟨_, _, rfl, .inr (.inr rfl)⟩]
    simp [skipVoid, isBlank]
  | first :: second :: others =>
    have hlength := length_le_itemLines (first :: second :: others)
    simp only [List.cons_append, List.append_assoc, List.nil_append]
    rw [value?, elements?_itemLines]
    · rfl
    · simp only [List.length_cons, List.length_append] at hlength ⊢
      omega

/-! ## Numbers -/

theorem ne_of_isDigit {c d : Char} (h : c.isDigit = true) (hd : d.isDigit = false) : c ≠ d := by
  rintro rfl
  cases h.symm.trans hd

theorem moreDigits_append {digits : List Char} (h : ∀ c ∈ digits, c.isDigit = true)
    (rest : List Char) :
    moreDigits Char.isDigit (digits ++ '\n' :: rest) = some (digits, '\n' :: rest) := by
  induction digits with
  | nil =>
    rw [List.nil_append, moreDigits]
    · rfl
    · exact fun c more heq => absurd heq (by decide)
  | cons c digits ih =>
    have hc := h c List.mem_cons_self
    have hne : c ≠ '_' := ne_of_isDigit hc rfl
    rw [List.cons_append, moreDigits]
    · rw [if_neg hne, if_pos hc, ih fun d hd => h d (List.mem_cons_of_mem _ hd)]
      rfl
    · exact fun d more heq => absurd heq hne

/-- What comes after digits at the end of a line is the end of the line. -/
theorem eq_break_of_digits {digits before rest more : List Char} {c : Char}
    (h : ∀ d ∈ digits, d.isDigit = true) (hbefore : before.all Char.isDigit = true)
    (hc : c.isDigit = false) (heq : digits ++ '\n' :: rest = before ++ c :: more) : c = '\n' := by
  have hleft : (digits ++ '\n' :: rest).dropWhile Char.isDigit = '\n' :: rest := by
    rw [List.dropWhile_append_of_pos h, List.dropWhile_cons_of_neg (by decide)]
  have hright : (before ++ c :: more).dropWhile Char.isDigit = c :: more := by
    rw [List.dropWhile_append_of_pos (List.all_eq_true.mp hbefore),
      List.dropWhile_cons_of_neg (by simp [hc])]
  rw [heq, hright] at hleft
  exact (List.cons.inj hleft).1

/-- So they are neither a date nor a time of day, for which there would have to be a dash or a
colon. -/
theorem startsDate_digits {digits : List Char} (h : ∀ c ∈ digits, c.isDigit = true)
    (rest : List Char) : startsDate (digits ++ '\n' :: rest) = false := by
  rw [← Bool.not_eq_true]
  intro hdate
  unfold startsDate at hdate
  split at hdate
  · next a b c d more heq =>
    cases @eq_break_of_digits digits [a, b, c, d] rest more '-' h hdate rfl heq
  · cases hdate

theorem startsTime_digits {digits : List Char} (h : ∀ c ∈ digits, c.isDigit = true)
    (rest : List Char) : startsTime (digits ++ '\n' :: rest) = false := by
  rw [← Bool.not_eq_true]
  intro htime
  unfold startsTime at htime
  split at htime
  · next a b more heq =>
    have hbefore : [a, b].all Char.isDigit = true := by simpa using htime
    cases @eq_break_of_digits digits [a, b] rest more ':' h hbefore rfl heq
  · cases htime

theorem decimal_toDigits (n : Nat) : decimal (Nat.toDigits 10 n) = n :=
  Nat.ofDigitChars_ten_toDigits

/-- The digits of a number that is not zero begin with one that is not zero. -/
theorem toDigits_head {n : Nat} (h : n ≠ 0) :
    ∃ first more, Nat.toDigits 10 n = first :: more ∧ first ≠ '0' := by
  induction n using Nat.strongRecOn with
  | ind n ih =>
    by_cases hsmall : n < 10
    · rw [Nat.toDigits_of_lt_base hsmall]
      exact ⟨_, _, rfl, mt Nat.digitChar_eq_zero.mp h⟩
    · have hlarge : 10 ≤ n := Nat.not_lt.mp hsmall
      obtain ⟨first, more, hdigits, hfirst⟩ := ih (n / 10) (by omega) (by omega)
      rw [Nat.toDigits_of_base_le (by decide) hlarge, hdigits]
      exact ⟨first, _, rfl, hfirst⟩

/-- A number that fits is an integer. -/
theorem integer?_of_fits {n : Int} (hleast : -0x8000000000000000 ≤ n)
    (hmost : n < 0x8000000000000000) : integer? n = some (.integer n) :=
  if_pos ⟨hleast, hmost⟩

/-- Whole digits up to the end of the line are an integer if they fit. -/
theorem number?_of_whole {text whole rest : List Char} (hsign : sign text = (false, text))
    (hwhole : wholeDigits? text = some (whole, '\n' :: rest)) :
    number? text = (integer? (decimal whole)).map (·, '\n' :: rest) := by
  have hfraction : fraction? ('\n' :: rest) = some (none, '\n' :: rest) := by
    rw [fraction?]
    exact fun more heq => absurd (List.cons.inj heq).1 (by decide)
  have hexponent : exponent? ('\n' :: rest) = some (none, '\n' :: rest) := by
    rw [exponent?, if_neg (by decide)]
  rw [number?, hsign]
  dsimp only
  -- Step by step: the bound that `overflows` computes is not to be touched.
  rw [hwhole, Option.bind_eq_bind, Option.bind_some, hfraction, Option.bind_eq_bind,
    Option.bind_some, hexponent, Option.bind_eq_bind, Option.bind_some]
  rfl

/-- A text that starts with a digit has no sign. -/
theorem sign_of_digit {first : Char} (h : first.isDigit = true) (rest : List Char) :
    sign (first :: rest) = (false, first :: rest) := by
  unfold sign
  split
  · next heq => exact absurd (List.cons.inj heq).1 (ne_of_isDigit h rfl)
  · next heq => exact absurd (List.cons.inj heq).1 (ne_of_isDigit h rfl)
  · rfl

/-- The digits of a number up to the end of the line are read as that number. -/
theorem number?_toDigits {n : Nat} (h : n ≠ 0) (hfits : n < 0x8000000000000000)
    (rest : List Char) :
    number? (Nat.toDigits 10 n ++ '\n' :: rest) = some (.integer n, '\n' :: rest) := by
  have hdigits : ∀ c ∈ Nat.toDigits 10 n, c.isDigit = true :=
    fun c hc => Nat.isDigit_of_mem_toDigits (by decide) (by decide) hc
  have hinteger : integer? n = some (.integer n) := integer?_of_fits (by omega) (by omega)
  obtain ⟨first, more, hwritten, hfirst⟩ := toDigits_head h
  have hdigit : first.isDigit = true := hdigits first (hwritten ▸ List.mem_cons_self)
  have hwhole : wholeDigits? (Nat.toDigits 10 n ++ '\n' :: rest) =
      some (Nat.toDigits 10 n, '\n' :: rest) := by
    rw [hwritten] at hdigits ⊢
    rw [List.cons_append, wholeDigits?]
    · rw [digits?, if_pos hdigit, moreDigits_append fun c hc => hdigits c (List.mem_cons_of_mem _ hc)]
      rfl
    · exact fun behind heq => absurd (List.cons.inj heq).1 hfirst
  have hsign : sign (Nat.toDigits 10 n ++ '\n' :: rest) =
      (false, Nat.toDigits 10 n ++ '\n' :: rest) := by
    rw [hwritten]
    exact sign_of_digit hdigit _
  rw [number?_of_whole hsign hwhole, decimal_toDigits, hinteger]
  rfl

/-- A text that starts with a digit other than zero is a number, unless it has the shape of a
point in time. -/
theorem value?_of_digit {first : Char} {rest : List Char} (hdigit : first.isDigit = true)
    (hfirst : first ≠ '0') (hdate : startsDate (first :: rest) = false)
    (htime : startsTime (first :: rest) = false) (depth : Nat) :
    value? depth (first :: rest) = number? (first :: rest) := by
  have hne : ∀ {d : Char}, d.isDigit = false → first ≠ d := fun hd => ne_of_isDigit hdigit hd
  have hbased : ∀ (c : Char) (more : List Char), first :: rest = '0' :: c :: more → False :=
    fun _ _ heq => hfirst (List.cons.inj heq).1
  rw [value?, numberOrMoment?, hdate, htime, sign_of_digit hdigit]
  · simp only [Bool.false_eq_true, if_false]
    split
    · next heq => exact absurd (List.cons.inj heq).1 (hne rfl)
    · next heq => exact absurd (List.cons.inj heq).1 (hne rfl)
    · rfl
  all_goals
    intro _ heq
    have hhead := (List.cons.inj heq).1
    first | exact hfirst hhead | exact hne rfl hhead

/-- A number that is not zero is read off its digits. A zero would be read as well, but settings
never hold one. -/
theorem value?_toDigits {n : Nat} (h : n ≠ 0) (hfits : n < 0x8000000000000000) (depth : Nat)
    (rest : List Char) :
    value? depth (Nat.toDigits 10 n ++ '\n' :: rest) = some (.integer n, '\n' :: rest) := by
  have hdigits : ∀ c ∈ Nat.toDigits 10 n, c.isDigit = true :=
    fun c hc => Nat.isDigit_of_mem_toDigits (by decide) (by decide) hc
  have hdate := startsDate_digits hdigits rest
  have htime := startsTime_digits hdigits rest
  have hnumber := number?_toDigits h hfits rest
  obtain ⟨first, more, hwritten, hfirst⟩ := toDigits_head h
  have hdigit : first.isDigit = true := hdigits first (hwritten ▸ List.mem_cons_self)
  rw [hwritten, List.cons_append] at hdate htime hnumber ⊢
  rw [value?_of_digit hdigit hfirst hdate htime, hnumber]

/-! ## All of them -/

/-- Whether a text is the writing of a value: it says the value up to the end of its line,
and starts with it at once. -/
structure Spells (text : List Char) (value : Value) : Prop where
  /-- There are no blanks to skip. -/
  unblank : ∀ rest, skipBlanks (text ++ rest) = text ++ rest
  /-- It is read as the value. -/
  reads : ∀ rest, value? (depthLimit - 1) (text ++ '\n' :: rest) = some (value, '\n' :: rest)

theorem skipBlanks_of_head {text : List Char} {first : Char} {more : List Char}
    (h : text = first :: more) (hfirst : isBlank first = false) (rest : List Char) :
    skipBlanks (text ++ rest) = text ++ rest := by
  subst h
  exact List.dropWhile_cons_of_neg (by simp [hfirst])

/-- A string is spelled by its quotation, whatever characters it has. -/
theorem spells_quote (text : String) : Spells (quote text).toList (.text text) where
  unblank rest := by
    obtain ⟨first, more, hwritten, hfirst⟩ := quoteList_head text.toList
    have hblank : isBlank first = false := by rcases hfirst with rfl | rfl <;> decide
    exact skipBlanks_of_head ((String.toList_ofList).trans hwritten) hblank rest
  reads rest := by
    rw [quote, String.toList_ofList, value?_quoteList ⟨_, _, rfl, .inl rfl⟩, String.ofList_toList]

/-- A list of strings is spelled by the list of their quotations, be it empty or not. -/
theorem spells_list (items : List String) :
    Spells (list items).toList (.list (items.map .text)) where
  unblank rest := by
    have hhead : ∃ more, (list items).toList = '[' :: more := by
      rw [toList_list]
      split <;> exact ⟨_, rfl⟩
    obtain ⟨more, hmore⟩ := hhead
    exact skipBlanks_of_head hmore rfl rest
  reads rest := value?_list (depthLimit - 2) items ('\n' :: rest)

/-- The two truth values are spelled by their names. -/
theorem spells_boolean (value : Bool) :
    Spells (if value then "true" else "false").toList (.boolean value) where
  unblank rest := by cases value <;> rfl
  reads rest := by
    cases value
    · change value? _ ('f' :: 'a' :: 'l' :: 's' :: 'e' :: '\n' :: rest) = _
      rw [value?]
    · change value? _ ('t' :: 'r' :: 'u' :: 'e' :: '\n' :: rest) = _
      rw [value?]

/-- A number that is not zero is spelled by its digits. -/
theorem spells_natural {n : Nat} (h : n ≠ 0) (hfits : n < 0x8000000000000000) :
    Spells (toString n).toList (.integer n) where
  unblank rest := by
    obtain ⟨first, more, hwritten, -⟩ := toDigits_head h
    have hdigit : first.isDigit = true :=
      Nat.isDigit_of_mem_toDigits (by decide) (by decide) (hwritten ▸ List.mem_cons_self)
    have hblank : isBlank first = false := by
      simp [isBlank, ne_of_isDigit hdigit]
    rw [Nat.toString_eq_repr, Nat.toList_repr]
    exact skipBlanks_of_head hwritten hblank rest
  reads rest := by
    rw [Nat.toString_eq_repr, Nat.toList_repr]
    exact value?_toDigits h hfits _ rest

end LayeredUnits.Toml
