import LayeredUnits.Toml.Text
import LayeredUnits.Toml.Writer

/-!
# Written strings are read back

TOML has four ways of writing a string, and the writer takes the plainest one
that holds it. Here it is shown that the reader gets every string back,
whatever is in it: quotes, backslashes, line breaks and controls.

* `Escape` — the ways in which one character is written between double quotes.
  A reader gets the character back from any of them, which is
  `basic_of_escape` and `wideBasic_of_escape`.
* `basic_escapedText`, `wideBasic_escapedText`, `literal_append`,
  `wideLiteral_append` — the same for a whole string, one for each way.
* `string?_quoteList` — the way that was taken is recognised by the opening
  quotes.

Between tripled quotes a run of one or two quotes may stand as it is, and
may even come right before the closing ones. So these two need to look at what
comes after a quote, and all need to know that no quote follows the string.
-/

namespace LayeredUnits.Toml

/-! ## Characters -/

theorem needsEscape_iff {c : Char} :
    needsEscape c = true ↔ c ≠ '\t' ∧ c ≠ '\n' ∧ (c.toNat < 0x20 ∨ c.toNat = 0x7F) := by
  simp [needsEscape, and_assoc]

theorem isPlain_of_unescaped {c : Char} (h : needsEscape c = false) (hbreak : c ≠ '\n') :
    isPlain c = true := by
  simp only [needsEscape, isPlain] at h ⊢
  grind

/-- A line break may not stand in a string on one line. -/
theorem ne_break_of_plain {c : Char} (h : isPlain c = true) : c ≠ '\n' ∧ c ≠ '\r' := by
  constructor <;> rintro rfl <;> cases h

private theorem hexDigit?_digitChar {d : Nat} (h : d < 16) :
    hexDigit? (Nat.digitChar d).toUpper = some d := by
  have hall : ∀ d, d < 16 → hexDigit? (Nat.digitChar d).toUpper = some d := by decide
  exact hall d h

/-- Four digits hold the number of every character that is escaped by its number. -/
theorem charOfHex?_fourDigits {c : Char} (h : c.toNat < 0x10000) :
    charOfHex? (fourDigits c.toNat) = some c := by
  have hdigit : ∀ n : Nat, hexDigit? (Nat.digitChar (n % 16)).toUpper = some (n % 16) :=
    fun n => hexDigit?_digitChar (Nat.mod_lt n (by decide))
  have hnumber : (fourDigits c.toNat).foldlM (fun n c => (hexDigit? c).map (16 * n + ·)) 0 =
      some c.toNat := by
    simp only [fourDigits, List.map_cons, List.map_nil, List.foldlM_cons, List.foldlM_nil, hdigit,
      Option.map_some, Option.bind_eq_bind, Option.bind_some]
    congr 1
    omega
  have hvalid : c.toNat.isValidChar := c.valid
  unfold charOfHex?
  rw [hnumber]
  simp only [Option.bind_eq_bind, Option.bind_some, dif_pos hvalid]
  congr 1

/-- How a character may be written between double quotes, be it as itself or by an escape that is
read as it. -/
inductive Escape (wide : Bool) (c : Char) : List Char → Prop
  /-- A line break stays, if the string may go over lines. -/
  | newline (hwide : wide = true) (hc : c = '\n') : Escape wide c ['\n']
  | letter (e : Char) (he : shortEscape? e = some c) : Escape wide c ['\\', e]
  | number (hc : c.toNat < 0x10000) : Escape wide c ('\\' :: 'u' :: fourDigits c.toNat)
  | itself (hplain : isPlain c = true) (hback : c ≠ '\\') : Escape wide c [c]

theorem escape_escaped (wide : Bool) (c : Char) : Escape wide c (escaped wide c) := by
  unfold escaped
  split
  · next h => exact .letter 'b' (h ▸ rfl)
  split
  · next h => exact .letter 't' (h ▸ rfl)
  split
  · next h =>
    split
    · next hwide => exact .newline hwide h
    · exact .letter 'n' (h ▸ rfl)
  split
  · next h => exact .letter 'f' (h ▸ rfl)
  split
  · next h => exact .letter 'r' (h ▸ rfl)
  split
  · next h => exact .letter '\\' (by rw [h]; rfl)
  · next hbreak _ _ hback =>
    split
    · next h =>
      have hnumber := (needsEscape_iff.mp h).2.2
      exact .number (by omega)
    · next h => exact .itself (isPlain_of_unescaped (Bool.not_eq_true _ ▸ h) hbreak) hback

/-- The letters that stand for a character after a backslash. None of them is white space. -/
theorem letter_of_shortEscape? {e c : Char} (h : shortEscape? e = some c) :
    e = 'b' ∨ e = 't' ∨ e = 'n' ∨ e = 'f' ∨ e = 'r' ∨ e = '"' ∨ e = '\\' := by
  unfold shortEscape? at h
  split at h
  all_goals simp at h ⊢

/-- Only a double quote that stands for itself begins with one. -/
theorem Escape.head_ne_quote {wide : Bool} {c : Char} {written : List Char}
    (h : Escape wide c written) (hc : c ≠ '"') :
    ∃ first more, written = first :: more ∧ first ≠ '"' := by
  cases h with
  | newline _ hbreak => exact ⟨_, _, rfl, by decide⟩
  | letter e he => exact ⟨_, _, rfl, by decide⟩
  | number hsmall => exact ⟨_, _, rfl, by decide⟩
  | itself hplain hback => exact ⟨_, _, rfl, hc⟩

/-! ## Between double quotes -/

theorem basic_of_escape {c : Char} {written : List Char} (h : Escape false c written)
    (hquote : written ≠ ['"']) (rest : List Char) :
    basic (written ++ rest) = (basic rest).map (prepend c) := by
  cases h with
  | newline hwide => cases hwide
  | letter e he =>
    rcases letter_of_shortEscape? he with rfl | rfl | rfl | rfl | rfl | rfl | rfl
    all_goals
      cases he
      simp [basic, shortEscape?]
  | number hsmall =>
    have hchar := charOfHex?_fourDigits hsmall
    simp only [fourDigits, List.map_cons, List.map_nil, List.cons_append, List.nil_append] at hchar ⊢
    rw [basic, hchar]
    rfl
  | itself hplain hback =>
    rw [List.cons_append, List.nil_append, basic]
    · simp [hplain, hback]
    all_goals simp_all

theorem escapedText_cons {wide : Bool} {most run : Nat} {c : Char} (h : c ≠ '"')
    (rest : List Char) :
    escapedText wide most run (c :: rest) = escaped wide c ++ escapedText wide most 0 rest := by
  rw [escapedText]
  exact h

/-- No quote comes first if as many as may be have come before. So the string does not end too
early. -/
theorem escapedText_ne_quote {wide : Bool} {most run : Nat} (h : most ≤ run)
    (text more : List Char) : escapedText wide most run text ≠ '"' :: more := by
  cases text with
  | nil => simp [escapedText]
  | cons c text =>
    by_cases hc : c = '"'
    · subst hc
      rw [escapedText, if_neg (by omega)]
      simp
    · obtain ⟨first, behind, hwritten, hfirst⟩ := (escape_escaped wide c).head_ne_quote hc
      rw [escapedText_cons hc, hwritten]
      simp [hfirst]

theorem basic_escapedText (text rest : List Char) :
    basic (escapedText false 0 0 text ++ '"' :: rest) = some (text, rest) := by
  induction text with
  | nil => simp [escapedText, basic]
  | cons c text ih =>
    by_cases hc : c = '"'
    · subst hc
      have hescape : Escape false '"' ['\\', '"'] := .letter '"' rfl
      have hread := basic_of_escape hescape (by simp) (escapedText false 0 0 text ++ '"' :: rest)
      rw [ih] at hread
      exact hread
    · obtain ⟨first, more, hwritten, hfirst⟩ := (escape_escaped false c).head_ne_quote hc
      rw [escapedText_cons hc, List.append_assoc,
        basic_of_escape (escape_escaped false c) (by simp [hwritten, hfirst]), ih]
      rfl

/-! ## Between tripled double quotes -/

theorem breaksNext_cons {e : Char} (hblank : isBlank e = false) (hbreak : e ≠ '\n')
    (hreturn : e ≠ '\r') (rest : List Char) : breaksNext (e :: rest) = false := by
  unfold breaksNext skipBlanks
  rw [List.dropWhile_cons_of_neg (by simp [hblank])]
  unfold afterBreak?
  split <;> simp_all

theorem wideBasic_of_escape {c : Char} {written : List Char} (h : Escape true c written)
    (hquote : written ≠ ['"']) (rest : List Char) :
    wideBasic false (written ++ rest) = (wideBasic false rest).map (prepend c) := by
  cases h with
  | newline _ hc =>
    subst hc
    simp [wideBasic]
  | letter e he =>
    rcases letter_of_shortEscape? he with rfl | rfl | rfl | rfl | rfl | rfl | rfl
    all_goals
      cases he
      simp [wideBasic, shortEscape?, breaksNext_cons, isBlank]
  | number hsmall =>
    have hchar := charOfHex?_fourDigits hsmall
    simp only [fourDigits, List.map_cons, List.map_nil, List.cons_append, List.nil_append] at hchar ⊢
    rw [wideBasic, hchar]
    rfl
  | itself hplain hback =>
    obtain ⟨hbreak, hreturn⟩ := ne_break_of_plain hplain
    rw [List.cons_append, List.nil_append, wideBasic]
    · simp [hplain, hback]
    all_goals simp_all

/-! ## Between tripled quotes -/

/-- What may follow a string, whichever way it is written: anything but a quote. -/
def Unquoted (rest : List Char) : Prop := ∀ c ∈ rest.head?, c ≠ '"' ∧ c ≠ '\''

/-- A reader of strings between tripled quotes, before this rest. A quote is read as it stands if
something else comes after it, or after one more. -/
structure ReadsTripled (read : List Char → Option (List Char × List Char)) (quote : Char)
    (rest : List Char) : Prop where
  three : read (quote :: quote :: quote :: rest) = some ([], rest)
  four : read (quote :: quote :: quote :: quote :: rest) = some ([quote], rest)
  five : read (quote :: quote :: quote :: quote :: quote :: rest) = some ([quote, quote], rest)
  one : ∀ c more, c ≠ quote →
    read (quote :: c :: more) = (read (c :: more)).map (prepend quote)
  two : ∀ c more, c ≠ quote →
    read (quote :: quote :: c :: more) = (read (quote :: c :: more)).map (prepend quote)

theorem wideBasic_tripled {rest : List Char} (h : Unquoted rest) :
    ReadsTripled (wideBasic false) '"' rest := by
  have hrest : ∀ more, rest ≠ '"' :: more := fun more hmore => (h '"' (hmore ▸ rfl)).1 rfl
  constructor
  case one =>
    intro c more hc
    rw [wideBasic]
    · simp [isPlain]
    all_goals simp_all
  case two =>
    intro c more hc
    rw [wideBasic]
    · simp [isPlain]
    all_goals simp_all
  all_goals
    rw [wideBasic]
    all_goals simp_all

theorem wideLiteral_tripled {rest : List Char} (h : Unquoted rest) :
    ReadsTripled wideLiteral '\'' rest := by
  have hrest : ∀ more, rest ≠ '\'' :: more := fun more hmore => (h '\'' (hmore ▸ rfl)).2 rfl
  constructor
  case one =>
    intro c more hc
    rw [wideLiteral]
    · simp [isPlain]
    all_goals simp_all
  case two =>
    intro c more hc
    rw [wideLiteral]
    · simp [isPlain]
    all_goals simp_all
  all_goals
    rw [wideLiteral]
    all_goals simp_all

/-- A quote is read as it stands if no two come after it, those that close the string aside. -/
theorem ReadsTripled.step {read : List Char → Option (List Char × List Char)} {quote : Char}
    {rest body : List Char} (h : ReadsTripled read quote rest)
    (hbody : ∀ more, body ≠ quote :: quote :: more) :
    read (quote :: (body ++ quote :: quote :: quote :: rest)) =
      (read (body ++ quote :: quote :: quote :: rest)).map (prepend quote) := by
  match body with
  | [] =>
    rw [List.nil_append, h.three, h.four]
    rfl
  | [c] =>
    by_cases hc : c = quote
    · subst hc
      rw [List.singleton_append, h.four, h.five]
      rfl
    · exact h.one c _ hc
  | c :: d :: more =>
    by_cases hc : c = quote
    · subst hc
      have hd : d ≠ c := fun hd => hbody more (by rw [hd])
      exact h.two d _ hd
    · exact h.one c _ hc

/-- Of a run of quotes no more than two are left as they are. -/
theorem escapedText_ne_quotes {wide : Bool} {run : Nat} (hrun : 1 ≤ run) (text more : List Char) :
    escapedText wide 2 run text ≠ '"' :: '"' :: more := by
  by_cases hfull : 2 ≤ run
  · exact escapedText_ne_quote hfull text _
  · cases text with
    | nil => simp [escapedText]
    | cons c text =>
      by_cases hc : c = '"'
      · subst hc
        rw [escapedText, if_pos (by omega)]
        intro heq
        exact escapedText_ne_quote (by omega) text more (List.cons.inj heq).2
      · obtain ⟨first, behind, hwritten, hfirst⟩ := (escape_escaped wide c).head_ne_quote hc
        rw [escapedText_cons hc, hwritten]
        simp [hfirst]

theorem wideBasic_escapedText {rest : List Char} (h : Unquoted rest) (text : List Char)
    (run : Nat) :
    wideBasic false (escapedText true 2 run text ++ '"' :: '"' :: '"' :: rest) =
      some (text, rest) := by
  have hreads := wideBasic_tripled h
  induction text generalizing run with
  | nil => exact hreads.three
  | cons c text ih =>
    by_cases hc : c = '"'
    · subst hc
      rw [escapedText]
      split
      · rw [List.cons_append, hreads.step (escapedText_ne_quotes (by omega) text), ih]
        rfl
      · have hread := wideBasic_of_escape (.letter '"' rfl) (by simp)
          (escapedText true 2 0 text ++ '"' :: '"' :: '"' :: rest)
        rw [ih] at hread
        exact hread
    · obtain ⟨first, more, hwritten, hfirst⟩ := (escape_escaped true c).head_ne_quote hc
      rw [escapedText_cons hc, List.append_assoc,
        wideBasic_of_escape (escape_escaped true c) (by simp [hwritten, hfirst]), ih]
      rfl

/-! ## Between single quotes -/

theorem literal_append {text : List Char} (hplain : ∀ c ∈ text, isPlain c = true ∧ c ≠ '\'')
    (rest : List Char) : literal (text ++ '\'' :: rest) = some (text, rest) := by
  induction text with
  | nil => simp [literal]
  | cons c text ih =>
    obtain ⟨hc, hquote⟩ := hplain c List.mem_cons_self
    rw [List.cons_append, literal]
    · rw [if_pos hc, ih fun d hd => hplain d (List.mem_cons_of_mem _ hd)]
      rfl
    · exact hquote

theorem le_longestRun (c : Char) (run : Nat) (text : List Char) : run ≤ longestRun c run text := by
  induction text generalizing run with
  | nil => exact Nat.le_refl run
  | cons d text ih =>
    rw [longestRun]
    split
    · exact Nat.le_of_succ_le (ih (run + 1))
    · exact Nat.le_max_left _ _

theorem wideLiteral_append {text rest : List Char} (h : Unquoted rest) (run : Nat)
    (hplain : ∀ c ∈ text, isPlain c = true ∨ c = '\n') (hrun : longestRun '\'' run text ≤ 2) :
    wideLiteral (text ++ '\'' :: '\'' :: '\'' :: rest) = some (text, rest) := by
  have hreads := wideLiteral_tripled h
  induction text generalizing run with
  | nil => exact hreads.three
  | cons c text ih =>
    have hmore := fun d hd => hplain d (List.mem_cons_of_mem c hd)
    rw [longestRun] at hrun
    by_cases hc : c = '\''
    · subst hc
      rw [if_pos rfl] at hrun
      -- Three quotes in a row would be a run of three, which the text does not have.
      have htwo : ∀ more, text ≠ '\'' :: '\'' :: more := by
        rintro more rfl
        rw [longestRun, if_pos rfl, longestRun, if_pos rfl] at hrun
        have hlong := le_longestRun '\'' (run + 1 + 1 + 1) more
        omega
      rw [List.cons_append, hreads.step htwo, ih (run + 1) hmore hrun]
      rfl
    · rw [if_neg hc] at hrun
      have hstep : wideLiteral (c :: (text ++ '\'' :: '\'' :: '\'' :: rest)) =
          (wideLiteral (text ++ '\'' :: '\'' :: '\'' :: rest)).map (prepend c) := by
        rcases hplain c List.mem_cons_self with hc' | rfl
        · obtain ⟨hbreak, hreturn⟩ := ne_break_of_plain hc'
          rw [wideLiteral]
          · rw [if_pos hc']
          all_goals simp_all
        · rw [wideLiteral]
      rw [List.cons_append, hstep, ih 0 hmore (by omega)]
      rfl

/-! ## The four ways -/

/-- What the writer has made sure of when it leaves a string as it is on one line. -/
theorem form_literal {text : List Char} (h : form text = .literal) :
    text ≠ [] ∧ ∀ c ∈ text, isPlain c = true ∧ c ≠ '\'' := by
  dsimp only [form] at h
  split at h
  · cases h
  · split at h
    · next hbasic hliteral =>
      simp only [Bool.and_eq_true, Bool.not_eq_true', List.any_eq_false, List.contains_eq_mem,
        decide_eq_false_iff_not] at hliteral
      obtain ⟨⟨hescapes, hquote⟩, hbreak⟩ := hliteral
      constructor
      · rintro rfl
        exact hbasic rfl
      · intro c hc
        have hescape := Bool.eq_false_iff.mpr (hescapes c hc)
        exact ⟨isPlain_of_unescaped hescape fun heq => hbreak (heq ▸ hc),
          fun heq => hquote (heq ▸ hc)⟩
    · repeat' split at h
      all_goals cases h

/-- The same over several lines: nothing in the text needs an escape, and no three single quotes
follow each other. -/
theorem form_wideLiteral {text : List Char} (h : form text = .wideLiteral) :
    (∀ c ∈ text, isPlain c = true ∨ c = '\n') ∧ longestRun '\'' 0 text ≤ 2 := by
  dsimp only [form] at h
  split at h
  · cases h
  split at h
  · cases h
  split at h
  · cases h
  split at h
  · next hliteral =>
    simp only [Bool.and_eq_true, Bool.not_eq_true', List.any_eq_false, decide_eq_true_eq]
      at hliteral
    refine ⟨fun c hc => ?_, hliteral.2⟩
    have hescape := Bool.eq_false_iff.mpr (hliteral.1 c hc)
    by_cases hbreak : c = '\n'
    · exact .inr hbreak
    · exact .inl (isPlain_of_unescaped hescape hbreak)
  · split at h <;> cases h

theorem skipBreak_cons {c : Char} (hbreak : c ≠ '\n') (hreturn : c ≠ '\r') (rest : List Char) :
    skipBreak (c :: rest) = c :: rest := by
  unfold skipBreak afterBreak?
  split <;> simp_all

/-- The line break that may come after the opening quotes is not part of the string. -/
theorem skipBreak_escapedText (text rest : List Char) :
    skipBreak ((if text.contains '\n' then ['\n'] else []) ++
      (escapedText true 2 0 text ++ '"' :: rest)) = escapedText true 2 0 text ++ '"' :: rest := by
  by_cases hbreak : '\n' ∈ text
  · rw [if_pos (List.contains_iff_mem.mpr hbreak)]
    rfl
  · rw [if_neg (mt List.contains_iff_mem.mp hbreak), List.nil_append]
    cases text with
    | nil => rfl
    | cons c text =>
      by_cases hc : c = '"'
      · subst hc
        rfl
      · have hne : c ≠ '\n' := fun heq => hbreak (heq ▸ List.mem_cons_self)
        rw [escapedText_cons hc, List.append_assoc]
        have hescape := escape_escaped true c
        generalize escaped true c = written at hescape ⊢
        cases hescape with
        | newline _ heq => exact absurd heq hne
        | letter e he => exact skipBreak_cons (by decide) (by decide) _
        | number hsmall => exact skipBreak_cons (by decide) (by decide) _
        | itself hplain hback =>
          exact skipBreak_cons (ne_break_of_plain hplain).1 (ne_break_of_plain hplain).2 _

theorem skipBreak_plain {text : List Char} (hplain : ∀ c ∈ text, isPlain c = true ∨ c = '\n')
    (rest : List Char) :
    skipBreak ((if text.contains '\n' then ['\n'] else []) ++ (text ++ '\'' :: rest)) =
      text ++ '\'' :: rest := by
  by_cases hbreak : '\n' ∈ text
  · rw [if_pos (List.contains_iff_mem.mpr hbreak)]
    rfl
  · rw [if_neg (mt List.contains_iff_mem.mp hbreak), List.nil_append]
    cases text with
    | nil => rfl
    | cons c text =>
      have hc := (hplain c List.mem_cons_self).resolve_right
        fun heq => hbreak (heq ▸ List.mem_cons_self)
      exact skipBreak_cons (ne_break_of_plain hc).1 (ne_break_of_plain hc).2 _

/-- Every string is read back, unless a quote follows it, whichever of the four forms it is written
in. -/
theorem string?_quoteList {rest : List Char} (h : Unquoted rest) (text : List Char) :
    string? (quoteList text ++ rest) = some (text, rest) := by
  unfold quoteList
  cases hform : form text with
  | basic =>
    dsimp only
    rw [List.append_assoc, List.cons_append, List.singleton_append, string?]
    · exact basic_escapedText text rest
    · -- Two more quotes would open a longer string.
      intro more hmore
      cases hwritten : escapedText false 0 0 text with
      | nil =>
        rw [hwritten, List.nil_append] at hmore
        exact (h '"' (by rw [(List.cons.inj hmore).2]; rfl)).1 rfl
      | cons first behind =>
        rw [hwritten, List.cons_append] at hmore
        exact escapedText_ne_quote (Nat.le_refl 0) text behind
          (hwritten.trans (by rw [(List.cons.inj hmore).1]))
  | literal =>
    obtain ⟨hsome, hplain⟩ := form_literal hform
    dsimp only
    rw [List.append_assoc, List.cons_append, List.singleton_append, string?]
    · exact literal_append hplain rest
    · intro more hmore
      obtain ⟨c, behind, rfl⟩ := List.exists_cons_of_ne_nil hsome
      exact (hplain c List.mem_cons_self).2 (List.cons.inj hmore).1
  | wideBasic =>
    dsimp only
    simp only [List.append_assoc, List.cons_append, List.nil_append]
    rw [string?, skipBreak_escapedText]
    exact wideBasic_escapedText h text 0
  | wideLiteral =>
    obtain ⟨hplain, hrun⟩ := form_wideLiteral hform
    dsimp only
    simp only [List.append_assoc, List.cons_append, List.nil_append]
    rw [string?, skipBreak_plain hplain]
    exact wideLiteral_append h 0 hplain hrun

end LayeredUnits.Toml
