/-!
# Separated text

Splitting text at a separator, and the three tests on text that the rest of
the library is built from: a suffix taken off, a piece occurring somewhere
inside, and one character exchanged for another. Everything works on
`List Char`, so that a law about names or paths is a law about lists.

`segments_ne_nil` says that splitting always yields at least one segment;
`joined_segments` says that joining undoes splitting.
-/

namespace LayeredUnits.Text

/-- The pieces of a text between its separators, in order. A text without a
separator is one piece, and every separator starts a new one. -/
def segments (sep : Char) : List Char → List (List Char)
  | [] => [[]]
  | c :: rest =>
    if c = sep then [] :: segments sep rest
    else
      match segments sep rest with
      | [] => [[c]]
      | piece :: pieces => (c :: piece) :: pieces

/-- Splitting always yields at least one piece, if only an empty one. -/
theorem segments_ne_nil (sep : Char) (text : List Char) : segments sep text ≠ [] := by
  cases text with
  | nil => simp [segments]
  | cons c rest =>
    simp only [segments]
    split
    · simp
    · split <;> simp

/-- The pieces joined again by the separator, which stands between two pieces and not behind the
last. -/
def joined (sep : Char) : List (List Char) → List Char
  | [] => []
  | [piece] => piece
  | piece :: pieces => piece ++ sep :: joined sep pieces

/-- Joining undoes splitting. -/
theorem joined_segments (sep : Char) (text : List Char) :
    joined sep (segments sep text) = text := by
  induction text with
  | nil => rfl
  | cons c rest ih =>
    simp only [segments]
    split
    next h =>
      cases hs : segments sep rest with
      | nil => exact absurd hs (segments_ne_nil sep rest)
      | cons piece pieces => rw [hs] at ih; simp [joined, ih, h]
    next =>
      cases hs : segments sep rest with
      | nil => exact absurd hs (segments_ne_nil sep rest)
      | cons piece pieces =>
        rw [hs] at ih
        cases pieces with
        | nil => simpa [joined] using ih
        | cons q qs => simpa [joined] using ih

/-- `old` exchanged for `new` wherever it stands. Nothing tells afterwards which of the `new` were
there before. -/
def exchanged (old new : Char) (text : List Char) : List Char :=
  text.map fun c => if c = old then new else c

/-- What is left of a text when `suffix` is taken off its end. The empty suffix can be taken off
every text. -/
def stripSuffix? (suffix text : List Char) : Option (List Char) :=
  if suffix.isSuffixOf text then some (text.take (text.length - suffix.length)) else none

/-- A text is a stem with the suffix exactly when the stem and the suffix make it up. -/
theorem stripSuffix?_eq_some_iff {suffix text stem : List Char} :
    stripSuffix? suffix text = some stem ↔ text = stem ++ suffix := by
  unfold stripSuffix?
  constructor
  · intro h
    split at h
    next hs =>
      obtain ⟨front, rfl⟩ := List.isSuffixOf_iff_suffix.mp hs
      simp at h
      simp [h]
    next => cases h
  · rintro rfl
    have : suffix.isSuffixOf (stem ++ suffix) = true :=
      List.isSuffixOf_iff_suffix.mpr ⟨stem, rfl⟩
    simp [this]

/-- Whether `piece` occurs anywhere inside the text; the empty piece always does. -/
def occursIn (piece : List Char) : List Char → Bool
  | [] => piece.isEmpty
  | c :: rest => piece.isPrefixOf (c :: rest) || occursIn piece rest

/-- A piece occurs in a text exactly when the text can be cut around it. -/
theorem occursIn_iff {piece text : List Char} :
    occursIn piece text = true ↔ ∃ before after, text = before ++ piece ++ after := by
  induction text with
  | nil =>
    simp only [occursIn, List.isEmpty_iff]
    constructor
    · rintro rfl; exact ⟨[], [], rfl⟩
    · rintro ⟨before, after, h⟩; simp at h; exact h.2.1
  | cons c rest ih =>
    simp only [occursIn, Bool.or_eq_true, ih]
    constructor
    · rintro (h | ⟨before, after, rfl⟩)
      · obtain ⟨after, h⟩ := List.isPrefixOf_iff_prefix.mp h
        exact ⟨[], after, by simpa using h.symm⟩
      · exact ⟨c :: before, after, by simp⟩
    · rintro ⟨before, after, h⟩
      cases before with
      | nil =>
        left
        exact List.isPrefixOf_iff_prefix.mpr ⟨after, by simpa using h.symm⟩
      | cons b before =>
        right
        simp at h
        exact ⟨before, after, by simpa using h.2⟩

/-- Whether the text ends with `suffix`, to the letter. -/
def endsWith (suffix text : String) : Bool := suffix.toList.isSuffixOf text.toList

/-- Whether `piece` occurs in the text, at whatever place. -/
def contains (piece text : String) : Bool := occursIn piece.toList text.toList

/-- The pieces of a text between separators, as texts. -/
def pieces (sep : Char) (text : String) : List String :=
  (segments sep text.toList).map String.ofList

end LayeredUnits.Text
