import LayeredUnits.Proofs.WrittenValues

/-!
# Written tables are read back

A document is a list of tables, each with its header and below it its pairs,
one on a line. If no two tables share a name and no two pairs of a table a key,
reading the document gives the tables in order, and in each its pairs in order.

* `Pair`, `Part`, `document` — documents as they are written.
* `says_document` — the lines of a document.
* `build?_lines` — the table that these lines build.
* `read?_document` — both together.
-/

namespace LayeredUnits.Toml

/-- Whether a name can be a key without quotes. All names that settings are written under
are such. -/
def IsBare (name : String) : Prop := (!name.toList.isEmpty && name.toList.all isBare) = true

instance (name : String) : Decidable (IsBare name) := inferInstanceAs (Decidable (_ = true))

/-- A pair as it is written: a key that needs no quotes, and a text that is read as its value. -/
structure Pair where
  key : String
  /-- What stands behind the equals sign. -/
  text : String
  value : Value
  bare : IsBare key
  spells : Spells text.toList value

/-- A table as it is written: a header, and pairs with different keys. -/
structure Part where
  name : String
  pairs : List Pair
  bare : IsBare name
  distinct : (pairs.map Pair.key).Nodup

namespace Pair

/-- The line of a pair. -/
def written (pair : Pair) : List Char := (pairLine pair.key pair.text).toList

/-- What the line says. -/
def line (pair : Pair) : Line := .pair [pair.key] pair.value

/-- A string. -/
def ofText (key : String) (bare : IsBare key) (text : String) : Pair :=
  ⟨key, quote text, .text text, bare, spells_quote text⟩

/-- A list of strings. -/
def ofTexts (key : String) (bare : IsBare key) (texts : List String) : Pair :=
  ⟨key, list texts, .list (texts.map .text), bare, spells_list texts⟩

/-- A truth value. -/
def ofBool (key : String) (bare : IsBare key) (value : Bool) : Pair :=
  ⟨key, if value then "true" else "false", .boolean value, bare, spells_boolean value⟩

/-- A positive number. -/
def ofNat (key : String) (bare : IsBare key) (n : Nat) (h : n ≠ 0)
    (hfits : n < 0x8000000000000000) : Pair :=
  ⟨key, toString n, .integer n, bare, spells_natural h hfits⟩

end Pair

namespace Part

/-- The header and the pairs below it. -/
def written (part : Part) : List Char :=
  '[' :: part.name.toList ++ [']', '\n'] ++ part.pairs.flatMap Pair.written

/-- What the lines say. -/
def lines (part : Part) : List Line := .header false [part.name] :: part.pairs.map Pair.line

/-- The fields of the table. -/
def fields (part : Part) : List (String × Value) := part.pairs.map fun pair => (pair.key, pair.value)

end Part

/-- Tables with an empty line between them, which is how a file of settings looks. -/
def document : List Part → List Char
  | [] => []
  | part :: parts => part.written ++ parts.flatMap fun part => '\n' :: part.written

/-! ## Lines -/

theorem dropWhile_bare {name : List Char} (h : ∀ c ∈ name, isBare c = true) {c : Char}
    (hc : isBare c = false) (rest : List Char) :
    (name ++ c :: rest).takeWhile isBare = name ∧
      (name ++ c :: rest).dropWhile isBare = c :: rest := by
  rw [List.takeWhile_append_of_pos h, List.dropWhile_append_of_pos h,
    List.takeWhile_cons_of_neg (by simp [hc]), List.dropWhile_cons_of_neg (by simp [hc])]
  simp

theorem IsBare.all {name : String} (h : IsBare name) : ∀ c ∈ name.toList, isBare c = true :=
  List.all_eq_true.mp (Bool.and_eq_true_iff.mp h).2

/-- The first character of a bare name. -/
theorem IsBare.head {name : String} (h : IsBare name) :
    ∃ first more, name.toList = first :: more ∧ isBare first = true := by
  have hall := h.all
  cases hname : name.toList with
  | nil =>
    rw [IsBare, hname] at h
    cases h
  | cons first more => exact ⟨first, more, rfl, hall first (hname ▸ List.mem_cons_self)⟩

theorem ne_of_isBare {c d : Char} (h : isBare c = true) (hd : isBare d = false) : c ≠ d := by
  rintro rfl
  cases h.symm.trans hd

theorem not_blank_of_isBare {c : Char} (h : isBare c = true) : isBlank c = false := by
  have hspace : c ≠ ' ' := ne_of_isBare h rfl
  have htab : c ≠ '\t' := ne_of_isBare h rfl
  simp [isBlank, hspace, htab]

theorem part?_bare {name : String} (h : IsBare name) {c : Char} (hc : isBare c = false)
    (rest : List Char) : part? (name.toList ++ c :: rest) = some (name.toList, c :: rest) := by
  obtain ⟨htake, hdrop⟩ := dropWhile_bare h.all hc rest
  obtain ⟨first, more, hname, hfirst⟩ := h.head
  rw [hname, List.cons_append] at htake hdrop ⊢
  rw [part?, htake, hdrop]
  · exact fun behind heq => ne_of_isBare hfirst rfl (List.cons.inj heq).1
  · exact fun behind heq => ne_of_isBare hfirst rfl (List.cons.inj heq).1

theorem skipBlanks_bare {name : String} (h : IsBare name) (rest : List Char) :
    skipBlanks (name.toList ++ rest) = name.toList ++ rest := by
  obtain ⟨first, more, hname, hfirst⟩ := h.head
  exact skipBlanks_of_head hname (not_blank_of_isBare hfirst) rest

/-- A bare name is a key of one part, unless a dot comes after it. -/
theorem key?_bare {name : String} (h : IsBare name) {c d : Char} (hc : isBare c = false)
    {rest more : List Char} (hskip : skipBlanks (c :: rest) = d :: more) (hd : d ≠ '.') :
    key? (name.toList ++ c :: rest) = some ([name], d :: more) := by
  rw [key?, depthLimit, keyWithin?, skipBlanks_bare h, part?_bare h hc]
  simp only [Option.bind_eq_bind, Option.bind_some, hskip]
  split
  · next heq => exact absurd (List.cons.inj heq).1 hd
  · rw [String.ofList_toList]

theorem toList_pairLine (key text : String) (rest : List Char) :
    (pairLine key text).toList ++ rest =
      key.toList ++ ' ' :: '=' :: ' ' :: (text.toList ++ '\n' :: rest) := by
  simp [pairLine]

/-- The line of a pair says the pair. -/
theorem line?_written (pair : Pair) (rest : List Char) :
    line? (pair.written ++ rest) = some (pair.line, rest) := by
  rw [Pair.written, toList_pairLine]
  have hkey : key? (pair.key.toList ++ ' ' :: '=' :: ' ' :: (pair.text.toList ++ '\n' :: rest)) =
      some ([pair.key], '=' :: ' ' :: (pair.text.toList ++ '\n' :: rest)) :=
    key?_bare pair.bare rfl rfl (by decide)
  obtain ⟨first, more, hname, hfirst⟩ := pair.bare.head
  have hblank : skipBlanks (' ' :: (pair.text.toList ++ '\n' :: rest)) =
      pair.text.toList ++ '\n' :: rest := by
    rw [skipBlanks, List.dropWhile_cons_of_pos rfl]
    exact pair.spells.unblank _
  rw [hname, List.cons_append] at hkey ⊢
  rw [line?, hkey]
  · simp only [Option.bind_eq_bind, Option.bind_some, after?, if_true, hblank,
      pair.spells.reads]
    rfl
  · exact fun behind heq => ne_of_isBare hfirst rfl (List.cons.inj heq).1
  · exact fun behind heq => ne_of_isBare hfirst rfl (List.cons.inj heq).1

/-- The line of a header says the header. -/
theorem line?_header {name : String} (h : IsBare name) (rest : List Char) :
    line? ('[' :: (name.toList ++ ']' :: '\n' :: rest)) = some (.header false [name], rest) := by
  have hkey : key? (name.toList ++ ']' :: '\n' :: rest) = some ([name], ']' :: '\n' :: rest) :=
    key?_bare h rfl rfl (by decide)
  obtain ⟨first, more, hname, hfirst⟩ := h.head
  rw [hname, List.cons_append] at hkey ⊢
  rw [line?, hkey]
  · rfl
  · exact fun behind heq => ne_of_isBare hfirst rfl (List.cons.inj heq).1

/-- Whether a text says these lines, whenever there is fuel enough. -/
def Says (text : List Char) (lines : List Line) : Prop :=
  ∀ fuel, text.length < fuel → lines? fuel text = some lines

theorem Says.nil : Says [] [] := by
  intro fuel hfuel
  cases fuel with
  | zero => rfl
  | succ fuel => rfl

/-- An empty line says nothing, so it may stand between any two others. -/
theorem Says.blank {text : List Char} {lines : List Line} (h : Says text lines) :
    Says ('\n' :: text) lines := by
  intro fuel hfuel
  cases fuel with
  | zero => cases hfuel
  | succ fuel => exact h fuel (Nat.lt_of_succ_lt_succ hfuel)

/-- A line that starts with no blank, comment or break is read, and then the lines after it. -/
theorem Says.line {text written : List Char} {line : Line} {lines : List Line} {first : Char}
    {more : List Char} (h : Says text lines) (hline : line? (written ++ text) = some (line, text))
    (hwritten : written = first :: more) (hblank : isBlank first = false) (hcomment : first ≠ '#')
    (hbreak : first ≠ '\n' ∧ first ≠ '\r') : Says (written ++ text) (line :: lines) := by
  intro fuel hfuel
  have hskip := skipBlanks_of_head hwritten hblank text
  cases fuel with
  | zero => cases hfuel
  | succ fuel =>
    have hless : text.length < fuel := by
      rw [List.length_append, hwritten, List.length_cons] at hfuel
      omega
    subst hwritten
    rw [lines?, hskip, List.cons_append]
    rw [List.cons_append] at hline
    split
    · next heq => cases heq
    · next heq => exact absurd (List.cons.inj heq).1 hcomment
    · next heq =>
      obtain ⟨rfl, rfl⟩ := List.cons.inj heq
      rw [if_neg (not_or.mpr hbreak), hline]
      simp only [Option.bind_eq_bind, Option.bind_some, h fuel hless]

/-- The pairs of a table are said by their lines. -/
theorem Says.pairs {text : List Char} {lines : List Line} (h : Says text lines)
    (pairs : List Pair) :
    Says (pairs.flatMap Pair.written ++ text) (pairs.map Pair.line ++ lines) := by
  induction pairs with
  | nil => exact h
  | cons pair pairs ih =>
    obtain ⟨first, more, hname, hfirst⟩ := pair.bare.head
    have hwritten : pair.written = first :: (more ++ (pairLine "" pair.text).toList) := by
      simp [Pair.written, pairLine, hname]
    rw [List.flatMap_cons, List.append_assoc]
    have hne : ∀ {d : Char}, isBare d = false → first ≠ d := fun hd => ne_of_isBare hfirst hd
    exact ih.line (line?_written pair _) hwritten (not_blank_of_isBare hfirst) (hne rfl)
      ⟨hne rfl, hne rfl⟩

/-- A table is said by its header and its pairs. -/
theorem Says.part {text : List Char} {lines : List Line} (h : Says text lines) (part : Part) :
    Says (part.written ++ text) (part.lines ++ lines) := by
  have hbelow := h.pairs part.pairs
  have hheader : Says
      ('[' :: part.name.toList ++ [']', '\n'] ++ (part.pairs.flatMap Pair.written ++ text))
      (.header false [part.name] :: (part.pairs.map Pair.line ++ lines)) :=
    hbelow.line (by simpa using line?_header part.bare _) rfl rfl (by decide) (by decide)
  simpa [Part.written, Part.lines] using hheader

/-- The lines of a document are the headers and pairs that it was written from, in their order. -/
theorem says_document (parts : List Part) : Says (document parts) (parts.flatMap Part.lines) := by
  have hmore : ∀ parts : List Part, Says (parts.flatMap fun part => '\n' :: part.written)
      (parts.flatMap Part.lines) := by
    intro parts
    induction parts with
    | nil => exact .nil
    | cons part parts ih => exact (ih.part part).blank
  cases parts with
  | nil => exact .nil
  | cons part parts => exact (hmore parts).part part

/-! ## Tables -/

/-- Pairs with keys of their own are added at the end, none in the way of another. -/
theorem addPairs_line (pairs : List (String × Value)) (fields : Fields)
    (h : (fields.map (·.1) ++ pairs.map (·.1)).Nodup) :
    addPairs (pairs.map fun pair => ([pair.1], pair.2)) fields =
      some (fields ++ pairs.map fun pair => (pair.1, .value pair.2)) := by
  induction pairs generalizing fields with
  | nil => simp [addPairs]
  | cons pair pairs ih =>
    have hnew : fields.any (·.1 == pair.1) = false := by
      rw [← Bool.not_eq_true, List.any_eq_true]
      rintro ⟨field, hfield, hsame⟩
      have := (List.nodup_append.mp h).2.2 field.1 (List.mem_map_of_mem hfield) pair.1 (by simp)
      exact this (eq_of_beq hsame)
    have hadd : addPair pair.2 [pair.1] fields = some (fields ++ [(pair.1, .value pair.2)]) := by
      rw [addPair, hnew]
      rfl
    have hrest := ih (fields ++ [(pair.1, .value pair.2)]) (by simpa using h)
    simpa [addPairs, hadd] using hrest

/-- A header that is new opens a table after all others. -/
theorem openTable_new {fields below : Fields} {name : String} {fill : Fields → Option Fields}
    (hnew : ∀ field ∈ fields, field.1 ≠ name) (hfill : fill [] = some below) :
    openTable false fill [name] fields = some (fields ++ [(name, .table .header below)]) := by
  have hlookup : fields.lookup name = none := by
    rw [List.lookup_eq_none_iff]
    exact fun field hfield => by simpa using (hnew field hfield).symm
  have hany : fields.any (·.1 == name) = false := by
    rw [← Bool.not_eq_true, List.any_eq_true]
    rintro ⟨field, hfield, hsame⟩
    exact hnew field hfield (eq_of_beq hsame)
  rw [openTable]
  · simp [hfill, putField, hany]
  · exact hlookup

/-- A table as an item. -/
def Part.item (part : Part) : String × Item :=
  (part.name, .table .header (part.fields.map fun field => (field.1, .value field.2)))

theorem sections_pairs (pairs : List Pair) (lines : List Line) :
    sections (pairs.map Pair.line ++ lines) =
      (pairs.map (fun pair => ([pair.key], pair.value)) ++ (sections lines).1,
        (sections lines).2) := by
  induction pairs with
  | nil => rfl
  | cons pair pairs ih => simp [Pair.line, sections, ih]

theorem sections_lines (parts : List Part) :
    sections (parts.flatMap Part.lines) =
      ([], parts.map fun part =>
        (false, [part.name], part.fields.map fun field => ([field.1], field.2))) := by
  induction parts with
  | nil => rfl
  | cons part parts ih =>
    simp [Part.lines, Part.fields, sections, sections_pairs, ih, Function.comp_def]

/-- Tables with names of their own come one after the other, each new to those before it. -/
theorem openTables (parts : List Part) (fields : Fields)
    (h : (fields.map (·.1) ++ parts.map Part.name).Nodup) :
    (parts.map fun part =>
        (false, [part.name], part.fields.map fun field => ([field.1], field.2))).foldlM
      (fun fields part => openTable part.1 (addPairs part.2.2) part.2.1 fields) fields =
      some (fields ++ parts.map Part.item) := by
  induction parts generalizing fields with
  | nil => simp
  | cons part parts ih =>
    have hnew : ∀ field ∈ fields, field.1 ≠ part.name := fun field hfield =>
      (List.nodup_append.mp h).2.2 field.1 (List.mem_map_of_mem hfield) part.name (by simp)
    have hkeys : ((([] : Fields).map (·.1)) ++ part.fields.map (·.1)).Nodup := by
      simpa [Part.fields, Function.comp_def] using part.distinct
    have hopen := openTable_new hnew (addPairs_line part.fields [] hkeys)
    have hrest := ih (fields ++ [part.item]) (by simpa [Part.item] using h)
    rw [List.map_cons, List.foldlM_cons, hopen]
    simpa [Part.item] using hrest

/-- The table that the lines of a document build has the tables of the document as its fields. -/
theorem build?_lines {parts : List Part} (h : (parts.map Part.name).Nodup) :
    build? (parts.flatMap Part.lines) = some (parts.map Part.item) := by
  rw [build?, sections_lines]
  exact openTables parts [] h

theorem finishedFields_values (fields : List (String × Value)) :
    finishedFields (fields.map fun field => (field.1, .value field.2)) = fields := by
  induction fields with
  | nil => rfl
  | cons field fields ih => simp [finishedFields, Item.finished, ih]

theorem finishedFields_items (parts : List Part) :
    finishedFields (parts.map Part.item) =
      parts.map fun part => (part.name, .table part.fields) := by
  induction parts with
  | nil => rfl
  | cons part parts ih =>
    simp [Part.item, finishedFields, Item.finished, finishedFields_values, ih]

/-- A document is read as the tables that it was written from. That settings survive rests
on this. -/
theorem read?_document {parts : List Part} (h : (parts.map Part.name).Nodup) :
    read? (String.ofList (document parts)) =
      some (parts.map fun part => (part.name, .table part.fields)) := by
  have hmark : (document parts).head? ≠ some '\uFEFF' := by
    cases parts <;> simp [document, Part.written]
  have hlines : lines? ((document parts).length + 1) (document parts) =
      some (parts.flatMap Part.lines) := says_document parts _ (Nat.lt_succ_self _)
  have hskip : ((document parts).head? == some '\uFEFF') = false := beq_eq_false_iff_ne.mpr hmark
  simp only [read?, String.toList_ofList, hskip, Bool.false_eq_true, if_false, hlines,
    Option.bind_some, build?_lines h, Option.map_some, finishedFields_items]

end LayeredUnits.Toml
