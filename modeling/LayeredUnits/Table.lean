/-!
# Tables

A table holds one value a name. Everything that a loader remembers is kept in
tables that are written with `insertNew`: the first value stays, and a later
one for the same name changes nothing. `get?` is the view through which the
other operations are described, one equation each.
-/

namespace LayeredUnits

/-- A finite map from names to values, as a list in which the first entry of a name counts. That
there is no second one is `Distinct`. -/
structure Table (α : Type) where
  entries : List (String × α) := []

namespace Table

variable {α : Type}

/-- A table that holds nothing. -/
def empty : Table α := {}

instance : Inhabited (Table α) := ⟨empty⟩

/-- The value that belongs to a name. -/
def get? (table : Table α) (name : String) : Option α := table.entries.lookup name

/-- Whether a name has a value. What the value is, a stored absence for example, makes no
difference. -/
def contains (table : Table α) (name : String) : Bool := (table.get? name).isSome

/-- How many values there are. -/
def size (table : Table α) : Nat := table.entries.length

/-- Puts a value where none is. Whatever stands under the name already stays, and then the table is
as it was. -/
def insertNew (table : Table α) (name : String) (value : α) : Table α :=
  match table.get? name with
  | some _ => table
  | none => ⟨(name, value) :: table.entries⟩

/-- The value that a name has after `insertNew`: the one that was there, or the new one. Whoever
comes too late goes on with what the other one has put. -/
def kept (table : Table α) (name : String) (value : α) : α := (table.get? name).getD value

/-- Takes the value of a name out. Every entry of the name goes, so that nothing comes to light from
below. -/
def erase (table : Table α) (name : String) : Table α :=
  ⟨table.entries.filter fun entry => entry.1 != name⟩

/-- Keeps the values that pass a test, under the names that they have. -/
def retain (table : Table α) (test : α → Bool) : Table α :=
  ⟨table.entries.filter fun entry => test entry.2⟩

@[simp] theorem get?_empty (name : String) : (empty : Table α).get? name = none := rfl

@[simp] theorem size_empty : (empty : Table α).size = 0 := rfl

theorem get?_insertNew_self (table : Table α) (name : String) (value : α) :
    (table.insertNew name value).get? name = some (table.kept name value) := by
  unfold insertNew kept
  cases h : table.get? name with
  | none => simp [get?]
  | some held => simpa using h

theorem get?_insertNew_of_ne (table : Table α) {name other : String} (value : α)
    (h : other ≠ name) : (table.insertNew name value).get? other = table.get? other := by
  unfold insertNew
  cases table.get? name with
  | none =>
    have : (other == name) = false := by simpa using h
    simp [get?, List.lookup_cons, this]
  | some held => rfl

/-- What is held stays held, whatever is put under any name later. -/
theorem get?_insertNew_of_some {table : Table α} {name other : String} {held : α} (value : α)
    (h : table.get? other = some held) : (table.insertNew name value).get? other = some held := by
  by_cases hn : other = name
  · subst hn
    simp [get?_insertNew_self, kept, h]
  · rw [get?_insertNew_of_ne table value hn, h]

theorem get?_insertNew (table : Table α) (name other : String) (value : α) :
    (table.insertNew name value).get? other =
      if other = name then some (table.kept name value) else table.get? other := by
  by_cases h : other = name
  · rw [if_pos h, h, get?_insertNew_self]
  · rw [if_neg h, get?_insertNew_of_ne table value h]

private theorem lookup_cons_if (key name : String) (value : α) (entries : List (String × α)) :
    ((key, value) :: entries).lookup name =
      if name = key then some value else entries.lookup name := by
  rw [List.lookup_cons]
  by_cases h : name = key
  · rw [if_pos h, beq_iff_eq.mpr h]
  · rw [if_neg h, beq_eq_false_iff_ne.mpr h]

theorem get?_erase (table : Table α) (name other : String) :
    (table.erase name).get? other = if other = name then none else table.get? other := by
  obtain ⟨entries⟩ := table
  unfold erase get?
  induction entries with
  | nil => simp
  | cons entry rest ih =>
    obtain ⟨key, value⟩ := entry
    rw [lookup_cons_if, List.filter_cons]
    by_cases hkey : key = name
    · rw [if_neg (by simp [hkey]), ih, hkey]
      by_cases h : other = name <;> simp [h]
    · rw [if_pos (by simp [hkey]), lookup_cons_if, ih]
      by_cases h : other = key
      · rw [if_pos h, if_pos h, if_neg (fun he => hkey (h ▸ he))]
      · rw [if_neg h, if_neg h]

@[simp] theorem kept_of_some {table : Table α} {name : String} {held : α} (value : α)
    (h : table.get? name = some held) : table.kept name value = held := by
  simp [kept, h]

@[simp] theorem kept_of_none {table : Table α} {name : String} (value : α)
    (h : table.get? name = none) : table.kept name value = value := by
  simp [kept, h]

theorem contains_eq_false_iff {table : Table α} {name : String} :
    table.contains name = false ↔ table.get? name = none := by
  simp [contains]

/-- A value for a name that is held already changes nothing. -/
theorem insertNew_of_some {table : Table α} {name : String} {held : α} (value : α)
    (h : table.get? name = some held) : table.insertNew name value = table := by
  simp [insertNew, h]

theorem size_insertNew_of_none {table : Table α} {name : String} (value : α)
    (h : table.get? name = none) : (table.insertNew name value).size = table.size + 1 := by
  unfold insertNew
  rw [h]
  rfl

/-! ## One value a name -/

/-- No name has a second value behind the one that it shows. Whatever is written with `insertNew`
only is so, and taking a value out then leaves nothing under its name. -/
def Distinct (table : Table α) : Prop := (table.entries.map (·.1)).Nodup

theorem distinct_empty : (empty : Table α).Distinct := List.nodup_nil

private theorem lookup_eq_none_iff {entries : List (String × α)} {name : String} :
    entries.lookup name = none ↔ name ∉ entries.map (·.1) := by
  induction entries with
  | nil => simp
  | cons entry rest ih =>
    obtain ⟨key, value⟩ := entry
    rw [lookup_cons_if, List.map_cons, List.mem_cons, not_or, ← ih]
    by_cases h : name = key <;> simp [h]

theorem Distinct.insertNew {table : Table α} (h : table.Distinct) (name : String) (value : α) :
    (table.insertNew name value).Distinct := by
  unfold Table.insertNew
  cases hname : table.get? name with
  | some held => exact h
  | none => exact List.nodup_cons.mpr ⟨lookup_eq_none_iff.mp hname, h⟩

theorem Distinct.retain {table : Table α} (h : table.Distinct) (test : α → Bool) :
    (table.retain test).Distinct :=
  h.sublist (List.filter_sublist.map _)

/-- What is left has passed the test. -/
theorem test_of_get?_retain {table : Table α} {test : α → Bool} {name : String} {held : α}
    (h : (table.retain test).get? name = some held) : test held = true := by
  obtain ⟨before, behind, hentries, -⟩ := List.lookup_eq_some_iff.mp h
  have hmem : (name, held) ∈ (table.retain test).entries :=
    hentries ▸ List.mem_append_right before List.mem_cons_self
  exact (List.mem_filter.mp hmem).2

/-- Where every name has one value, taking some out uncovers nothing. -/
theorem get?_retain {table : Table α} (h : table.Distinct) (test : α → Bool) (name : String) :
    (table.retain test).get? name = (table.get? name).filter test := by
  obtain ⟨entries⟩ := table
  unfold Distinct at h
  unfold Table.retain get?
  induction entries with
  | nil => rfl
  | cons entry rest ih =>
    obtain ⟨key, value⟩ := entry
    obtain ⟨hnew, hrest⟩ := List.nodup_cons.mp h
    have hbehind := ih hrest
    dsimp only at hbehind ⊢
    rw [List.filter_cons, lookup_cons_if]
    by_cases hname : name = key
    · subst hname
      rw [lookup_eq_none_iff.mpr hnew] at hbehind
      by_cases htest : test value
      · rw [if_pos htest, lookup_cons_if, if_pos rfl, if_pos rfl, Option.filter_some, if_pos htest]
      · rw [if_neg htest, hbehind, if_pos rfl, Option.filter_some, if_neg htest]
        rfl
    · rw [if_neg hname, ← hbehind]
      by_cases htest : test value
      · rw [if_pos htest, lookup_cons_if, if_neg hname]
      · rw [if_neg htest]

end Table

end LayeredUnits
