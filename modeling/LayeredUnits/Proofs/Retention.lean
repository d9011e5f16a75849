import Mathlib
import LayeredUnits.Loader.Memo

/-!
# What is remembered, by what has been done

A memory keeps the first value that is written under a name, and each of its
tables has a rule of its own for when a value goes. Units stay for good. A miss
goes with a clear, or with somebody who holds the very record that is stored. A
clear takes the location of a resource only if it says that there is none, and
it takes every list. This module says what a memory answers in terms of the
operations that it has gone through, without its tables.

* `holdsFirst_of_step` — a slot that keeps what it holds has the first value
  that was put into it since it was emptied last.
* `units_next`, `misses_next`, `resources_next`, `lists_next` — what one
  operation does to one slot of each table.
* `agree_next`, `agree_filter` — no table has an influence on another.
* `number_eq_iff` — names are numbered apart.
* `answers_by_history` — what every operation answers after every history.
-/

namespace LayeredUnits

/-! ## Slots -/

section

variable {ω α : Type}

/-- The first value that operations put into a slot, if these come after `before`. -/
def firstPut? (puts : List ω → ω → Option α) : List ω → List ω → Option α
  | _, [] => none
  | before, one :: rest => (puts before one).or (firstPut? puts (before ++ [one]) rest)

theorem firstPut?_concat (puts : List ω → ω → Option α) (before recent : List ω) (one : ω) :
    firstPut? puts before (recent ++ [one]) =
      (firstPut? puts before recent).or (puts (before ++ recent) one) := by
  induction recent generalizing before with
  | nil => simp [firstPut?]
  | cons first rest ih =>
    rw [List.cons_append, firstPut?, firstPut?, ih, Option.or_assoc, List.append_assoc]
    rfl

/-- A history in two parts: up to the operation that emptied a slot last, and what has come
since. -/
structure EmptiedLast (empties : List ω → ω → Prop) (history past recent : List ω) : Prop where
  parts : history = past ++ recent
  emptied : past = [] ∨ ∃ before one, past = before ++ [one] ∧ empties before one
  untouched : ∀ before one later, recent = before ++ one :: later → ¬ empties (past ++ before) one

/-- A slot that is empty at first holds the first value that was put into it since it was emptied
last. -/
def HoldsFirst (puts : List ω → ω → Option α) (empties : List ω → ω → Prop) (history : List ω)
    (held : Option α) : Prop :=
  ∃ past recent, EmptiedLast empties history past recent ∧ held = firstPut? puts past recent

theorem EmptiedLast.concat {empties : List ω → ω → Prop} {history past recent : List ω} {one : ω}
    (h : EmptiedLast empties history past recent) (hone : ¬ empties history one) :
    EmptiedLast empties (history ++ [one]) past (recent ++ [one]) := by
  refine ⟨by rw [h.parts, List.append_assoc], h.emptied, ?_⟩
  intro before other later hrecent
  induction later using List.reverseRecOn with
  | nil =>
    -- The operation at the end is the new one.
    obtain ⟨rfl, hsame⟩ := List.append_inj' hrecent rfl
    obtain rfl := List.singleton_inj.mp hsame
    rwa [← h.parts]
  | append_singleton more last _ =>
    rw [← List.cons_append, ← List.append_assoc] at hrecent
    exact h.untouched before other more (List.append_inj' hrecent rfl).1

/-- What holds of a slot at every operation makes it hold the first value. -/
theorem holdsFirst_of_step {puts : List ω → ω → Option α} {empties : List ω → ω → Prop}
    {held : List ω → Option α} (hnil : held [] = none)
    (hempties : ∀ before one, empties before one → held (before ++ [one]) = none)
    (hputs : ∀ before one, ¬ empties before one →
      held (before ++ [one]) = (held before).or (puts before one)) (history : List ω) :
    HoldsFirst puts empties history (held history) := by
  induction history using List.reverseRecOn with
  | nil => exact ⟨[], [], ⟨rfl, .inl rfl, by simp⟩, hnil⟩
  | append_singleton history one ih =>
    by_cases hone : empties history one
    · refine ⟨history ++ [one], [], ⟨by simp, .inr ⟨history, one, rfl, hone⟩, by simp⟩, ?_⟩
      exact hempties history one hone
    · obtain ⟨past, recent, hlast, hheld⟩ := ih
      refine ⟨past, recent ++ [one], hlast.concat hone, ?_⟩
      rw [hputs history one hone, hheld, firstPut?_concat, ← hlast.parts]

end

/-! ## Tables -/

namespace Table

variable {α : Type}

/-- A slot of a table keeps what it holds, and takes what is offered if it holds nothing. -/
theorem get?_insertNew_or (table : Table α) (name other : String) (value : α) :
    (table.insertNew other value).get? name =
      (table.get? name).or (if other = name then some value else none) := by
  rw [get?_insertNew]
  by_cases h : name = other
  · subst h
    unfold kept
    cases table.get? name <;> simp
  · rw [if_neg h, if_neg (Ne.symm h), Option.or_none]

theorem Distinct.erase {table : Table α} (h : table.Distinct) (name : String) :
    (table.erase name).Distinct :=
  h.sublist (List.filter_sublist.map _)

theorem mem_names_iff {table : Table α} {name : String} :
    name ∈ table.entries.map (·.1) ↔ (table.get? name).isSome = true := by
  rw [← not_iff_not, Bool.not_eq_true, Option.isSome_eq_false_iff, Option.isNone_iff_eq_none]
  unfold get?
  rw [List.lookup_eq_none_iff, List.mem_map]
  constructor
  · intro h entry hentry
    exact bne_iff_ne.mpr fun heq => h ⟨entry, hentry, heq.symm⟩
  · rintro h ⟨entry, hentry, heq⟩
    exact bne_iff_ne.mp (h entry hentry) heq.symm

/-- The size is the number of the names that have a value. Without `Distinct` a name could be
counted twice. -/
theorem Distinct.size_eq {table : Table α} (h : table.Distinct) :
    ∃ names : Finset String, (∀ name, name ∈ names ↔ (table.get? name).isSome = true) ∧
      table.size = names.card := by
  refine ⟨(table.entries.map (·.1)).toFinset, ?_, ?_⟩
  · intro name
    rw [List.mem_toFinset]
    exact mem_names_iff
  · rw [List.toFinset_card_of_nodup h, List.length_map]
    rfl

end Table

namespace Memo

/-! ## Operations -/

/-- What can be asked of a memory, writes first and then what only looks. -/
inductive Operation where
  | intern (name : String)
  | insertUnit (name : String) (unit : Shared CodeUnit)
  | defineUnit (name : String) (unit : Shared CodeUnit)
  | rememberMiss (name : String) (miss : Shared Miss)
  | forgetMiss (name : String) (miss : Shared Miss)
  | forgetMisses
  | rememberResource (name : String) (found : Option Location)
  | rememberList (name : String) (found : List Location)
  /-- The unit that is bound to a name. -/
  | unit (name : String)
  | isBound (name : String)
  /-- The record that is stored for a name. -/
  | miss (name : String)
  | resource (name : String)
  | list (name : String)
  | unitCount
  | missCount

/-- What a memory answers, of one kind for each kind of operation. -/
inductive Answer where
  | nothing
  | number (count : Nat)
  | flag (value : Bool)
  | unit (held : Option (Shared CodeUnit))
  | defined (result : Except Fault (Shared CodeUnit))
  | miss (held : Option (Shared Miss))
  | resource (held : Option (Option Location))
  | list (held : Option (List Location))

/-- What an operation answers, and the memory after it. Operations are the ways in which a memory
can be used from outside. -/
def step (memo : Memo) : Operation → Answer × Memo
  | .intern name => (.number (memo.nameNumber name), memo.intern name)
  | .insertUnit name unit => (.unit (some (memo.boundUnit name unit)), memo.insertUnit name unit)
  | .defineUnit name unit => ((memo.defineUnit name unit).map .defined id)
  | .rememberMiss name miss => (.miss (some (memo.keptMiss name miss)), memo.rememberMiss name miss)
  | .forgetMiss name miss => (.nothing, memo.forgetMiss name miss)
  | .forgetMisses => (.number memo.missCount, memo.forgetMisses)
  | .rememberResource name found =>
    (.resource (some (memo.resources.kept name found)), memo.rememberResource name found)
  | .rememberList name found =>
    (.list (some (memo.lists.kept name found)), memo.rememberList name found)
  | .unit name => (.unit (memo.units.get? name), memo)
  | .isBound name => (.flag (memo.units.contains name), memo)
  | .miss name => (.miss (memo.misses.get? name), memo)
  | .resource name => (.resource (memo.resources.get? name), memo)
  | .list name => (.list (memo.lists.get? name), memo)
  | .unitCount => (.number memo.units.size, memo)
  | .missCount => (.number memo.missCount, memo)

/-- The memory after an operation. -/
def next (memo : Memo) (one : Operation) : Memo := (memo.step one).2

/-- The memory after a history, from an empty one. Every memory that can come about is such
a one. -/
def ofHistory (history : List Operation) : Memo := history.foldl next {}

theorem ofHistory_concat (history : List Operation) (one : Operation) :
    ofHistory (history ++ [one]) = (ofHistory history).next one := by
  unfold ofHistory
  rw [List.foldl_append]
  rfl

/-- What an operation answers after a history. This is all that can be seen of a memory. -/
def answerTo (history : List Operation) (one : Operation) : Answer :=
  ((ofHistory history).step one).1

/-- What holds at first and is kept by every operation holds after every history. -/
theorem ofHistory_induction {motive : Memo → Prop} (history : List Operation) (hstart : motive {})
    (hnext : ∀ memo one, motive memo → motive (memo.next one)) : motive (ofHistory history) := by
  induction history using List.reverseRecOn with
  | nil => exact hstart
  | append_singleton history one ih =>
    rw [ofHistory_concat]
    exact hnext _ one ih

/-! ## What an operation does to a slot -/

/-- The unit that an operation binds to a name. A definition binds it only if it succeeds. -/
def bindsUnit (name : String) (before : List Operation) : Operation → Option (Shared CodeUnit)
  | .insertUnit other unit => if other = name then some unit else none
  | .defineUnit other unit =>
    match answerTo before (.defineUnit other unit) with
    | .defined (.ok _) => if other = name then some unit else none
    | _ => none
  | _ => none

/-- The record that an operation offers for a name. Whether it is taken depends on what is there. -/
def offersMiss (name : String) : Operation → Option (Shared Miss)
  | .rememberMiss other miss => if other = name then some miss else none
  | _ => none

/-- The outcome that an operation offers for a resource. -/
def offersResource (name : String) : Operation → Option (Option Location)
  | .rememberResource other found => if other = name then some found else none
  | _ => none

/-- The list that an operation offers for a resource. -/
def offersList (name : String) : Operation → Option (List Location)
  | .rememberList other found => if other = name then some found else none
  | _ => none

/-- An operation that takes the record of a name out: a clear, or one who holds the very record that
is stored. -/
inductive TakesMiss (name : String) (before : List Operation) : Operation → Prop
  | cleared : TakesMiss name before .forgetMisses
  /-- It names the very record that is stored. -/
  | forgotten {miss stored : Shared Miss}
      (hstored : answerTo before (.miss name) = .miss (some stored))
      (hsame : stored.same miss = true) : TakesMiss name before (.forgetMiss name miss)

/-- An operation that takes the outcome for a resource out. It takes none that is a location. -/
inductive TakesResource (name : String) (before : List Operation) : Operation → Prop
  | cleared (hnowhere : answerTo before (.resource name) = .resource (some none)) :
      TakesResource name before .forgetMisses

theorem defineUnit_of_bound {memo : Memo} {name : String} {held : Shared CodeUnit}
    (unit : Shared CodeUnit) (h : memo.units.get? name = some held) :
    memo.defineUnit name unit = (.error (.duplicateDefinition name), memo) := by
  unfold defineUnit Table.contains
  rw [h]
  rfl

theorem defineUnit_of_free {memo : Memo} {name : String} (unit : Shared CodeUnit)
    (h : memo.units.get? name = none) :
    memo.defineUnit name unit = (.ok unit, memo.insertUnit name unit) := by
  unfold defineUnit Table.contains
  rw [h]
  rfl

theorem forgetMiss_cases (memo : Memo) (name : String) (miss : Shared Miss) :
    memo.forgetMiss name miss = memo ∨
      memo.forgetMiss name miss = { memo with misses := memo.misses.erase name } := by
  unfold forgetMiss
  cases memo.misses.get? name with
  | none => exact .inl rfl
  | some stored =>
    by_cases h : stored.same miss
    · exact .inr (if_pos h)
    · exact .inl (if_neg h)

/-- Somebody who does not hold the record that is stored changes nothing. -/
theorem forgetMiss_of_other {memo : Memo} {name : String} {miss : Shared Miss}
    (h : ∀ stored, memo.misses.get? name = some stored → stored.same miss = false) :
    memo.forgetMiss name miss = memo := by
  unfold forgetMiss
  cases hname : memo.misses.get? name with
  | none => rfl
  | some stored => exact if_neg (Bool.eq_false_iff.mp (h stored hname))

/-! ## The parts of a memory -/

/-- The tables of a memory, told apart by what they are about. -/
inductive Part where
  | names | units | misses | resources | lists

/-- The table that the answer to an operation is taken from. There is one for each operation. -/
def Operation.reads : Operation → Part
  | .intern _ => .names
  | .insertUnit _ _ | .defineUnit _ _ | .unit _ | .isBound _ | .unitCount => .units
  | .rememberMiss _ _ | .forgetMiss _ _ | .forgetMisses | .miss _ | .missCount => .misses
  | .rememberResource _ _ | .resource _ => .resources
  | .rememberList _ _ | .list _ => .lists

/-- Whether an operation may change a table. A clear may change three, everything else that writes
the one that its answer is taken from, and nothing but `intern` the names. -/
def Operation.writes : Operation → Part → Bool
  | .intern _, .names => true
  | .insertUnit _ _, .units | .defineUnit _ _, .units => true
  | .rememberMiss _ _, .misses | .forgetMiss _ _, .misses => true
  | .forgetMisses, .misses | .forgetMisses, .resources | .forgetMisses, .lists => true
  | .rememberResource _ _, .resources => true
  | .rememberList _ _, .lists => true
  | _, _ => false

/-- Both memories have the same in one table. What they have in the others does not matter. -/
def Agree : Part → Memo → Memo → Prop
  | .names, memo, other => memo.names = other.names
  | .units, memo, other => memo.units = other.units
  | .misses, memo, other => memo.misses = other.misses
  | .resources, memo, other => memo.resources = other.resources
  | .lists, memo, other => memo.lists = other.lists

theorem Agree.refl (part : Part) (memo : Memo) : Agree part memo memo := by
  cases part <;> rfl

theorem Agree.symm {part : Part} {memo other : Memo} (h : Agree part memo other) :
    Agree part other memo := by
  cases part <;> exact Eq.symm h

theorem Agree.trans {part : Part} {memo other third : Memo} (h : Agree part memo other)
    (h' : Agree part other third) : Agree part memo third := by
  cases part <;> exact Eq.trans h h'

/-- A table that an operation does not write is left as it is. That is all that the independence of
the tables rests on. -/
theorem next_leaves (part : Part) {one : Operation} (memo : Memo) (h : one.writes part = false) :
    Agree part (memo.next one) memo := by
  cases one with
  | defineUnit name unit =>
    show Agree part (memo.defineUnit name unit).2 memo
    cases hname : memo.units.get? name with
    | some held =>
      rw [defineUnit_of_bound unit hname]
      cases part <;> rfl
    | none =>
      rw [defineUnit_of_free unit hname]
      cases part <;> first | rfl | cases h
  | forgetMiss name miss =>
    show Agree part (memo.forgetMiss name miss) memo
    rcases forgetMiss_cases memo name miss with heq | heq
    · rw [heq]
      exact .refl part memo
    · rw [heq]
      cases part <;> first | rfl | cases h
  | _ => cases part <;> first | rfl | cases h

/-- A definition that fails binds nothing new, like an insertion that comes too late. -/
theorem units_defineUnit (memo : Memo) (name : String) (unit : Shared CodeUnit) :
    (memo.defineUnit name unit).2.units = memo.units.insertNew name unit := by
  cases hname : memo.units.get? name with
  | some held =>
    rw [defineUnit_of_bound unit hname, Table.insertNew_of_some unit hname]
  | none => rw [defineUnit_of_free unit hname, units_insertUnit]

/-- What an operation makes of a table depends on that table only. -/
theorem agree_next {part : Part} {memo other : Memo} (h : Agree part memo other)
    (one : Operation) : Agree part (memo.next one) (other.next one) := by
  by_cases hwrites : one.writes part = false
  · exact ((next_leaves part memo hwrites).trans h).trans (next_leaves part other hwrites).symm
  · -- What is left are the operations that write the table.
    cases part with
    | names =>
      cases one with
      | intern name => exact congrArg (fun names => names.insertNew name names.size) h
      | _ => exact absurd rfl hwrites
    | units =>
      cases one with
      | insertUnit name unit => exact congrArg (·.insertNew name unit) h
      | defineUnit name unit =>
        show (memo.defineUnit name unit).2.units = (other.defineUnit name unit).2.units
        rw [units_defineUnit, units_defineUnit]
        exact congrArg (·.insertNew name unit) h
      | _ => exact absurd rfl hwrites
    | misses =>
      have h : memo.misses = other.misses := h
      cases one with
      | rememberMiss name miss => exact congrArg (·.insertNew name miss) h
      | forgetMiss name miss =>
        show (memo.forgetMiss name miss).misses = (other.forgetMiss name miss).misses
        rw [misses_forgetMiss, misses_forgetMiss, h]
      | forgetMisses => rfl
      | _ => exact absurd rfl hwrites
    | resources =>
      cases one with
      | rememberResource name found => exact congrArg (·.insertNew name found) h
      | forgetMisses => exact congrArg (·.retain Option.isSome) h
      | _ => exact absurd rfl hwrites
    | lists =>
      cases one with
      | rememberList name found => exact congrArg (·.insertNew name found) h
      | forgetMisses => rfl
      | _ => exact absurd rfl hwrites

/-- What an operation answers depends on one table only, so it can be foretold from the operations
that write that table. -/
theorem answer_of_agree {one : Operation} {memo other : Memo} (h : Agree one.reads memo other) :
    (memo.step one).1 = (other.step one).1 := by
  obtain ⟨names, units, misses, resources, lists⟩ := memo
  obtain ⟨names', units', misses', resources', lists'⟩ := other
  cases one with
  | defineUnit name unit =>
    obtain rfl : units = units' := h
    simp only [step]
    cases hname : units.get? name with
    | some held => rw [defineUnit_of_bound unit hname, defineUnit_of_bound unit hname]; rfl
    | none => rw [defineUnit_of_free unit hname, defineUnit_of_free unit hname]; rfl
  | _ => obtain rfl := h; rfl

/-- Nothing that leaves the table of an answer alone has an influence on the answer. -/
theorem agree_filter (part : Part) (history : List Operation) :
    Agree part (ofHistory (history.filter (·.writes part))) (ofHistory history) := by
  induction history using List.reverseRecOn with
  | nil => exact .refl ..
  | append_singleton history one ih =>
    rw [List.filter_append, ofHistory_concat]
    cases hwrites : one.writes part with
    | true =>
      rw [List.filter_singleton, hwrites, cond_true, ofHistory_concat]
      exact agree_next ih one
    | false =>
      rw [List.filter_singleton, hwrites, cond_false, List.append_nil]
      exact ih.trans (next_leaves part _ hwrites).symm

/-! ## What an operation does to a slot -/

theorem units_next (name : String) (before : List Operation) (one : Operation) :
    ((ofHistory before).next one).units.get? name =
      ((ofHistory before).units.get? name).or (bindsUnit name before one) := by
  cases one with
  | insertUnit other unit => exact Table.get?_insertNew_or ..
  | defineUnit other unit =>
    unfold bindsUnit answerTo next
    simp only [step]
    cases hother : (ofHistory before).units.get? other with
    | some held =>
      rw [defineUnit_of_bound unit hother]
      exact (Option.or_none ..).symm
    | none =>
      rw [defineUnit_of_free unit hother]
      exact Table.get?_insertNew_or ..
  | _ =>
    refine .trans (congrArg (Table.get? · name) (next_leaves .units (ofHistory before) ?_))
      (Option.or_none ..).symm
    rfl

theorem misses_next {name : String} {before : List Operation} {one : Operation}
    (hone : ¬ TakesMiss name before one) :
    ((ofHistory before).next one).misses.get? name =
      ((ofHistory before).misses.get? name).or (offersMiss name one) := by
  cases one with
  | rememberMiss other miss => exact Table.get?_insertNew_or ..
  | forgetMisses => exact absurd .cleared hone
  | forgetMiss other miss =>
    show ((ofHistory before).forgetMiss other miss).misses.get? name =
      Option.or _ none
    rw [misses_forgetMiss, Option.or_none]
    by_cases hsame : ((ofHistory before).misses.get? other).any (·.same miss) = true
    · have hname : name ≠ other := by
        rintro rfl
        obtain ⟨stored, hstored, hsame⟩ := (Option.any_eq_true _ _).mp hsame
        exact hone (.forgotten (congrArg Answer.miss hstored) hsame)
      rw [if_pos hsame, Table.get?_erase, if_neg hname]
    · rw [if_neg hsame]
  | _ =>
    refine .trans (congrArg (Table.get? · name) (next_leaves .misses (ofHistory before) ?_))
      (Option.or_none ..).symm
    rfl

/-! ## One value a name -/

theorem misses_distinct (history : List Operation) : (ofHistory history).misses.Distinct := by
  refine ofHistory_induction (motive := fun memo => memo.misses.Distinct) history
    Table.distinct_empty fun memo one h => ?_
  cases one with
  | rememberMiss name miss => exact h.insertNew name miss
  | forgetMiss name miss =>
    show (memo.forgetMiss name miss).misses.Distinct
    rw [misses_forgetMiss]
    split
    · exact h.erase name
    · exact h
  | forgetMisses => exact Table.distinct_empty
  | _ =>
    refine (congrArg Table.Distinct (next_leaves .misses memo ?_)).mpr h
    rfl

theorem units_distinct (history : List Operation) : (ofHistory history).units.Distinct := by
  refine ofHistory_induction (motive := fun memo => memo.units.Distinct) history
    Table.distinct_empty fun memo one h => ?_
  cases one with
  | insertUnit name unit => exact h.insertNew name unit
  | defineUnit name unit =>
    show (memo.defineUnit name unit).2.units.Distinct
    rw [units_defineUnit]
    exact h.insertNew name unit
  | _ =>
    refine (congrArg Table.Distinct (next_leaves .units memo ?_)).mpr h
    rfl

theorem resources_distinct (history : List Operation) :
    (ofHistory history).resources.Distinct := by
  refine ofHistory_induction (motive := fun memo => memo.resources.Distinct) history
    Table.distinct_empty fun memo one h => ?_
  cases one with
  | rememberResource name found => exact h.insertNew name found
  | forgetMisses => exact h.retain Option.isSome
  | _ =>
    refine (congrArg Table.Distinct (next_leaves .resources memo ?_)).mpr h
    rfl

/-- A clear leaves a location, and it has nothing to take where nothing is. -/
theorem resources_next {name : String} {before : List Operation} {one : Operation}
    (hone : ¬ TakesResource name before one) :
    ((ofHistory before).next one).resources.get? name =
      ((ofHistory before).resources.get? name).or (offersResource name one) := by
  cases one with
  | rememberResource other found => exact Table.get?_insertNew_or ..
  | forgetMisses =>
    show ((ofHistory before).resources.retain Option.isSome).get? name = Option.or _ none
    rw [Table.get?_retain (resources_distinct before), Option.or_none]
    cases hheld : (ofHistory before).resources.get? name with
    | none => rfl
    | some held =>
      cases held with
      | none => exact absurd (.cleared (congrArg Answer.resource hheld)) hone
      | some place => rfl
  | _ =>
    refine .trans (congrArg (Table.get? · name) (next_leaves .resources (ofHistory before) ?_))
      (Option.or_none ..).symm
    rfl

theorem lists_next {name : String} {before : List Operation} {one : Operation}
    (hone : one ≠ .forgetMisses) :
    ((ofHistory before).next one).lists.get? name =
      ((ofHistory before).lists.get? name).or (offersList name one) := by
  cases one with
  | rememberList other found => exact Table.get?_insertNew_or ..
  | forgetMisses => exact absurd rfl hone
  | _ =>
    refine .trans (congrArg (Table.get? · name) (next_leaves .lists (ofHistory before) ?_))
      (Option.or_none ..).symm
    rfl

/-! ## The slots after a history -/

theorem units_of_history (name : String) (history : List Operation) :
    (ofHistory history).units.get? name = firstPut? (bindsUnit name) [] history := by
  induction history using List.reverseRecOn with
  | nil => rfl
  | append_singleton history one ih =>
    rw [ofHistory_concat, units_next, ih, firstPut?_concat, List.nil_append]

theorem misses_of_history (name : String) (history : List Operation) :
    HoldsFirst (fun _ => offersMiss name) (TakesMiss name) history
      ((ofHistory history).misses.get? name) := by
  suffices h : HoldsFirst (fun _ => offersMiss name) (TakesMiss name) history
      ((fun before => (ofHistory before).misses.get? name) history) from h
  apply holdsFirst_of_step
  · rfl
  · intro before one htakes
    rw [ofHistory_concat]
    cases htakes with
    | cleared => rfl
    | @forgotten miss stored hstored hsame =>
      show ((ofHistory before).forgetMiss name miss).misses.get? name = none
      have hheld : (ofHistory before).misses.get? name = some stored := Answer.miss.inj hstored
      rw [misses_forgetMiss, if_pos (by rw [hheld]; exact hsame), Table.get?_erase, if_pos rfl]
  · intro before one hone
    rw [ofHistory_concat, misses_next hone]

theorem resources_of_history (name : String) (history : List Operation) :
    HoldsFirst (fun _ => offersResource name) (TakesResource name) history
      ((ofHistory history).resources.get? name) := by
  suffices h : HoldsFirst (fun _ => offersResource name) (TakesResource name) history
      ((fun before => (ofHistory before).resources.get? name) history) from h
  apply holdsFirst_of_step
  · rfl
  · intro before one htakes
    rw [ofHistory_concat]
    cases htakes with
    | cleared hnowhere =>
      have hheld : (ofHistory before).resources.get? name = some none :=
        Answer.resource.inj hnowhere
      show ((ofHistory before).resources.retain Option.isSome).get? name = none
      rw [Table.get?_retain (resources_distinct before), hheld]
      rfl
  · intro before one hone
    rw [ofHistory_concat, resources_next hone]

theorem lists_of_history (name : String) (history : List Operation) :
    HoldsFirst (fun _ => offersList name) (fun _ one => one = .forgetMisses) history
      ((ofHistory history).lists.get? name) := by
  suffices h : HoldsFirst (fun _ => offersList name) (fun _ one => one = .forgetMisses) history
      ((fun before => (ofHistory before).lists.get? name) history) from h
  apply holdsFirst_of_step
  · rfl
  · intro before one hone
    rw [ofHistory_concat, hone]
    rfl
  · intro before one hone
    rw [ofHistory_concat, lists_next hone]

/-! ## Names -/

/-- Every name that is kept has a number below the count, and no other has the same. -/
structure Numbered (names : Table Nat) : Prop where
  lt_size : ∀ {name number}, names.get? name = some number → number < names.size
  injective : ∀ {name other number}, names.get? name = some number →
    names.get? other = some number → name = other

theorem numbered_intern {memo : Memo} (h : Numbered memo.names) (name : String) :
    Numbered (memo.intern name).names := by
  show Numbered (memo.names.insertNew name memo.names.size)
  cases hname : memo.names.get? name with
  | some number => rwa [Table.insertNew_of_some _ hname]
  | none =>
    have hslot (other : String) : (memo.names.insertNew name memo.names.size).get? other =
        if other = name then some memo.names.size else memo.names.get? other := by
      rw [Table.get?_insertNew, Table.kept_of_none _ hname]
    have hsize : (memo.names.insertNew name memo.names.size).size = memo.names.size + 1 := by
      rw [Table.insertNew, hname]
      rfl
    constructor
    · intro other number hother
      rw [hslot] at hother
      rw [hsize]
      split at hother
      · obtain rfl := Option.some.inj hother
        exact Nat.lt_succ_self _
      · exact Nat.lt_succ_of_lt (h.lt_size hother)
    · intro first second number hfirst hsecond
      rw [hslot] at hfirst hsecond
      split at hfirst <;> split at hsecond
      · next hfirst' hsecond' => exact hfirst'.trans hsecond'.symm
      · -- The new number is above all others.
        obtain rfl := Option.some.inj hfirst
        exact absurd (h.lt_size hsecond) (Nat.lt_irrefl _)
      · obtain rfl := Option.some.inj hsecond
        exact absurd (h.lt_size hfirst) (Nat.lt_irrefl _)
      · exact h.injective hfirst hsecond

/-- Only `intern` keeps a name. No unit and no miss brings a name along. -/
theorem names_next (memo : Memo) (one : Operation) :
    (memo.next one).names = memo.names ∨ ∃ name, memo.next one = memo.intern name := by
  cases one with
  | intern name => exact .inr ⟨name, rfl⟩
  | _ =>
    refine .inl (next_leaves .names memo ?_)
    rfl

theorem numbered_of_history (history : List Operation) : Numbered (ofHistory history).names := by
  refine ofHistory_induction (motive := fun memo => Numbered memo.names) history ?_ ?_
  · exact ⟨nofun, nofun⟩
  · intro memo one h
    rcases names_next memo one with hsame | ⟨name, hname⟩
    · rwa [hsame]
    · rw [hname]
      exact numbered_intern h name

/-- A number that was given is not taken back, not even by a clear. -/
theorem number_lasts {name : String} {number : Nat} {history : List Operation}
    (h : (ofHistory history).names.get? name = some number) (more : List Operation) :
    (ofHistory (history ++ more)).names.get? name = some number := by
  induction more using List.reverseRecOn with
  | nil => rwa [List.append_nil]
  | append_singleton more one ih =>
    rw [← List.append_assoc, ofHistory_concat]
    rcases names_next (ofHistory (history ++ more)) one with hsame | ⟨other, hother⟩
    · rwa [hsame]
    · rw [hother]
      exact Table.get?_insertNew_of_some _ ih

/-- Two names are kept under one number only if they are equal, whatever happens in between. -/
theorem number_eq_iff (history more : List Operation) (name other : String) :
    (ofHistory history).nameNumber name =
      (ofHistory (history ++ .intern name :: more)).nameNumber other ↔ name = other := by
  have hkept : (ofHistory (history ++ [.intern name])).names.get? name =
      some ((ofHistory history).nameNumber name) := by
    rw [ofHistory_concat]
    exact Table.get?_insertNew_self ..
  have hlasts := number_lasts hkept more
  rw [List.append_assoc, List.singleton_append] at hlasts
  have hnumbered := numbered_of_history (history ++ .intern name :: more)
  generalize ofHistory (history ++ .intern name :: more) = later at hlasts hnumbered ⊢
  constructor
  · intro hsame
    cases hother : later.names.get? other with
    | none =>
      -- A name that is new gets a number above all others.
      have hlt := hnumbered.lt_size hlasts
      rw [hsame, nameNumber, Table.kept_of_none _ hother] at hlt
      exact absurd hlt (Nat.lt_irrefl _)
    | some number =>
      rw [nameNumber, nameNumber, Table.kept_of_some _ hother] at hsame
      exact hnumbered.injective hlasts (hother.trans (congrArg some hsame.symm))
  · rintro rfl
    exact (Table.kept_of_some _ hlasts).symm

/-! ## Answers -/

/-- What a memory answers after a history, told from the operations of the history and from nothing
else. -/
structure ByHistory (history : List Operation) : Prop where
  /-- The unit of a name is the first that was bound. -/
  unit (name : String) : answerTo history (.unit name) =
    .unit (firstPut? (bindsUnit name) [] history)
  isBound (name : String) : answerTo history (.isBound name) =
    .flag (firstPut? (bindsUnit name) [] history).isSome
  /-- A definition succeeds exactly if no unit was bound. -/
  defineUnit (name : String) (unit : Shared CodeUnit) :
    answerTo history (.defineUnit name unit) = .defined
      (if firstPut? (bindsUnit name) [] history = none then .ok unit
        else .error (.duplicateDefinition name))
  /-- The record of a name is the first since the last one was taken. -/
  miss (name : String) : ∃ held, answerTo history (.miss name) = .miss held ∧
    HoldsFirst (fun _ => offersMiss name) (TakesMiss name) history held
  /-- Whoever does not hold the record that is stored changes nothing. -/
  forgetMiss (name : String) (miss : Shared Miss)
    (hother : ∀ stored, answerTo history (.miss name) = .miss (some stored) →
      stored.same miss = false) :
    ofHistory (history ++ [.forgetMiss name miss]) = ofHistory history
  /-- The outcome for a resource is the first since a clear took one that was no location. -/
  resource (name : String) : ∃ held, answerTo history (.resource name) = .resource held ∧
    HoldsFirst (fun _ => offersResource name) (TakesResource name) history held
  /-- The list for a resource is the first since the last clear. -/
  list (name : String) : ∃ held, answerTo history (.list name) = .list held ∧
    HoldsFirst (fun _ => offersList name) (fun _ one => one = .forgetMisses) history held
  /-- Who writes is answered what is stored then. -/
  insertUnit (name : String) (unit : Shared CodeUnit) :
    answerTo history (.insertUnit name unit) =
      answerTo (history ++ [.insertUnit name unit]) (.unit name)
  defined (name : String) (unit kept : Shared CodeUnit)
    (hkept : answerTo history (.defineUnit name unit) = .defined (.ok kept)) :
    answerTo (history ++ [.defineUnit name unit]) (.unit name) = .unit (some kept)
  rememberMiss (name : String) (miss : Shared Miss) :
    answerTo history (.rememberMiss name miss) =
      answerTo (history ++ [.rememberMiss name miss]) (.miss name)
  rememberResource (name : String) (found : Option Location) :
    answerTo history (.rememberResource name found) =
      answerTo (history ++ [.rememberResource name found]) (.resource name)
  rememberList (name : String) (found : List Location) :
    answerTo history (.rememberList name found) =
      answerTo (history ++ [.rememberList name found]) (.list name)
  /-- A clear answers how many names have a record, and it is asked for in the same way. -/
  missCount : ∃ names : Finset String,
    (∀ name, name ∈ names ↔ ∃ stored, answerTo history (.miss name) = .miss (some stored)) ∧
    answerTo history .forgetMisses = .number names.card ∧
    answerTo history .missCount = .number names.card
  unitCount : ∃ names : Finset String,
    (∀ name, name ∈ names ↔ ∃ held, answerTo history (.unit name) = .unit (some held)) ∧
    answerTo history .unitCount = .number names.card
  /-- Only what writes the table of an answer has an influence on the answer. -/
  parts (one : Operation) :
    answerTo (history.filter (·.writes one.reads)) one = answerTo history one
  /-- Two names are kept as one only if they are equal. -/
  intern (name other : String) (more : List Operation) :
    answerTo history (.intern name) =
      answerTo (history ++ .intern name :: more) (.intern other) ↔ name = other

theorem answerTo_concat (history : List Operation) (one other : Operation) :
    answerTo (history ++ [one]) other = (((ofHistory history).next one).step other).1 := by
  rw [answerTo, ofHistory_concat]

/-- After every history, a memory answers as the history says. The induction is on the history, at
its end, table by table. -/
theorem answers_by_history (history : List Operation) : ByHistory history where
  unit name := congrArg Answer.unit (units_of_history name history)
  isBound name := by
    rw [← units_of_history]
    rfl
  defineUnit name unit := by
    rw [← units_of_history]
    show Answer.defined ((ofHistory history).defineUnit name unit).1 = _
    cases hname : (ofHistory history).units.get? name with
    | none => rw [defineUnit_of_free unit hname, if_pos rfl]
    | some held => rw [defineUnit_of_bound unit hname, if_neg (Option.some_ne_none held)]
  miss name := ⟨_, rfl, misses_of_history name history⟩
  forgetMiss name miss hother := by
    rw [ofHistory_concat]
    exact forgetMiss_of_other fun stored hstored => hother stored (congrArg Answer.miss hstored)
  resource name := ⟨_, rfl, resources_of_history name history⟩
  list name := ⟨_, rfl, lists_of_history name history⟩
  insertUnit name unit := by
    rw [answerTo_concat]
    exact congrArg Answer.unit (Table.get?_insertNew_self ..).symm
  defined name unit kept hkept := by
    rw [answerTo_concat]
    have hkept : ((ofHistory history).defineUnit name unit).1 = .ok kept := Answer.defined.inj hkept
    show Answer.unit (((ofHistory history).defineUnit name unit).2.units.get? name) = _
    cases hname : (ofHistory history).units.get? name with
    | none =>
      -- What was free is bound to the new unit, and what was bound already is an error.
      rw [defineUnit_of_free unit hname] at hkept
      obtain rfl := Except.ok.inj hkept
      rw [units_defineUnit, Table.get?_insertNew_self, Table.kept_of_none _ hname]
    | some held =>
      rw [defineUnit_of_bound unit hname] at hkept
      cases hkept
  rememberMiss name miss := by
    rw [answerTo_concat]
    exact congrArg Answer.miss (Table.get?_insertNew_self ..).symm
  rememberResource name found := by
    rw [answerTo_concat]
    exact congrArg Answer.resource (Table.get?_insertNew_self ..).symm
  rememberList name found := by
    rw [answerTo_concat]
    exact congrArg Answer.list (Table.get?_insertNew_self ..).symm
  -- No name is stored twice, so the length of the table is the number of names.
  missCount := by
    obtain ⟨names, hmem, hcard⟩ := (misses_distinct history).size_eq
    have hcount : (ofHistory history).missCount = names.card := hcard
    refine ⟨names, ?_, congrArg Answer.number hcount, congrArg Answer.number hcount⟩
    intro name
    rw [hmem, Option.isSome_iff_exists]
    exact exists_congr fun stored => ⟨congrArg Answer.miss, Answer.miss.inj⟩
  unitCount := by
    obtain ⟨names, hmem, hcard⟩ := (units_distinct history).size_eq
    refine ⟨names, ?_, congrArg Answer.number hcard⟩
    intro name
    rw [hmem, Option.isSome_iff_exists]
    exact exists_congr fun held => ⟨congrArg Answer.unit, Answer.unit.inj⟩
  -- An answer reads some of the tables only, and these are what the operations on them have made.
  parts one := answer_of_agree (agree_filter one.reads history)
  intern name other more := by
    rw [← number_eq_iff history more]
    exact ⟨Answer.number.inj, congrArg Answer.number⟩

end Memo

end LayeredUnits
