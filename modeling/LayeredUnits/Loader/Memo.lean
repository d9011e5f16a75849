import LayeredUnits.Fault
import LayeredUnits.Location
import LayeredUnits.Table
import LayeredUnits.Unit.Basic

/-!
# What a loader remembers

Five tables: names, units, misses of units, first locations of resources, and
lists of their locations. Whatever is written first under a name stays. Units
stay for good; a clear takes the misses of units, the locations that say that
there is none, and all lists. A miss may also be taken out one by one, but
only by somebody who holds the very record that is stored.

Each operation writes one table, a clear excepted. In particular nothing but
`intern` keeps names: whoever binds a unit or remembers a miss brings a name
that he has had kept, or one that the sources have kept since registration.
-/

namespace LayeredUnits

/-- Remembered outcomes, each table under the names that were asked for. A table may say of a name
that there is nothing; that is something else than saying nothing of it. -/
structure Memo where
  /-- The names that are kept, numbered in the order in which they came. -/
  names : Table Nat := .empty
  units : Table (Shared CodeUnit) := .empty
  misses : Table (Shared Miss) := .empty
  /-- The first location of a resource, or that there is none. -/
  resources : Table (Option Location) := .empty
  lists : Table (List Location) := .empty

namespace Memo

/-- Keeps a name. The number of a name stands for its one shared text: asked for again, a name has
the number that it was given first. -/
def intern (memo : Memo) (name : String) : Memo :=
  { memo with names := memo.names.insertNew name memo.names.size }

/-- The number that a name has after `intern`, be it an old one or the next that is free. -/
def nameNumber (memo : Memo) (name : String) : Nat := memo.names.kept name memo.names.size

/-- Binds a unit to a name, unless one is bound. Of two loads that race to bind a name the second
comes to nothing here, and takes what `boundUnit` says for its own. -/
def insertUnit (memo : Memo) (name : String) (unit : Shared CodeUnit) : Memo :=
  { memo with units := memo.units.insertNew name unit }

/-- The unit that a name is bound to after `insertUnit`: its own, or the one that was quicker. -/
def boundUnit (memo : Memo) (name : String) (unit : Shared CodeUnit) : Shared CodeUnit :=
  memo.units.kept name unit

/-- Binds a unit to a name that is not bound. On a bound name it fails and changes nothing, other
than `insertUnit`, which is silent about it. -/
def defineUnit (memo : Memo) (name : String) (unit : Shared CodeUnit) :
    Except Fault (Shared CodeUnit) × Memo :=
  if memo.units.contains name then (.error (.duplicateDefinition name), memo)
  else (.ok unit, memo.insertUnit name unit)

/-- Remembers a miss, unless one is remembered: all who miss a name share one record of it. -/
def rememberMiss (memo : Memo) (name : String) (miss : Shared Miss) : Memo :=
  { memo with misses := memo.misses.insertNew name miss }

/-- The miss that is stored after `rememberMiss`. This is the record that the one who missed the
name is to show. -/
def keptMiss (memo : Memo) (name : String) (miss : Shared Miss) : Shared Miss :=
  memo.misses.kept name miss

/-- Takes a miss out if it is the one that is stored. Somebody who holds an older record of the name
must not take out one that was made since. -/
def forgetMiss (memo : Memo) (name : String) (miss : Shared Miss) : Memo :=
  match memo.misses.get? name with
  | some stored => if stored.same miss then { memo with misses := memo.misses.erase name } else memo
  | none => memo

/-- How many misses of units are remembered. Resources that are nowhere are not among them. -/
def missCount (memo : Memo) : Nat := memo.misses.size

/-- Takes out everything that says that something is not there, and all lists, since any list can be
too short. Units and locations that were found stay. -/
def forgetMisses (memo : Memo) : Memo :=
  { memo with
    misses := .empty
    resources := memo.resources.retain Option.isSome
    lists := .empty }

/-- Remembers the first location of a resource, or that there is none, unless an outcome is
remembered. A stored absence is an outcome as well. -/
def rememberResource (memo : Memo) (name : String) (found : Option Location) : Memo :=
  { memo with resources := memo.resources.insertNew name found }

/-- Remembers the locations of a resource, unless a list is remembered. The empty list is remembered
like any other. -/
def rememberList (memo : Memo) (name : String) (found : List Location) : Memo :=
  { memo with lists := memo.lists.insertNew name found }

/-! ## What a write leaves alone -/

@[simp] theorem units_intern (memo : Memo) (name : String) :
    (memo.intern name).units = memo.units := rfl

@[simp] theorem misses_intern (memo : Memo) (name : String) :
    (memo.intern name).misses = memo.misses := rfl

@[simp] theorem units_insertUnit (memo : Memo) (name : String) (unit : Shared CodeUnit) :
    (memo.insertUnit name unit).units = memo.units.insertNew name unit := rfl

@[simp] theorem misses_insertUnit (memo : Memo) (name : String) (unit : Shared CodeUnit) :
    (memo.insertUnit name unit).misses = memo.misses := rfl

@[simp] theorem units_rememberMiss (memo : Memo) (name : String) (miss : Shared Miss) :
    (memo.rememberMiss name miss).units = memo.units := rfl

@[simp] theorem misses_rememberMiss (memo : Memo) (name : String) (miss : Shared Miss) :
    (memo.rememberMiss name miss).misses = memo.misses.insertNew name miss := rfl

@[simp] theorem units_forgetMisses (memo : Memo) : memo.forgetMisses.units = memo.units := rfl

@[simp] theorem misses_forgetMisses (memo : Memo) : memo.forgetMisses.misses = .empty := rfl

/-- Somebody who holds another record takes nothing out. -/
theorem misses_forgetMiss (memo : Memo) (name : String) (miss : Shared Miss) :
    (memo.forgetMiss name miss).misses =
      if (memo.misses.get? name).any (·.same miss) then memo.misses.erase name
      else memo.misses := by
  unfold forgetMiss
  cases memo.misses.get? name with
  | none => rfl
  | some stored => cases h : stored.same miss <;> simp [h]

end Memo

end LayeredUnits
