import LayeredUnits.Event
import LayeredUnits.Loader.Counters
import LayeredUnits.Loader.Memo
import LayeredUnits.Loader.Sources
import LayeredUnits.Settings.Basic

/-!
# Loaders

The state of a loader, and the ways in which all its operations change it. An
operation takes a loader and gives back a `Turn`: the reply, the loader
afterwards, and what happened on the way.

`generation` counts the clears. A lookup that fails may be remembered only if
no clear came between its beginning and its end.
-/

namespace LayeredUnits

/-- A loader: what it was told to do, what it remembers, and what has been registered with it. Its
host is not part of it, because a loader knows of its host only what it is answered. -/
structure Loader where
  /-- The number under which the loader makes instances. -/
  tag : Nat
  /-- How many instances it has made. -/
  issued : Nat := 0
  options : Options := {}
  memo : Memo := {}
  sources : Sources := {}
  /-- The domain of all units from directories. -/
  home : Shared Domain
  /-- The domains of archives by origin. -/
  domains : Table (Shared Domain) := .empty
  /-- What manifests say, by the numbers of the archives that were asked. -/
  packages : List (Nat × Package) := []
  counters : Counters := {}
  generation : Nat := 0

/-- What an operation of a loader comes to. Operations are functions, so an operation that fails
still says what has become of the loader. -/
structure Turn (α : Type) where
  reply : α
  loader : Loader
  events : List Event := []

namespace Loader

/-- A loader without sources. Its home domain is the first instance that it makes, and what it
remembers may have been filled before by somebody else. -/
def create (tag : Nat) (options : Options) (memo : Memo) : Loader :=
  { tag := tag
    issued := 1
    options := options
    memo := memo
    home := ⟨⟨tag, 0⟩, Domain.default⟩ }

/-- The identity of the next instance. Every instance uses up one, also a record of a miss that
nobody keeps. -/
def nextToken (loader : Loader) : Token := ⟨loader.tag, loader.issued⟩

/-- The loader after it has made one more instance. Nothing else changes, so instances can be told
apart however they were made. -/
def issue (loader : Loader) : Loader := { loader with issued := loader.issued + 1 }

/-- Counts one more of something. A change to the counters is no change to anything that a lookup
depends on. -/
def count (loader : Loader) (change : Counters → Counters) : Loader :=
  { loader with counters := change loader.counters }

/-- Whether a name is bound to a unit. A bound name is never bound again, and a source that is
registered later does not get it. -/
def isBound (loader : Loader) (name : String) : Bool := loader.memo.units.contains name

/-- Whether some registered source provides a unit of this name, as the index has it. The copy
itself is not looked at. -/
def isIndexed (loader : Loader) (name : String) : Bool := loader.sources.provides name

/-- How many names are bound to units, from whatever place the units came. -/
def unitCount (loader : Loader) : Nat := loader.memo.units.size

/-- How many misses of units are remembered now. A clear tells this number of what it forgets. -/
def missCount (loader : Loader) : Nat := loader.memo.missCount

/-- What is told about the registered sources, in the order of registration. The numbers are those
of the moment of registration, and are not brought up to date. -/
def summaries (loader : Loader) : List SourceSummary := loader.sources.summaries

/-- Binds a unit directly. Fails if its name is bound already, and even then has had the name kept.
No source and no host is asked. -/
def preload (loader : Loader) (unit : Shared CodeUnit) : Turn (Except Fault (Shared CodeUnit)) :=
  let (reply, memo) := (loader.memo.intern unit.value.name).defineUnit unit.value.name unit
  { reply := reply, loader := { loader with memo := memo } }

theorem preload_eq_of_bound {loader : Loader} {unit : Shared CodeUnit}
    (h : loader.isBound unit.value.name = true) :
    loader.preload unit =
      { reply := .error (.duplicateDefinition unit.value.name)
        loader := { loader with memo := loader.memo.intern unit.value.name } } := by
  unfold isBound at h
  simp [preload, Memo.defineUnit, h]

theorem preload_eq_of_free {loader : Loader} {unit : Shared CodeUnit}
    (h : loader.isBound unit.value.name = false) :
    loader.preload unit =
      { reply := .ok unit
        loader :=
          { loader with
            memo := (loader.memo.intern unit.value.name).insertUnit unit.value.name unit } } := by
  unfold isBound at h
  simp [preload, Memo.defineUnit, h]

/-- Forgets every remembered miss, so that the next lookups search again. The generation goes up in
the same step, so that a lookup that is on its way cannot bring back what was forgotten. -/
def forgetMisses (loader : Loader) : Turn Unit :=
  { reply := ()
    loader :=
      { loader with generation := loader.generation + 1, memo := loader.memo.forgetMisses }
    events := [.missesCleared loader.missCount] }

end Loader

end LayeredUnits
