import LayeredUnits.Unit.Name

/-!
# Speculative names

Dynamic front ends ask for names that can hardly exist: synthetic helpers
(`Foo$1`) and conventional companions (`FooBeanInfo`). Each is asked for about
once, so remembering the outcome would only fill the memory of the loader.
`Probes` lists the patterns of such names; they are looked up like any other
name, but nothing about them is remembered.
-/

namespace LayeredUnits

/-- Patterns of names whose lookups are never remembered. They are plain texts that are looked for
in a name, with no wildcards; an empty text therefore fits every name. -/
structure Probes where
  /-- Pieces that mark a synthetic unit name wherever they occur. -/
  unitMarkers : List String
  /-- Endings of companion unit names. -/
  unitSuffixes : List String
  /-- Endings of resource names that are asked for but rarely present. -/
  resourceSuffixes : List String
deriving DecidableEq, Repr

namespace Probes

/-- The patterns in force unless options say otherwise. The bytes of units count as rarely present
among the resources: a loader reads them by another way. -/
def standard : Probes :=
  { unitMarkers := ["$"]
    unitSuffixes := ["BeanInfo", "Customizer"]
    resourceSuffixes := [defaultUnitSuffix] }

/-- No pattern at all: every outcome may be remembered. -/
def none : Probes := ⟨[], [], []⟩

/-- Whether a failed lookup of this unit name may be remembered. A lookup that succeeds is
remembered in any case. -/
def remembersMiss (probes : Probes) (name : String) : Bool :=
  !(probes.unitMarkers.any fun marker => Text.contains marker name) &&
  !(probes.unitSuffixes.any fun suffix => Text.endsWith suffix name)

/-- Whether any outcome for this resource name may be remembered, be it a location, a list or an
absence. -/
def remembersResource (probes : Probes) (name : String) : Bool :=
  !(probes.resourceSuffixes.any fun suffix => Text.endsWith suffix name)

end Probes

end LayeredUnits
