/-!
# Counters

How often a loader took each way. The numbers never go down.
-/

namespace LayeredUnits

/-- Running counts of a loader. Each is raised at a point of its own on the way of a lookup, so
while a lookup waits for the host some of its counts are there and others are not yet. -/
structure Counters where
  /-- Lookups answered by a bound unit. -/
  cacheHits : Nat := 0
  /-- Lookups answered by a remembered miss. -/
  negativeHits : Nat := 0
  /-- Lookups passed on to the host. -/
  hostLookups : Nat := 0
  /-- Lookups that searched the registered sources. -/
  localSearches : Nat := 0
  /-- Reads of the bytes of a unit that were tried. -/
  byteReads : Nat := 0
  /-- Units defined from the bytes of a source. -/
  definitions : Nat := 0
deriving DecidableEq, Repr

end LayeredUnits
