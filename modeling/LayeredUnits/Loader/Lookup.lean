import LayeredUnits.Loader.Basic

/-!
# Looking units up

A unit is looked up among the bound ones, among the remembered misses, at the
host, in the directories and in the archives, in this order. The host comes in
the middle and may use the loader itself before it answers, so a lookup has
two parts. `beginLookup` either answers from what is remembered or gives a
ticket for the host; `finishLookup` takes the ticket and the host's answer to
the loader as it is then.

A copy of a unit that cannot be read is passed over. A lookup that fails is
remembered only if that is allowed for its name and no clear came since the
ticket was given.
-/

namespace LayeredUnits

/-- A lookup that waits for the host. It holds what the lookup has seen at its beginning: from here
on it does not look at the sources of the loader again. -/
structure Ticket where
  name : String
  /-- How many clears there had been. -/
  generation : Nat
  /-- The sources as they were. -/
  sources : Sources

/-- How a lookup begins: it is over at once, or it has to wait for the host. -/
inductive Beginning where
  | answered (result : Except Fault (Shared CodeUnit))
  /-- The host has to be asked. -/
  | waiting (ticket : Ticket)

namespace Loader

/-- Begins a lookup. Bound units come before misses, and with either of them the lookup is over: the
host is asked about the other names only. -/
def beginLookup (loader : Loader) (name : String) : Turn Beginning :=
  match loader.memo.units.get? name with
  | some unit =>
    { reply := .answered (.ok unit)
      loader := loader.count fun c => { c with cacheHits := c.cacheHits + 1 }
      events := [.unitRecalled name] }
  | none =>
    match if loader.options.remembersMisses then loader.memo.misses.get? name else none with
    | some miss =>
      { reply := .answered (.error (.unitNotFound miss))
        loader := loader.count fun c => { c with negativeHits := c.negativeHits + 1 }
        events := [.missRecalled name] }
    | none =>
      { reply := .waiting ⟨name, loader.generation, loader.sources⟩
        loader := loader.count fun c => { c with hostLookups := c.hostLookups + 1 } }

/-- What the manifest of an archive says. It is read the first time that this is asked, and what was
read then, or that it could not be read, holds for good. -/
def package (loader : Loader) (volume : Volume) (number : Nat) (archive : Archive) :
    Turn Package :=
  match loader.packages.lookup number with
  | some package => { reply := package, loader := loader }
  | none =>
    let (package, events) := archive.package volume
    { reply := package
      loader := { loader with packages := (number, package) :: loader.packages }
      events := events }

/-- The domain of an archive. There is one for each origin, made from the manifest of the first
archive of that origin that is asked, whichever archive a unit itself comes from. -/
def domainOf (loader : Loader) (volume : Volume) (number : Nat) (archive : Archive) :
    Turn (Shared Domain) :=
  match loader.domains.get? archive.origin with
  | some domain => { reply := domain, loader := loader }
  | none =>
    let ⟨package, loader, events⟩ := loader.package volume number archive
    let domain : Shared Domain := ⟨loader.nextToken, Domain.archive archive.origin package⟩
    { reply := domain
      loader :=
        { loader.issue with domains := loader.domains.insertNew archive.origin domain }
      events := events }

/-- The domain of the units at a place. All directories of a loader share its home domain. -/
def domainAt (loader : Loader) (volume : Volume) : Place → Turn (Shared Domain)
  | .file .. => { reply := loader.home, loader := loader }
  | .entry number archive _ => loader.domainOf volume number archive

/-- Defines a unit from bytes that were read, under the name that the index of the sources holds. If
the name has been bound in the meantime, the bound unit is the reply and the new one is dropped. -/
def define (loader : Loader) (volume : Volume) (name : String) (bytes : ByteArray)
    (place : Place) : Turn (Shared CodeUnit) :=
  let ⟨domain, loader, events⟩ := loader.domainAt volume place
  let defined : Shared CodeUnit := ⟨loader.nextToken, ⟨name, bytes, place.origin, domain⟩⟩
  let loader := loader.issue.count fun c => { c with definitions := c.definitions + 1 }
  let kept := loader.memo.boundUnit name defined
  { reply := kept
    loader := { loader with memo := loader.memo.insertUnit name defined }
    events :=
      if kept.same defined then events else events ++ [.definitionLost kept.value.name] }

/-- Tries the places of a unit one after the other. A copy that cannot be read is told of and passed
over: a bad copy in one source must not hide a good one in another. -/
def tryPlaces (loader : Loader) (volume : Volume) (name : String) :
    List Place → Turn (Option (Shared CodeUnit))
  | [] => { reply := none, loader := loader }
  | place :: rest =>
    let loader := loader.count fun c => { c with byteReads := c.byteReads + 1 }
    match place.read volume loader.options.maxUnitSize with
    | .ok bytes =>
      let ⟨unit, loader, events⟩ := loader.define volume name bytes place
      { reply := some unit, loader := loader, events := events }
    | .error fault =>
      let ⟨reply, loader, events⟩ := tryPlaces loader volume name rest
      { reply := reply
        loader := loader
        events := .copySkipped place.text name fault :: events }

/-- The record of a lookup that found nothing in these sources. It counts all of them, also those
that do not list the name. -/
def missOf (name : String) (sources : Sources) : Miss :=
  ⟨name, .sources sources.directories.length sources.archives.length⟩

/-- Whether the failure of this lookup may be remembered now. A ticket of an older generation was
given before a clear, and what it has not found may have come since. -/
def mayRemember (loader : Loader) (ticket : Ticket) : Bool :=
  loader.options.remembersMisses && loader.options.probes.remembersMiss ticket.name &&
    loader.generation == ticket.generation

/-- Makes the record of a lookup that failed, and remembers it if that is allowed. A record that is
remembered already stays and is the reply, so that all who miss a name hold one record. -/
def recordMiss (loader : Loader) (ticket : Ticket) : Turn (Shared Miss) :=
  let miss : Shared Miss := ⟨loader.nextToken, missOf ticket.name ticket.sources⟩
  let loader := loader.issue
  if loader.mayRemember ticket then
    { reply := loader.memo.keptMiss ticket.name miss
      loader :=
        { loader with memo := (loader.memo.intern ticket.name).rememberMiss ticket.name miss }
      events := [.unitMissed ticket.name] }
  else { reply := miss, loader := loader, events := [.unitMissed ticket.name] }

/-- Finishes a lookup with what the host answered. The host comes first; the sources are searched
only if it has no such unit, and they are those of the ticket. -/
def finishLookup (loader : Loader) (volume : Volume) (ticket : Ticket) :
    Option (Shared CodeUnit) → Turn (Except Fault (Shared CodeUnit))
  | some unit =>
    { reply := .ok (loader.memo.boundUnit ticket.name unit)
      loader :=
        { loader with memo := (loader.memo.intern ticket.name).insertUnit ticket.name unit } }
  | none =>
    let loader := loader.count fun c => { c with localSearches := c.localSearches + 1 }
    let ⟨found, loader, events⟩ :=
      loader.tryPlaces volume ticket.name (ticket.sources.places ticket.name)
    match found with
    | some unit => { reply := .ok unit, loader := loader, events := events }
    | none =>
      let ⟨miss, loader, more⟩ := loader.recordMiss ticket
      { reply := .error (.unitNotFound miss), loader := loader, events := events ++ more }

end Loader

end LayeredUnits
