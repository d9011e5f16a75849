import Mathlib
import LayeredUnits.Proofs.Opening

/-!
# What a loader learns

A loader remembers what its lookups have come to, so what a later lookup comes
to could depend on what was looked up before. Over a volume that stays as it is
it does not, and so there is one row for each name, which every lookup of the
name tells.

* `Resolves`, `firstCopy?_candidates` — what sources have under a name.
* `Command.rowAmong`, `Command.Row.Tells` — the row for a name, and what a
  lookup that it tells has come to.
* `Loader.IsFaithful` — what the loader has learned is what the sources have.
  A lookup tells the row and keeps this (`IsFaithful.resolve`).
* `Loader.IsStocked.isFaithful` — so it is at first.
-/

namespace LayeredUnits

/-! ## What the sources have -/

/-- What a unit at a place has for a domain, put together from the files alone. Which instance it is
only a loader can say. -/
def Place.domain (volume : Volume) : Place → Domain
  | .file .. => .default
  | .entry _ archive _ => .archive archive.origin (archive.package volume).1

/-- The unit without the identity of its domain. This is as much of a unit as a report shows. -/
def CodeUnit.bare (unit : CodeUnit) : CodeUnit := { unit with domain := unit.domain.bare }

/-- The unit with these bytes at a place, but for the identity of its domain. -/
def Place.unit (place : Place) (volume : Volume) (name : String) (bytes : ByteArray) : CodeUnit :=
  ⟨name, bytes, place.origin, ⟨⟨0, 0⟩, place.domain volume⟩⟩

/-- The sources resolve the name to these bytes at this place: the file of the directory candidate
or, if there is none that can be read, the entry of the archive candidate. -/
def Resolves (volume : Volume) (limit : Nat) (sources : List Source) (name : String)
    (place : Place) (bytes : ByteArray) : Prop :=
  place.read volume limit = .ok bytes ∧
    (IsDirectoryCandidate sources name place ∨
      IsArchiveCandidate sources name place ∧ ∀ file, IsDirectoryCandidate sources name file →
        ∃ fault, file.read volume limit = .error fault)

/-- The sources resolve the name: there is a place that the name resolves to, and it can be read. -/
def IsResolved (volume : Volume) (limit : Nat) (sources : List Source) (name : String) : Prop :=
  ∃ place bytes, Resolves volume limit sources name place bytes

/-- The places of a unit in the order in which they are tried, put together from the list of the
sources. -/
def candidates (sources : List Source) (name : String) : List Place :=
  (sources.findSome? (Source.inDirectory? name)).toList ++
    ((sources.find? (·.lists name)).bind (Source.inArchive? name)).toList

/-- The unit at a place, if it can be read, with the name under which the index has it. -/
def Place.copy? (volume : Volume) (limit : Nat) (name : String) (place : Place) : Option CodeUnit :=
  (place.read volume limit).toOption.map (place.unit volume name)

/-- The unit of the first place that can be read. Places before it make no difference to
the unit. -/
def firstCopy? (volume : Volume) (limit : Nat) (name : String) (places : List Place) :
    Option CodeUnit :=
  places.findSome? (Place.copy? volume limit name)

/-- The record of a lookup in vain among these sources, which counts directories and archives. -/
def missAmong (sources : List Source) (name : String) : Miss :=
  ⟨name, .sources (sources.filterMap Source.directory?).length
    (sources.filterMap Source.archive?).length⟩

section

variable {volume : Volume} {limit : Nat} {sources : List Source} {name : String}

theorem Place.copy?_eq_some_iff {place : Place} {unit : CodeUnit} :
    place.copy? volume limit name = some unit ↔
      ∃ bytes, place.read volume limit = .ok bytes ∧ place.unit volume name bytes = unit := by
  unfold copy?
  cases place.read volume limit <;> simp [Except.toOption]

theorem Place.copy?_eq_none_iff {place : Place} :
    place.copy? volume limit name = none ↔ ∃ fault, place.read volume limit = .error fault := by
  unfold copy?
  cases place.read volume limit <;> simp [Except.toOption]

theorem firstCopy?_of_unreadable {places : List Place} (name : String)
    (h : Loader.Unreadable volume limit places) : firstCopy? volume limit name places = none := by
  unfold firstCopy?
  rw [List.findSome?_eq_none_iff]
  exact fun place hplace => Place.copy?_eq_none_iff.mpr (h place hplace)

theorem firstCopy?_of_first {failed : List Place} {place : Place} {bytes : ByteArray}
    (name : String) (rest : List Place) (hfailed : Loader.Unreadable volume limit failed)
    (hread : place.read volume limit = .ok bytes) :
    firstCopy? volume limit name (failed ++ place :: rest) =
      some (place.unit volume name bytes) := by
  have hnone := firstCopy?_of_unreadable name hfailed
  unfold firstCopy? at hnone ⊢
  rw [List.findSome?_append, hnone, List.findSome?_cons,
    Place.copy?_eq_some_iff.mpr ⟨bytes, hread, rfl⟩, Option.none_or]

/-- The unit of the first candidate that can be read is what the sources resolve the name to. -/
theorem firstCopy?_candidates {unit : CodeUnit} :
    firstCopy? volume limit name (candidates sources name) = some unit ↔
      ∃ place bytes, Resolves volume limit sources name place bytes ∧
        place.unit volume name bytes = unit := by
  have hfirst : ∀ (directory archive : Option Place) (copy? : Place → Option CodeUnit),
      (directory.toList ++ archive.toList).findSome? copy? =
        (directory.bind copy?).or (archive.bind copy?) := by
    intro directory archive copy?
    rw [List.findSome?_append]
    cases directory <;> cases archive <;> simp
  unfold firstCopy? candidates Resolves
  simp only [← isDirectoryCandidate_iff, ← isArchiveCandidate_iff]
  rw [hfirst, Option.or_eq_some_iff, Option.bind_eq_some_iff, Option.bind_eq_some_iff,
    Option.bind_eq_none_iff]
  simp only [Place.copy?_eq_some_iff, Place.copy?_eq_none_iff]
  constructor
  · rintro (⟨place, hplace, bytes, hread, hunit⟩ | ⟨hfailed, place, hplace, bytes, hread, hunit⟩)
    · exact ⟨place, bytes, ⟨hread, .inl hplace⟩, hunit⟩
    · exact ⟨place, bytes, ⟨hread, .inr ⟨hplace, hfailed⟩⟩, hunit⟩
  · rintro ⟨place, bytes, ⟨hread, hplace | ⟨hplace, hfailed⟩⟩, hunit⟩
    · exact .inl ⟨place, hplace, bytes, hread, hunit⟩
    · exact .inr ⟨hfailed, place, hplace, bytes, hread, hunit⟩

end

theorem Fault.miss_of_bare {fault : Fault} {miss : Miss}
    (h : fault.bare = .unitNotFound ⟨⟨0, 0⟩, miss⟩) :
    ∃ made, fault = .unitNotFound made ∧ made.value = miss := by
  cases fault with
  | unitNotFound made => exact ⟨made, rfl, congrArg Shared.value (Fault.unitNotFound.inj h)⟩
  | _ => cases h

theorem miss_of_bareResult {result : Except Fault (Shared CodeUnit)} {miss : Miss}
    (h : bareResult result = .error (.unitNotFound ⟨⟨0, 0⟩, miss⟩)) :
    ∃ made, result = .error (.unitNotFound made) ∧ made.value = miss := by
  cases result with
  | ok unit => cases h
  | error fault =>
    obtain ⟨made, rfl, hmade⟩ := Fault.miss_of_bare (Except.error.inj h)
    exact ⟨made, rfl, hmade⟩

namespace Command

/-- The row without the identity of the domain. No format shows more than this. -/
def Row.bare (row : Row) : Row := ⟨row.name, row.unit.map CodeUnit.bare⟩

/-- The row for a name among these sources. It depends on the files and the list of sources, and not
on what has been looked up before. -/
def rowAmong (volume : Volume) (limit : Nat) (sources : List Source) (name : String) : Row :=
  ⟨name, firstCopy? volume limit name (candidates sources name)⟩

/-- A row has no unit exactly if its name is not resolved, so a report can be read either way. -/
theorem rowAmong_unit_eq_none_iff {volume : Volume} {limit : Nat} {sources : List Source}
    {name : String} :
    (rowAmong volume limit sources name).unit = none ↔ ¬ IsResolved volume limit sources name := by
  constructor
  · rintro hnone ⟨place, bytes, h⟩
    cases (firstCopy?_candidates.mpr ⟨place, bytes, h, rfl⟩).symm.trans hnone
  · intro h
    rw [Option.eq_none_iff_forall_ne_some]
    intro unit hunit
    obtain ⟨place, bytes, hresolves, -⟩ := firstCopy?_candidates.mp hunit
    exact h ⟨place, bytes, hresolves⟩

/-- The row says what a lookup of its name among these sources has come to. -/
def Row.Tells (sources : List Source) (row : Row) : Except Fault (Shared CodeUnit) → Prop
  | .ok unit => row.unit = some unit.value.bare
  | .error fault => row.unit = none ∧
    ∃ miss, fault = .unitNotFound miss ∧ miss.value = missAmong sources row.name

end Command

namespace Loader

/-! ## A loader that looks up -/

/-- What the loader has learned is what these sources of the volume have. -/
structure IsFaithful (volume : Volume) (limit : Nat) (sources : List Source) (loader : Loader) :
    Prop where
  bounded : loader.options.maxUnitSize = limit
  places : ∀ name, loader.sources.places name = candidates sources name
  counted : ∀ name, missOf name loader.sources = missAmong sources name
  numbered : loader.sources.Numbered loader.sources.archives
  unique : ∀ archive ∈ loader.sources.archives, ∀ other ∈ loader.sources.archives,
    archive.origin = other.origin → archive = other
  home : loader.home.value = Domain.default
  units : ∀ name unit, loader.binding? name = some unit →
    firstCopy? volume limit name (candidates sources name) = some unit.value.bare
  misses : loader.MissesHold volume .none
  domains : ∀ archive ∈ loader.sources.archives, ∀ domain,
    loader.domains.get? archive.origin = some domain →
      domain.value = .archive archive.origin (archive.package volume).1
  packages : ∀ number archive package, loader.sources.archives[number]? = some archive →
    loader.packages.lookup number = some package → package = (archive.package volume).1

namespace IsFaithful

variable {volume : Volume} {limit : Nat} {sources : List Source} {loader later : Loader}

/-- Identities do not matter: what a loader has learned is compared without them. -/
theorem of_alike (h : loader.IsFaithful volume limit sources) (halike : later.Alike loader)
    (hmisses : later.MissesHold volume .none) : later.IsFaithful volume limit sources where
  bounded := halike.maxUnitSize.trans h.bounded
  places name := by rw [halike.sources, h.places]
  counted name := by rw [halike.sources, h.counted]
  numbered := by
    rw [halike.sources]
    exact h.numbered
  unique := by
    rw [halike.sources]
    exact h.unique
  home := (congrArg Shared.value halike.home).trans h.home
  -- A bound unit has another identity in the other loader, and is the same without it.
  units := by
    intro name unit hbound
    have hsame := halike.units name
    rw [hbound] at hsame
    obtain ⟨held, hheld, hbare⟩ := Option.map_eq_some_iff.mp hsame.symm
    rw [h.units name held hheld]
    exact congrArg (fun shared => some shared.value) hbare
  misses := hmisses
  domains := by
    intro archive harchive domain hdomain
    rw [halike.sources] at harchive
    have hsame := halike.domains archive.origin
    rw [hdomain] at hsame
    obtain ⟨held, hheld, hbare⟩ := Option.map_eq_some_iff.mp hsame.symm
    rw [← h.domains archive harchive held hheld]
    exact (congrArg Shared.value hbare).symm
  packages := by
    rw [halike.sources, halike.packages]
    exact h.packages

/-- A new domain for an archive says what the manifest says, and so the loader still has what the
files have. -/
theorem withDomain (h : loader.IsFaithful volume limit sources) {archive : Archive}
    (harchive : archive ∈ loader.sources.archives) {domain : Shared Domain}
    (hdomain : domain.value = .archive archive.origin (archive.package volume).1)
    (hnew : loader.domains.get? archive.origin = none) :
    ({ loader.issue with
      domains := loader.domains.insertNew archive.origin domain } : Loader).IsFaithful
        volume limit sources := by
  refine { h with domains := ?_ }
  intro other hother held hheld
  change (loader.domains.insertNew archive.origin domain).get? other.origin = some held at hheld
  rw [Table.get?_insertNew, Table.kept_of_none domain hnew] at hheld
  split at hheld
  · next horigin =>
    obtain rfl : other = archive := h.unique other hother archive harchive horigin
    obtain rfl := Option.some.inj hheld
    exact hdomain
  · exact h.domains other hother held hheld

/-- A manifest that has been read is what the archive says, also for the next one who asks. -/
theorem withPackage (h : loader.IsFaithful volume limit sources) {number : Nat} {archive : Archive}
    (harchive : loader.sources.archives[number]? = some archive) :
    ({ loader with
      packages := (number, (archive.package volume).1) :: loader.packages } : Loader).IsFaithful
        volume limit sources := by
  refine { h with packages := ?_ }
  intro other stored package hstored hpackage
  change loader.sources.archives[other]? = some stored at hstored
  change ((number, (archive.package volume).1) :: loader.packages).lookup other = some package
    at hpackage
  rw [List.lookup_cons] at hpackage
  split at hpackage
  · next hsame =>
    obtain rfl : other = number := beq_iff_eq.mp hsame
    obtain rfl := Option.some.inj (harchive.symm.trans hstored)
    exact (Option.some.inj hpackage).symm
  · exact h.packages other stored package hstored hpackage

theorem domainAt (h : loader.IsFaithful volume limit sources) {place : Place}
    (hplace : place.NumberedIn loader.sources.archives) :
    (loader.domainAt volume place).reply.value = place.domain volume ∧
      (loader.domainAt volume place).loader.IsFaithful volume limit sources := by
  have hfinds := domainAt_finds loader volume place
  generalize loader.domainAt volume place = turn at hfinds ⊢
  obtain ⟨domain, found, events⟩ := turn
  dsimp only at hfinds ⊢
  cases hfinds with
  | home root path => exact ⟨h.home, h⟩
  | held hheld => exact ⟨h.domains _ (List.mem_of_getElem? hplace) _ hheld, h⟩
  | recalled hnew hknown hdomain =>
    subst hdomain
    obtain rfl := h.packages _ _ _ hplace hknown
    exact ⟨rfl, h.withDomain (List.mem_of_getElem? hplace) rfl hnew⟩
  | read hnew hunread hpackage hdomain =>
    subst hdomain hpackage
    exact ⟨rfl, (h.withPackage hplace).withDomain (List.mem_of_getElem? hplace) rfl hnew⟩

/-- A unit that is defined is the one that the sources have, so to bind it is to learn nothing that
is not so. -/
theorem define (h : loader.IsFaithful volume limit sources) {name : String} {bytes : ByteArray}
    {place : Place} (hfree : loader.binding? name = none)
    (hplace : place.NumberedIn loader.sources.archives)
    (hcopy : firstCopy? volume limit name (candidates sources name) =
      some (place.unit volume name bytes)) :
    (loader.define volume name bytes place).reply.value.bare = place.unit volume name bytes ∧
      (loader.define volume name bytes place).loader.IsFaithful volume limit sources := by
  obtain ⟨hdomain, hfound⟩ := h.domainAt hplace
  have hunbound : (loader.domainAt volume place).loader.binding? name = none := by
    obtain ⟨domains, packages, issued, hloader⟩ := domainAt_loader loader volume place
    rw [hloader]
    exact hfree
  unfold Loader.define
  generalize loader.domainAt volume place = turn at hdomain hfound hunbound ⊢
  obtain ⟨domain, found, events⟩ := turn
  have hbare : ∀ token : Token, (Shared.mk token
      (CodeUnit.mk name bytes place.origin domain)).value.bare = place.unit volume name bytes := by
    intro token
    show CodeUnit.mk name bytes place.origin domain.bare = _
    unfold Shared.bare
    rw [hdomain]
    rfl
  -- The name is free, so what is defined is what is bound.
  have hkept : ∀ unit, found.memo.units.kept name unit = unit :=
    fun unit => Table.kept_of_none unit hunbound
  refine ⟨(congrArg (fun unit : Shared CodeUnit => unit.value.bare) (hkept _)).trans (hbare _), ?_⟩
  refine { hfound with units := ?_, misses := hfound.misses.of_same rfl rfl rfl }
  intro other unit hbound
  have hbound : (found.memo.units.insertNew name _).get? other = some unit := hbound
  rw [Table.get?_insertNew, hkept] at hbound
  split at hbound
  · next heq =>
    -- The new binding is the first copy that the sources have. The old ones are as they were.
    obtain rfl := Option.some.inj hbound
    rw [heq, hcopy]
    exact congrArg some (hbare _).symm
  · exact hfound.units other unit hbound

/-- What is counted does not matter. -/
theorem count (h : loader.IsFaithful volume limit sources) (change : Counters → Counters) :
    (loader.count change).IsFaithful volume limit sources :=
  h.of_alike { Alike.refl loader with } (h.misses.of_same rfl rfl rfl)

end IsFaithful

section

variable {volume : Volume} {limit : Nat} {sources : List Source} {loader : Loader}

/-- A lookup of a name that no copy of can be read, whether the miss is recalled or not. -/
theorem IsFaithful.resolve_missing (h : loader.IsFaithful volume limit sources) {name : String}
    (hfree : loader.binding? name = none)
    (hunread : Unreadable volume limit (candidates sources name)) :
    (Command.rowAmong volume limit sources name).Tells sources
        (loader.resolve volume name none).reply ∧
      (loader.resolve volume name none).loader.IsFaithful volume limit sources := by
  have hplaces : Unreadable volume loader.options.maxUnitSize (loader.sources.places name) := by
    rw [h.bounded, h.places]
    exact hunread
  obtain ⟨hbare, halike, hmisses⟩ := resolve_of_hold h.misses hfree rfl hplaces
  obtain ⟨miss, hreply, hmiss⟩ := miss_of_bareResult hbare
  rw [hreply]
  exact ⟨⟨firstCopy?_of_unreadable name hunread, miss, rfl, hmiss.trans (h.counted name)⟩,
    h.of_alike halike hmisses⟩

/-- A lookup that defines the unit. The reply is the row for the name, and what is learned on the
way holds. -/
theorem IsFaithful.resolve_found (h : loader.IsFaithful volume limit sources) {name : String}
    (hfree : loader.binding? name = none)
    (hreadable : ¬ Unreadable volume limit (candidates sources name)) :
    (Command.rowAmong volume limit sources name).Tells sources
        (loader.resolve volume name none).reply ∧
      (loader.resolve volume name none).loader.IsFaithful volume limit sources := by
  rcases tryPlaces_cases volume name (loader.sources.places name) loader.asking.searching with
    ⟨hall, -, -⟩ | ⟨failed, place, rest, bytes, hplaces, hfailed, hread, hreply, hloader⟩
  · rw [h.places] at hall
    exact absurd (h.bounded ▸ hall) hreadable
  · -- No miss is recalled for a name that has a copy.
    have hrecall : loader.Unrecalled name :=
      h.misses.unrecalled hfree fun _ => by rwa [h.bounded, h.places]
    obtain ⟨hresolved, hlater⟩ := resolve_of_found hrecall hreply
    have hcopy : firstCopy? volume limit name (candidates sources name) =
        some (place.unit volume name bytes) := by
      rw [← h.places, hplaces]
      exact firstCopy?_of_first name rest (h.bounded ▸ hfailed) (h.bounded ▸ hread)
    have hplace : place ∈ loader.sources.places name := by
      rw [hplaces]
      exact List.mem_append_right failed List.mem_cons_self
    have hreads : (loader.asking.searching.readTimes (failed.length + 1)).IsFaithful volume limit
        sources := ((h.count _).count _).count _
    obtain ⟨hunit, hdefined⟩ := hreads.define hfree (h.numbered name place hplace) hcopy
    rw [hresolved, hlater, hloader]
    exact ⟨hcopy.trans (congrArg some hunit.symm), hdefined⟩

/-- A lookup comes to what the sources have, whatever has been looked up before. -/
theorem IsFaithful.resolve (h : loader.IsFaithful volume limit sources) (name : String) :
    (Command.rowAmong volume limit sources name).Tells sources
        (loader.resolve volume name none).reply ∧
      (loader.resolve volume name none).loader.IsFaithful volume limit sources := by
  cases hfree : loader.binding? name with
  | some unit =>
    rw [resolve_of_bound volume none hfree]
    exact ⟨h.units name unit hfree, h.count fun c => { c with cacheHits := c.cacheHits + 1 }⟩
  | none =>
    by_cases hunread : Unreadable volume limit (candidates sources name)
    · exact h.resolve_missing hfree hunread
    · exact h.resolve_found hfree hunread

end

/-- A loader that has just registered its sources has learned nothing yet. -/
theorem IsStocked.isFaithful {volume : Volume} {options : Options} {sources : List Source}
    {loader : Loader} (h : loader.IsStocked volume options sources) (hvolume : volume.WellFormed) :
    loader.IsFaithful volume options.maxUnitSize sources where
  bounded := congrArg Options.maxUnitSize h.kept
  places name := by
    unfold Sources.places candidates
    rw [← (h.indexed name).directories, ← (h.indexed name).archives]
  counted name := by
    unfold Loader.missOf missAmong
    rw [h.directories, h.archives]
  numbered := h.numbered
  unique _ harchive _ hother := h.archive_unique hvolume harchive hother
  home := h.unused.home
  units name unit hbound := by
    unfold binding? at hbound
    rw [h.unused.units] at hbound
    cases hbound
  misses := h.unused.holds volume .none
  domains _ _ _ hdomain := by
    rw [h.unused.domains] at hdomain
    cases hdomain
  packages _ _ _ _ hpackage := by
    rw [h.unused.packages] at hpackage
    cases hpackage

end Loader

end LayeredUnits
