import LayeredUnits.Location
import LayeredUnits.Source.Place
import LayeredUnits.Table

/-!
# Registered sources

The sources of a loader in the order in which they were registered, and for
each unit name the place of its bytes. A name belongs to the first directory
and to the first archive that has it, but an archive gets no name that a
directory has when the archive is registered, and no source gets a name that
is bound already. Lookups work on a snapshot, so that what is registered
during a lookup is seen by the next one.
-/

namespace LayeredUnits

/-- Whether a source is a directory or an archive. Of a name that both have, the directory has the
say. -/
inductive SourceKind where
  | directory
  | archive
deriving DecidableEq, Repr

/-- The name of a kind, as it stands in reports. -/
def SourceKind.text : SourceKind → String
  | .directory => "directory"
  | .archive => "archive"

/-- What is told about a registered source. The numbers are taken when it is registered. -/
structure SourceSummary where
  kind : SourceKind
  /-- The root of a directory, the origin of an archive. -/
  location : String
  /-- How many units it has. -/
  units : Nat
  /-- How many of them it was the first to provide when it was registered. -/
  indexed : Nat
deriving DecidableEq, Repr

/-- The registered sources. The two indices say which source a name belongs to; they are kept apart
so that a directory can overtake the archives that were there before it. -/
structure Sources where
  directories : List Directory := []
  archives : List Archive := []
  directoryUnits : Table Place := .empty
  archiveUnits : Table Place := .empty
  summaries : List SourceSummary := []

namespace Sources

/-- Enters units into an index, but for those whose name is taken. The names entered and the names
passed over are listed in order; a source that offers a name twice passes over the second. -/
def enter (taken : String → Bool) (index : Table Place) :
    List (String × Place) → Table Place × List String × List String
  | [] => (index, [], [])
  | (name, place) :: rest =>
    if taken name || index.contains name then
      let (index, entered, shadowed) := enter taken index rest
      (index, entered, name :: shadowed)
    else
      let (index, entered, shadowed) := enter taken (index.insertNew name place) rest
      (index, name :: entered, shadowed)

/-- The sources with one more directory, and the names entered and passed over. What the archives
have does not count here: a directory goes before them. -/
def addDirectory (sources : Sources) (bound : String → Bool) (directory : Directory) :
    Sources × List String × List String :=
  let units := directory.units.map fun unit => (unit.1, Place.file directory.root unit.2)
  let (index, entered, shadowed) := enter bound sources.directoryUnits units
  ({ sources with
      directories := sources.directories ++ [directory]
      directoryUnits := index
      summaries := sources.summaries ++
        [⟨.directory, directory.root, directory.units.length, entered.length⟩] },
    entered, shadowed)

/-- The sources with one more archive, and the names entered and passed over. The archive is
numbered by its place in the list, which is how its entries refer to it. -/
def addArchive (sources : Sources) (bound : String → Bool) (archive : Archive) :
    Sources × List String × List String :=
  let number := sources.archives.length
  let units := archive.units.map fun unit => (unit.1, Place.entry number archive unit.2)
  let taken (name : String) : Bool := bound name || sources.directoryUnits.contains name
  let (index, entered, shadowed) := enter taken sources.archiveUnits units
  ({ sources with
      archives := sources.archives ++ [archive]
      archiveUnits := index
      summaries := sources.summaries ++
        [⟨.archive, archive.origin, archive.units.length, entered.length⟩] },
    entered, shadowed)

/-- Whether a source provides a unit, whether or not its bytes can be read. -/
def provides (sources : Sources) (name : String) : Bool :=
  sources.directoryUnits.contains name || sources.archiveUnits.contains name

/-- The places of a unit in the order in which they are tried: at most one in a directory, and at
most one in an archive. -/
def places (sources : Sources) (name : String) : List Place :=
  (sources.directoryUnits.get? name).toList ++ (sources.archiveUnits.get? name).toList

/-- The location of a resource in an archive, if the archive has a file of exactly this name.
Entries of any kind are resources, units among them. -/
def inArchive? (name : String) (archive : Archive) : Option Location :=
  if archive.hasFile name then some (.entry archive.origin name) else none

/-- The first location of a resource: directories before archives, each in the order of
registration. No index is used, so a directory is asked for its files as they are now. -/
def locate? (sources : Sources) (volume : Volume) (name : String) : Option Location :=
  match sources.directories.findSome? fun directory => directory.resourcePath? volume name with
  | some path => some (.file path)
  | none => sources.archives.findSome? (inArchive? name)

/-- Every location of a resource, in the order in which they are tried. A place is listed once for
each source that has it. -/
def locations (sources : Sources) (volume : Volume) (name : String) : List Location :=
  (sources.directories.filterMap fun directory =>
    (directory.resourcePath? volume name).map Location.file) ++
  sources.archives.filterMap (inArchive? name)

/-! ## What an index says -/

/-- An entry stays, and a name that has none gets the first one that is offered, unless the
name is taken. -/
theorem get?_enter (taken : String → Bool) (units : List (String × Place)) (name : String) :
    ∀ index : Table Place, (enter taken index units).1.get? name =
      (index.get? name).or (if taken name then none else units.lookup name) := by
  induction units with
  | nil =>
    intro index
    simp [enter]
  | cons unit rest ih =>
    intro index
    obtain ⟨key, place⟩ := unit
    unfold enter
    split
    · next h =>
      rw [ih]
      by_cases hkey : name = key
      · subst hkey
        rcases Bool.or_eq_true_iff.mp h with htaken | hheld
        · simp [htaken]
        · obtain ⟨held, hheld⟩ := Option.isSome_iff_exists.mp hheld
          simp [hheld]
      · simp [List.lookup_cons, beq_eq_false_iff_ne.mpr hkey]
    · next h =>
      rw [ih, Table.get?_insertNew]
      by_cases hkey : name = key
      · subst hkey
        obtain ⟨htaken, hfree⟩ : taken name = false ∧ index.get? name = none := by
          simpa [Table.contains] using h
        simp [htaken, hfree]
      · simp [hkey, List.lookup_cons, beq_eq_false_iff_ne.mpr hkey]

private theorem lookup_map_place {α : Type} (make : α → Place) (units : List (String × α))
    (name : String) : (units.map fun unit => (unit.1, make unit.2)).lookup name =
      (units.lookup name).map make := by
  induction units with
  | nil => rfl
  | cons unit rest ih =>
    rw [List.map_cons, List.lookup_cons, List.lookup_cons, ih]
    split <;> rfl

/-- What a directory adds to the index of the directories. -/
theorem directoryUnits_addDirectory (sources : Sources) (bound : String → Bool)
    (directory : Directory) (name : String) :
    (sources.addDirectory bound directory).1.directoryUnits.get? name =
      (sources.directoryUnits.get? name).or (if bound name then none
        else (directory.units.lookup name).map (.file directory.root)) := by
  rw [← lookup_map_place]
  exact get?_enter ..

@[simp] theorem archiveUnits_addDirectory (sources : Sources) (bound : String → Bool)
    (directory : Directory) :
    (sources.addDirectory bound directory).1.archiveUnits = sources.archiveUnits := rfl

/-- What an archive adds to the index of the archives. -/
theorem archiveUnits_addArchive (sources : Sources) (bound : String → Bool) (archive : Archive)
    (name : String) :
    (sources.addArchive bound archive).1.archiveUnits.get? name =
      (sources.archiveUnits.get? name).or
        (if bound name || sources.directoryUnits.contains name then none
          else (archive.units.lookup name).map (.entry sources.archives.length archive)) := by
  rw [← lookup_map_place]
  exact get?_enter ..

@[simp] theorem directoryUnits_addArchive (sources : Sources) (bound : String → Bool)
    (archive : Archive) :
    (sources.addArchive bound archive).1.directoryUnits = sources.directoryUnits := rfl

theorem mem_places {sources : Sources} {name : String} {place : Place} :
    place ∈ sources.places name ↔
      sources.directoryUnits.get? name = some place ∨
        sources.archiveUnits.get? name = some place := by
  simp [places]

/-- A place that was found once is found for good. -/
theorem mem_places_addDirectory {sources : Sources} {name : String} {place : Place}
    (bound : String → Bool) (directory : Directory) (h : place ∈ sources.places name) :
    place ∈ (sources.addDirectory bound directory).1.places name := by
  rw [mem_places] at h ⊢
  rcases h with h | h
  · exact .inl (by rw [directoryUnits_addDirectory, h, Option.some_or])
  · exact .inr h

theorem mem_places_addArchive {sources : Sources} {name : String} {place : Place}
    (bound : String → Bool) (archive : Archive) (h : place ∈ sources.places name) :
    place ∈ (sources.addArchive bound archive).1.places name := by
  rw [mem_places] at h ⊢
  rcases h with h | h
  · exact .inl h
  · exact .inr (by rw [archiveUnits_addArchive, h, Option.some_or])

end Sources

end LayeredUnits
