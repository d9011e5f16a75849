import Mathlib.Data.List.Nodup
import LayeredUnits.Proofs.Walking
import LayeredUnits.Source.Archive
import LayeredUnits.Source.Directory

/-!
# Names of units and their paths

A unit name and the path of its file say the same thing in two spellings. For
one suffix there is exactly one path for each well-formed name, and no other
path has a name. So two files of one source never have the same name, and what
a source does about a name that comes again is never done.

* `ofPath?_eq_some_iff` — a path has a name exactly if the name is well-formed
  and the path is its path.
* `Zip.names_of_entries`, `Node.files_ordered` — an archive has each entry once,
  and a tree has each file once.
* `names_and_paths` — what follows for paths, archives and directories.
-/

namespace LayeredUnits

namespace UnitName

open Text (segments joined exchanged)

theorem stemNames_iff {stem : List Char} :
    stemNames stem = true ↔
      stem ≠ [] ∧ ∀ piece ∈ segments '/' stem, piece ≠ [] ∧ '.' ∉ piece := by
  simp [stemNames, List.isEmpty_eq_false_iff]

/-- A path has a name if it is a stem with the suffix and the stem names a unit. -/
theorem ofPath?_of_stem {suffix rel name : String} :
    ofPath? suffix rel = some name ↔
      ∃ stem, rel.toList = stem ++ suffix.toList ∧ stemNames stem = true ∧
        name = String.ofList (exchanged '/' '.' stem) := by
  unfold ofPath?
  constructor
  · intro h
    split at h
    · cases h
    · next stem hstem =>
      split at h
      · next hnames =>
        cases h
        exact ⟨stem, Text.stripSuffix?_eq_some_iff.mp hstem, hnames, rfl⟩
      · cases h
  · intro h
    obtain ⟨stem, hrel, hnames, rfl⟩ := h
    rw [Text.stripSuffix?_eq_some_iff.mpr hrel]
    dsimp only
    rw [if_pos hnames]

/-- A stem that names a unit has no dot in it, and so the exchange of dots and slashes can be
undone. -/
theorem undotted_of_stemNames {stem : List Char} (h : stemNames stem = true) : '.' ∉ stem := by
  intro hdot
  rw [← Text.joined_segments '/' stem] at hdot
  obtain ⟨piece, hpiece, hmem⟩ := (Text.mem_joined_iff (by decide)).mp hdot
  exact ((stemNames_iff.mp h).2 piece hpiece).2 hmem

/-- With its slashes exchanged for dots, a stem that names a unit is a well-formed name. -/
theorem wellFormed_of_stemNames {stem : List Char} (h : stemNames stem = true) :
    WellFormed (String.ofList (exchanged '/' '.' stem)) := by
  obtain ⟨hsome, hpieces⟩ := stemNames_iff.mp h
  have hundotted := undotted_of_stemNames h
  unfold WellFormed
  rw [String.toList_ofList, Text.segments_exchanged hundotted]
  refine ⟨?_, Text.notMem_exchanged (by decide) stem, fun piece hpiece => (hpieces piece hpiece).1⟩
  intro hnil
  exact hsome (List.map_eq_nil_iff.mp hnil)

/-- With its dots exchanged for slashes, a well-formed name is a stem that names a unit. -/
theorem stemNames_of_wellFormed {name : String} (h : WellFormed name) :
    stemNames (exchanged '.' '/' name.toList) = true := by
  obtain ⟨hsome, hunslashed, hpieces⟩ := h
  rw [stemNames_iff, Text.segments_exchanged hunslashed]
  constructor
  · intro hnil
    exact hsome (List.map_eq_nil_iff.mp hnil)
  · intro piece hpiece
    exact ⟨hpieces piece hpiece, Text.notMem_of_mem_segments hpiece⟩

/-- A path has a name exactly if the name is well-formed and the path is its path. -/
theorem ofPath?_eq_some_iff {suffix rel name : String} :
    ofPath? suffix rel = some name ↔ WellFormed name ∧ rel = toPath suffix name := by
  rw [ofPath?_of_stem]
  constructor
  · intro h
    obtain ⟨stem, hrel, hnames, rfl⟩ := h
    refine ⟨wellFormed_of_stemNames hnames, String.toList_injective ?_⟩
    unfold toPath
    rw [String.toList_append, String.toList_ofList, String.toList_ofList,
      Text.exchanged_exchanged (undotted_of_stemNames hnames), hrel]
  · intro h
    obtain ⟨hname, rfl⟩ := h
    refine ⟨exchanged '.' '/' name.toList, ?_, stemNames_of_wellFormed hname, ?_⟩
    · unfold toPath
      rw [String.toList_append, String.toList_ofList]
    · rw [Text.exchanged_exchanged hname.2.1, String.ofList_toList]

/-- Two paths never have the same name: the name and the suffix give the path back. -/
theorem path_unique {suffix rel other name : String} (h : ofPath? suffix rel = some name)
    (hother : ofPath? suffix other = some name) : rel = other :=
  (ofPath?_eq_some_iff.mp h).2.trans (ofPath?_eq_some_iff.mp hother).2.symm

/-- Files that are listed under their names are listed under these names. -/
theorem map_fst_filterMap {α β : Type} (name? : α → Option String) (place : α → β)
    (files : List α) :
    (files.filterMap fun file => (name? file).map fun name => (name, place file)).map (·.1) =
      files.filterMap name? := by
  induction files with
  | nil => rfl
  | cons file rest ih => cases hname : name? file <;> simp [hname, ih]

/-- Different paths have different names. -/
theorem nodup_names {paths : List String} (suffix : String) (h : paths.Nodup) :
    (paths.filterMap (ofPath? suffix)).Nodup :=
  h.filterMap fun _ _ _ hname hother => path_unique hname hother

end UnitName

/-! ## Archives -/

namespace Zip

/-- No two records have the same name. This is so for what is read from any archive, whatever its
directory holds. -/
def Apart (records : List Record) : Prop := (records.map (·.name)).Nodup

/-- A record that replaces another one of its name is apart from the rest as that was. -/
theorem Apart.replace {records : List Record} (h : Apart records) (record : Record) :
    Apart (records.map fun other => if other.name == record.name then record else other) := by
  unfold Apart at h ⊢
  rw [List.map_map]
  convert h using 2
  funext other
  by_cases hname : other.name = record.name <;> simp [hname]

theorem Apart.add {records : List Record} (h : Apart records) {record : Record}
    (hnew : (records.any (·.name == record.name)) = false) : Apart (records ++ [record]) := by
  unfold Apart at h ⊢
  rw [List.map_append, List.map_singleton]
  refine h.append (List.nodup_singleton _) (List.disjoint_singleton.mpr ?_)
  intro hmem
  obtain ⟨one, hone, hname⟩ := List.mem_map.mp hmem
  rw [List.any_eq_false] at hnew
  exact hnew one hone (by simp [hname])

theorem apart_distinct (records : List Record) : Apart (distinct records) := by
  unfold distinct
  -- What has been kept is apart, and each further record keeps it so.
  suffices h : ∀ kept : List Record, Apart kept → Apart (records.foldl
      (fun kept record =>
        if kept.any (·.name == record.name) then
          kept.map fun other => if other.name == record.name then record else other
        else kept ++ [record]) kept) from h [] List.nodup_nil
  induction records with
  | nil => exact fun kept hkept => hkept
  | cons record rest ih =>
    intro kept hkept
    rw [List.foldl_cons]
    refine ih _ ?_
    split
    · exact hkept.replace record
    · next hnew => exact hkept.add (by simpa using hnew)

/-- An archive has each name once, because a record whose name comes again takes the place of the
one before. -/
theorem names_of_entries {file : ByteArray} {entries : List Record}
    (h : entries? file = some entries) : Apart entries := by
  obtain ⟨records, -, rfl⟩ := Option.map_eq_some_iff.mp h
  exact apart_distinct records

end Zip

namespace Archive

theorem opened_iff {volume : Volume} {image : Image} {origin suffix : String} {archive : Archive} :
    (openImage volume image origin suffix).1 = .ok archive ↔
      ∃ entries, Zip.entries? (image.bytes volume) = some entries ∧
        archive = ⟨origin, image, entries, named suffix (files ⟨origin, image, entries, []⟩)⟩ := by
  unfold openImage
  cases Zip.entries? (image.bytes volume) with
  | none => simp
  | some entries => simp [eq_comm]

/-- The units are the files with names, each with its entry. Sorting neither adds nor drops any. -/
theorem mem_named_iff {suffix name entry : String} {files : List String} :
    (name, entry) ∈ named suffix files ↔
      entry ∈ files ∧ UnitName.ofPath? suffix entry = some name := by
  unfold named
  rw [List.mem_mergeSort, List.mem_filterMap]
  constructor
  · intro h
    obtain ⟨file, hfile, hname⟩ := h
    obtain ⟨other, hother, heq⟩ := Option.map_eq_some_iff.mp hname
    cases heq
    exact ⟨hfile, hother⟩
  · intro h
    obtain ⟨hfile, hname⟩ := h
    exact ⟨entry, hfile, by rw [hname]; rfl⟩

theorem nodup_named {files : List String} (suffix : String) (h : files.Nodup) :
    ((named suffix files).map (·.1)).Nodup := by
  unfold named
  rw [((List.mergeSort_perm _ comesBefore).map _).nodup_iff,
    UnitName.map_fst_filterMap (UnitName.ofPath? suffix) fun file => file]
  exact UnitName.nodup_names suffix h

/-- The units of an archive have different names, because its files have. -/
theorem nodup_units {volume : Volume} {image : Image} {origin suffix : String} {archive : Archive}
    (h : (openImage volume image origin suffix).1 = .ok archive) :
    (archive.units.map (·.1)).Nodup := by
  obtain ⟨entries, hentries, rfl⟩ := opened_iff.mp h
  exact nodup_named suffix ((Zip.names_of_entries hentries).filter _)

end Archive

/-! ## Directories -/

namespace Directory

/-- Where no name comes again, all units are kept, and there is nothing to tell of. -/
theorem firstOfEach_of_nodup {units : List (String × List String)} {seen : List String}
    (hnodup : (units.map (·.1)).Nodup) (hseen : ∀ unit ∈ units, unit.1 ∉ seen) :
    firstOfEach seen units = (units, []) := by
  induction units generalizing seen with
  | nil => rfl
  | cons unit rest ih =>
    rw [List.map_cons, List.nodup_cons] at hnodup
    have hrest : ∀ other ∈ rest, other.1 ∉ unit.1 :: seen := by
      intro other hother hmem
      rcases List.mem_cons.mp hmem with heq | hmem
      · exact hnodup.1 (heq ▸ List.mem_map_of_mem hother)
      · exact hseen other (List.mem_cons_of_mem _ hother) hmem
    rw [firstOfEach, if_neg (hseen unit List.mem_cons_self), ih hnodup.2 hrest]

/-- In a well-formed tree, no two files have the same name. -/
theorem nodup_names {children : List (String × Node)} (suffix : String)
    (listed : List String → Bool) (h : (Node.directory children).WellFormed) :
    ((named suffix ((Node.directory children).files listed)).map (·.1)).Nodup := by
  have hpaths : (((Node.directory children).files listed).map
      fun file => "/".intercalate file.1).Nodup := by
    refine List.pairwise_map.mpr ((Node.files_ordered listed h).imp_of_mem ?_)
    intro file other hfile hother hlt heq
    obtain ⟨hsome, hnames⟩ := Node.names_of_mem_files h hfile
    obtain ⟨hsome', hnames'⟩ := Node.names_of_mem_files h hother
    -- Two ways that are spelled alike are the same, and no way comes before itself.
    have hsame := congrArg (Text.pieces '/') heq
    rw [Path.pieces_intercalate hsome fun name hname => (hnames name hname).unslashed,
      Path.pieces_intercalate hsome' fun name hname => (hnames' name hname).unslashed] at hsame
    rw [hsame] at hlt
    exact Node.Precedes.irrefl _ hlt
  have hnodup := UnitName.nodup_names suffix hpaths
  rw [List.filterMap_map] at hnodup
  unfold named
  rw [UnitName.map_fst_filterMap (fun file : List String × Nat =>
    UnitName.ofPath? suffix ("/".intercalate file.1)) (·.1)]
  exact hnodup

/-- Of a well-formed tree, all files that the walk finds and that have names are units. -/
theorem scan_of_locate {volume : Volume} {path : String} {way : List String}
    {children : List (String × Node)} (h : volume.WellFormed) (suffix : String)
    (hlocate : volume.locate path = .ok (way, .directory children)) :
    let listed := fun below => volume.lists (way ++ below)
    let units := named suffix ((Node.directory children).files listed)
    scan volume path suffix =
      (.ok ⟨Path.ofComponents way,
          units.map fun unit => (unit.1, Path.ofComponents (way ++ unit.2))⟩,
        ((Node.directory children).barred listed).map (fun below =>
            .directoryBarred (Path.ofComponents way) (Path.ofComponents (way ++ below))) ++
          [.directoryIndexed (Path.ofComponents way) units.length]) := by
  intro listed units
  have hbelow : (Node.directory children).WellFormed :=
    (Node.WellFormed.at? h (Volume.at?_of_locate hlocate)).1
  unfold scan
  rw [hlocate]
  dsimp only
  rw [firstOfEach_of_nodup (nodup_names suffix listed hbelow) (by simp), List.map_nil,
    List.append_nil]

/-- A path that does not lead to a directory is not scanned, and nothing is told of it but the
fault. -/
theorem scan_of_not_directory {volume : Volume} {path : String} (suffix : String)
    (h : ∀ way children, volume.locate path ≠ .ok (way, .directory children)) :
    ∃ defect, scan volume path suffix = (.error (.invalidSource path defect), []) := by
  unfold scan
  split
  · exact ⟨_, rfl⟩
  · next way children hlocate => exact absurd hlocate (h way children)
  · exact ⟨_, rfl⟩

end Directory

/-- Paths of units and well-formed names are one to one, for every suffix. So the files of a source
have different names: an archive lists no name twice, and when a directory is scanned no name ever
comes again. -/
theorem names_and_paths :
    (∀ suffix rel name : String, UnitName.ofPath? suffix rel = some name →
      UnitName.toPath suffix name = rel ∧ UnitName.WellFormed name) ∧
    (∀ suffix name : String,
      UnitName.ofPath? suffix (UnitName.toPath suffix name) = some name ↔
        UnitName.WellFormed name) ∧
    (∀ suffix rel other name : String, UnitName.ofPath? suffix rel = some name →
      UnitName.ofPath? suffix other = some name → rel = other) ∧
    (∀ (volume : Volume) (image : Image) (origin suffix : String) (archive : Archive),
      (Archive.openImage volume image origin suffix).1 = .ok archive →
        (archive.units.map (·.1)).Nodup) ∧
    (∀ (volume : Volume) (path suffix : String), volume.WellFormed →
      ∀ name root, Event.unitRepeated name root ∉ (Directory.scan volume path suffix).2) := by
  refine ⟨?_, ?_, ?_, ?_, ?_⟩
  · intro suffix rel name h
    obtain ⟨hname, hrel⟩ := UnitName.ofPath?_eq_some_iff.mp h
    exact ⟨hrel.symm, hname⟩
  · intro suffix name
    rw [UnitName.ofPath?_eq_some_iff]
    exact and_iff_left rfl
  · intro suffix rel other name
    exact UnitName.path_unique
  · intro volume image origin suffix archive
    exact Archive.nodup_units
  · intro volume path suffix h name root hrepeated
    by_cases hdirectory : ∃ way children, volume.locate path = .ok (way, .directory children)
    · -- A scan that succeeds tells what is barred and how much there is, and one
      -- that fails tells nothing.
      obtain ⟨way, children, hlocate⟩ := hdirectory
      rw [Directory.scan_of_locate h suffix hlocate] at hrepeated
      simp at hrepeated
    · have hnone : ∀ way children, volume.locate path ≠ .ok (way, .directory children) :=
        fun way children hlocate => hdirectory ⟨way, children, hlocate⟩
      obtain ⟨defect, hscan⟩ := Directory.scan_of_not_directory suffix hnone
      rw [hscan] at hrepeated
      cases hrepeated

/-- What is in the directory of `grove`: a unit, a file whose name has a dot too many, a link to the
unit, and a unit further down with a name that begins like the name of the first. -/
def groveChildren : List (String × Node) :=
  [("a-b.unit", .file 0), ("a.x.unit", .file 1), ("c.unit", .link "a-b.unit"),
    ("a", .directory [("x.unit", .file 2)])]

/-- A volume with a directory that is also reached by a link. -/
def grove : Volume :=
  { root := .directory [("l", .link "d"), ("d", .directory groveChildren)] }

theorem wellFormed_groveChildren : (Node.directory groveChildren).WellFormed := by
  have hbelow : (Node.directory [("x.unit", .file 2)]).WellFormed :=
    .directory (by decide) (by decide) (by simpa using .file 2)
  refine .directory (by decide) (by decide) ?_
  simp only [groveChildren, List.forall_mem_cons, List.not_mem_nil, false_implies, implies_true,
    and_true]
  exact ⟨.file 0, .file 1, .link (by decide), hbelow⟩

theorem wellFormed_grove : grove.WellFormed := by
  refine .directory (by decide) (by decide) ?_
  simp only [List.forall_mem_cons, List.not_mem_nil, false_implies, implies_true, and_true]
  exact ⟨.link (by decide), wellFormed_groveChildren⟩

/-- Of two paths that look alike one has the name and the other has none, and so the name never
comes again. -/
theorem names_and_paths_grove :
    UnitName.ofPath? ".unit" "a/x.unit" = some "a.x" ∧
      UnitName.ofPath? ".unit" "a.x.unit" ≠ some "a.x" ∧
      ∀ root, Event.unitRepeated "a.x" root ∉ (Directory.scan grove "/l" ".unit").2 := by
  obtain ⟨-, hwritten, hunique, -, hscan⟩ := names_and_paths
  have hname : UnitName.ofPath? ".unit" "a/x.unit" = some "a.x" :=
    (hwritten ".unit" "a.x").mpr (by decide)
  refine ⟨hname, ?_, hscan grove "/l" ".unit" wellFormed_grove "a.x"⟩
  intro hother
  exact absurd (hunique _ _ _ _ hname hother) (by decide)

end LayeredUnits
