import Mathlib
import LayeredUnits.Proofs.Naming
import LayeredUnits.Proofs.Retention
import LayeredUnits.Proofs.Tolerance

/-!
# What each source provides

Of each source a loader tells how many of its names went into the index. That
is counted when the source is registered, and not again. A source that comes
later takes nothing out of the index, but a directory goes before all archives
in a lookup, those that are there already included. From then on such an
archive does not provide the names that the directory lists, and its count
stays.

* `Source.offered`, `Source.provided`, `Source.overtaken` — the names of a
  source that no earlier one shuts out. Some are provided by the source, and the
  others are overtaken by a later one.
* `Indexed.head?_places` — the first place that a lookup tries is the one of the
  source that provides the name.
* `Scene.told_after` — what is told of a source counts the names that no earlier
  one shuts out.
* `Sources.Balanced` — the counts of all sources are together the size of both
  indexes.
* `counts_may_be_too_high` — so they are more than what the sources provide, if a
  directory lists what an archive had before.
* `counts_of_registered` — by exactly what has been overtaken.
-/

namespace LayeredUnits

/-! ## The names of a source -/

namespace Source

/-- The names that a source lists, whoever provides them. -/
def names : Source → List String
  | directory added => added.units.map (·.1)
  | archive _ added => added.units.map (·.1)

/-- The names of a source that none of the earlier ones shuts out. -/
def offered (earlier : List Source) (source : Source) : List String :=
  source.names.filter fun name => !earlier.any (·.shadows name source)

/-- Whether a source that was registered later goes before this one in a lookup. A directory goes
before all archives. -/
def overtakes (name : String) : Source → Source → Bool
  | directory later, archive .. => (directory later).lists name
  | _, _ => false

/-- The names of a source that a lookup finds there first: it got them when it came, and no later
source has overtaken it since. -/
def provided (earlier : List Source) (source : Source) (later : List Source) : List String :=
  (source.offered earlier).filter fun name => !later.any (·.overtakes name source)

/-- The names that a source provided until a later one overtook it. -/
def overtaken (earlier : List Source) (source : Source) (later : List Source) : List String :=
  (source.offered earlier).filter fun name => later.any (·.overtakes name source)

/-- What is told about a source with so many names in the index. The number of its units is that of
the names that it lists. -/
def summary (indexed : Nat) : Source → SourceSummary
  | directory added => ⟨.directory, added.root, added.units.length, indexed⟩
  | archive _ added => ⟨.archive, added.origin, added.units.length, indexed⟩

variable {earlier later : List Source} {source : Source} {name : String}

@[simp] theorem shadows_archive (number : Nat) (added : Archive) (other : Source) :
    other.shadows name (archive number added) = other.lists name := by
  cases other <;> rfl

@[simp] theorem shadows_directory (added : Directory) (other : Source) :
    other.shadows name (directory added) = (other.inDirectory? name).isSome := by
  cases other <;> simp [shadows, inDirectory?]

@[simp] theorem overtakes_directory (added : Directory) (other : Source) :
    other.overtakes name (directory added) = false := by
  cases other <;> rfl

@[simp] theorem overtakes_archive (number : Nat) (added : Archive) (other : Source) :
    other.overtakes name (archive number added) = (other.inDirectory? name).isSome := by
  cases other <;> simp [overtakes, inDirectory?]

theorem mem_names : name ∈ source.names ↔ source.lists name = true := by
  cases source with
  | directory added =>
    rw [lists_directory]
    exact @Table.mem_names_iff _ ⟨added.units⟩ name
  | archive number added =>
    rw [lists_archive]
    exact @Table.mem_names_iff _ ⟨added.units⟩ name

theorem mem_offered : name ∈ source.offered earlier ↔
    source.lists name = true ∧ ∀ other ∈ earlier, other.shadows name source = false := by
  unfold offered
  rw [List.mem_filter, mem_names]
  simp

theorem mem_provided : name ∈ source.provided earlier later ↔
    name ∈ source.offered earlier ∧ ∀ other ∈ later, other.overtakes name source = false := by
  unfold provided
  rw [List.mem_filter]
  simp

theorem mem_overtaken : name ∈ source.overtaken earlier later ↔
    name ∈ source.offered earlier ∧ ∃ other ∈ later, other.overtakes name source = true := by
  unfold overtaken
  rw [List.mem_filter]
  simp

/-- What no earlier source shuts out is provided, or it has been overtaken. -/
theorem length_offered (earlier : List Source) (source : Source) (later : List Source) :
    (source.offered earlier).length =
      (source.provided earlier later).length + (source.overtaken earlier later).length := by
  unfold provided overtaken
  rw [Nat.add_comm]
  exact List.length_eq_length_filter_add _

end Source

namespace Directory

/-- Of what has been seen and of the units that are kept, no name comes twice. -/
theorem nodup_firstOfEach (units : List (String × List String)) (seen : List String) :
    ((firstOfEach seen units).1.map (·.1)).Nodup ∧
      ∀ name ∈ (firstOfEach seen units).1.map (·.1), name ∉ seen := by
  induction units generalizing seen with
  | nil => exact ⟨List.nodup_nil, fun name hname => nomatch hname⟩
  | cons unit rest ih =>
    unfold firstOfEach
    split
    · exact ih seen
    · next hnew =>
      obtain ⟨hnodup, hunseen⟩ := ih (unit.1 :: seen)
      rw [List.map_cons]
      refine ⟨List.nodup_cons.mpr ⟨?_, hnodup⟩, List.forall_mem_cons.mpr ⟨hnew, ?_⟩⟩
      · intro hagain
        exact hunseen unit.1 hagain List.mem_cons_self
      · intro name hname hseen
        exact hunseen name hname (List.mem_cons_of_mem unit.1 hseen)

/-- The units of a directory have different names, whatever its tree is. -/
theorem nodup_units {volume : Volume} {path suffix : String} {directory : Directory}
    (h : (scan volume path suffix).1 = .ok directory) : (directory.units.map (·.1)).Nodup := by
  unfold scan at h
  split at h
  · cases h
  · next way children hlocate =>
    cases h
    rw [List.map_map]
    exact (nodup_firstOfEach (named suffix ((Node.directory children).files _)) []).1
  · cases h

end Directory

/-- Opening the file that a path leads to is opening what it holds. -/
theorem Archive.openImage_of_openPath {volume : Volume} {path suffix : String} {archive : Archive}
    (h : (openPath volume path suffix).1 = .ok archive) :
    ∃ image origin, (openImage volume image origin suffix).1 = .ok archive := by
  unfold openPath at h
  split at h
  · exact ⟨_, _, h⟩
  · cases h

/-- A source that is registered lists different names, so to count names is to count units. -/
theorem Scene.nodup_names {scene : Scene} {one : Happening} {source : Source}
    (h : scene.registration? one = some source) : source.names.Nodup := by
  have hopened {α : Type} {opened : Except Fault α} {make : α → Source}
      (hsource : opened.toOption.map make = some source) :
      ∃ some, opened = .ok some ∧ source = make some := by
    obtain ⟨some, hsome, rfl⟩ := Option.map_eq_some_iff.mp hsource
    cases opened with
    | error fault => cases hsome
    | ok other =>
      cases hsome
      exact ⟨some, rfl, rfl⟩
  cases one with
  | registerDirectory path =>
    obtain ⟨directory, hscan, rfl⟩ := hopened h
    exact Directory.nodup_units hscan
  | registerArchive path =>
    obtain ⟨archive, hpath, rfl⟩ := hopened h
    obtain ⟨image, origin, himage⟩ := Archive.openImage_of_openPath hpath
    exact Archive.nodup_units himage
  | registerImage image origin =>
    obtain ⟨archive, himage, rfl⟩ := hopened h
    exact Archive.nodup_units himage
  | _ => cases h

/-! ## Which source a lookup tries first -/

namespace Scene.Indexed

variable {name : String} {sources : List Source} {scene : Scene}

theorem contains_directoryUnits (h : Indexed name sources scene) :
    scene.loader.sources.directoryUnits.contains name =
      sources.any fun other => (other.inDirectory? name).isSome := by
  unfold Table.contains
  rw [h.directories, Bool.eq_iff_iff, List.findSome?_isSome_iff, List.any_eq_true]

/-- A name is in one of the indexes exactly if a source lists it. No name that is listed goes
without a place. -/
theorem provides_eq (h : Indexed name sources scene) :
    scene.loader.sources.provides name = sources.any (·.lists name) := by
  unfold Sources.provides
  rw [h.contains_directoryUnits]
  unfold Table.contains
  rw [h.archives, Bool.eq_iff_iff, Bool.or_eq_true, List.any_eq_true, List.any_eq_true]
  constructor
  · rintro (⟨source, hsource, hfile⟩ | hentry)
    · exact ⟨source, hsource, by rw [Source.lists, hfile, Bool.true_or]⟩
    · obtain ⟨place, hplace⟩ := Option.isSome_iff_exists.mp hentry
      obtain ⟨source, hfind, -⟩ := Option.bind_eq_some_iff.mp hplace
      exact ⟨source, List.mem_of_find?_eq_some hfind, List.find?_some hfind⟩
  · intro hlisted
    obtain ⟨first, hfirst⟩ := Option.isSome_iff_exists.mp (List.find?_isSome.mpr hlisted)
    -- The first source that lists the name is in one of the indexes with it.
    have hlists : first.lists name = true := List.find?_some hfirst
    rw [hfirst, Option.bind_some]
    rcases Bool.or_eq_true_iff.mp hlists with hfile | hentry
    · exact .inl ⟨first, List.mem_of_find?_eq_some hfirst, hfile⟩
    · exact .inr hentry

theorem head?_places (h : Indexed name sources scene) (place : Place) :
    (scene.loader.sources.places name).head? = some place ↔
      ∃ earlier source later, sources = earlier ++ source :: later ∧
        name ∈ source.provided earlier later ∧ source.copy? name = some place := by
  have hhead : (scene.loader.sources.places name).head? =
      (sources.findSome? (Source.inDirectory? name)).or
        ((sources.find? (·.lists name)).bind (Source.inArchive? name)) := by
    rw [← h.directories, ← h.archives]
    unfold Sources.places
    cases scene.loader.sources.directoryUnits.get? name <;>
      cases scene.loader.sources.archiveUnits.get? name <;> rfl
  rw [hhead, Option.or_eq_some_iff, isDirectoryCandidate_iff, isArchiveCandidate_iff,
    List.findSome?_eq_none_iff]
  constructor
  · rintro (⟨earlier, directory, later, path, hsources, hpath, rfl, hearlier⟩ |
      ⟨hnone, earlier, number, archive, later, entry, hsources, hentry, rfl, harchives, hdirectories⟩)
    · -- The first directory that lists the name is overtaken by nothing.
      refine ⟨earlier, .directory directory, later, hsources, ?_, by simp [hpath]⟩
      rw [Source.mem_provided, Source.mem_offered]
      refine ⟨⟨by simp [hpath], fun other hother => ?_⟩, by simp⟩
      cases other with
      | directory other => simp [Source.inDirectory?, hearlier other hother]
      | archive number other => rfl
    · -- An archive comes to be tried first only if no directory lists the name at all.
      refine ⟨earlier, .archive number archive, later, hsources, ?_, by simp [hentry]⟩
      rw [Source.mem_provided, Source.mem_offered]
      refine ⟨⟨by simp [hentry], fun other hother => ?_⟩, fun other hother => ?_⟩
      · cases other with
        | directory other => simp [hdirectories other hother]
        | archive before other => simp [harchives before other hother]
      · rw [Source.overtakes_archive, hnone other (by simp [hsources, hother])]
        rfl
  · rintro ⟨earlier, source, later, hsources, hprovided, hcopy⟩
    rw [Source.mem_provided, Source.mem_offered] at hprovided
    obtain ⟨⟨-, hearlier⟩, hlater⟩ := hprovided
    cases source with
    | directory directory =>
      obtain ⟨path, hpath, rfl⟩ := Option.map_eq_some_iff.mp (by simpa using hcopy)
      refine .inl ⟨earlier, directory, later, path, hsources, hpath, rfl, fun other hother => ?_⟩
      simpa [Source.inDirectory?] using hearlier _ hother
    | archive number archive =>
      obtain ⟨entry, hentry, rfl⟩ := Option.map_eq_some_iff.mp (by simpa using hcopy)
      refine .inr ⟨?_, earlier, number, archive, later, entry, hsources, hentry, rfl,
        fun before other hother => ?_, fun other hother => ?_⟩
      · -- No directory lists the name: not one before the archive, and not one behind it.
        intro other hother
        rw [hsources, List.mem_append, List.mem_cons] at hother
        rcases hother with hother | rfl | hother
        · have hunlisted := hearlier other hother
          rw [Source.shadows_archive, Source.lists, Bool.or_eq_false_iff] at hunlisted
          simpa using hunlisted.1
        · rfl
        · simpa using hlater other hother
      · simpa using hearlier _ hother
      · simpa using hearlier _ hother

end Scene.Indexed

/-! ## What is counted -/

namespace Sources

/-- Of units with different names those are entered that are not taken and not in the index. -/
theorem entered_enter (taken : String → Bool) {units : List (String × Place)}
    (h : (units.map (·.1)).Nodup) (index : Table Place) :
    (enter taken index units).2.1 =
      (units.map (·.1)).filter fun name => !(taken name || index.contains name) := by
  induction units generalizing index with
  | nil => rfl
  | cons unit rest ih =>
    obtain ⟨name, place⟩ := unit
    rw [List.map_cons, List.nodup_cons] at h
    rw [List.map_cons, List.filter_cons]
    unfold enter
    split
    · next htaken =>
      rw [if_neg (by simp only [htaken, Bool.not_true, Bool.false_eq_true, not_false_iff])]
      exact ih h.2 index
    · next hfree =>
      rw [if_pos (by simpa using hfree)]
      refine congrArg (List.cons name) ((ih h.2 _).trans (List.filter_congr fun other hother => ?_))
      -- The name that was entered does not come again.
      have hne : other ≠ name := fun heq => h.1 (heq ▸ hother)
      unfold Table.contains
      rw [Table.get?_insertNew_of_ne index place hne]

/-- An index grows by what is entered, and no name is in it twice. -/
theorem size_enter (taken : String → Bool) (units : List (String × Place)) (index : Table Place)
    (h : index.Distinct) :
    (enter taken index units).1.Distinct ∧
      (enter taken index units).1.size = index.size + (enter taken index units).2.1.length := by
  induction units generalizing index with
  | nil => exact ⟨h, rfl⟩
  | cons unit rest ih =>
    obtain ⟨name, place⟩ := unit
    unfold enter
    split
    · exact ih index h
    · next hfree =>
      have hnone : index.get? name = none := by
        rw [Bool.or_eq_true, not_or, Bool.not_eq_true, Bool.not_eq_true] at hfree
        exact Table.contains_eq_false_iff.mp hfree.2
      obtain ⟨hdistinct, hsize⟩ := ih _ (h.insertNew name place)
      refine ⟨hdistinct, hsize.trans ?_⟩
      rw [Table.size_insertNew_of_none place hnone, Nat.add_assoc, Nat.add_comm 1]
      rfl

end Sources

namespace Source

/-- The names of a source that go into an index when it is registered. -/
def entered (sources : Sources) (bound : String → Bool) : Source → List String
  | directory added => (sources.addDirectory bound added).2.1
  | archive _ added => (sources.addArchive bound added).2.1

/-- What is told of the other sources stays as it was written, also where one of them
is overtaken. -/
theorem summaries_addTo (source : Source) (sources : Sources) (bound : String → Bool) :
    (source.addTo sources bound).summaries =
      sources.summaries ++ [source.summary (source.entered sources bound).length] := by
  cases source <;> rfl

end Source

namespace Sources

/-- No name is in an index twice, and the counts are together the size of both indexes. -/
structure Balanced (sources : Sources) : Prop where
  directories : sources.directoryUnits.Distinct
  archives : sources.archiveUnits.Distinct
  total : (sources.summaries.map (·.indexed)).sum =
    sources.directoryUnits.size + sources.archiveUnits.size

theorem Balanced.addTo {sources : Sources} (h : sources.Balanced) (source : Source)
    (bound : String → Bool) : (source.addTo sources bound).Balanced := by
  have htotal : ((source.addTo sources bound).summaries.map (·.indexed)).sum =
      sources.directoryUnits.size + sources.archiveUnits.size +
        (source.entered sources bound).length := by
    rw [source.summaries_addTo, List.map_append, List.sum_append, h.total]
    cases source <;> rfl
  cases source with
  | directory added =>
    obtain ⟨hdistinct, hsize⟩ := size_enter bound
      (added.units.map fun unit => (unit.1, Place.file added.root unit.2)) _ h.directories
    refine ⟨hdistinct, h.archives, htotal.trans ?_⟩
    rw [Nat.add_right_comm]
    exact congrArg (· + sources.archiveUnits.size) hsize.symm
  | archive number added =>
    obtain ⟨hdistinct, hsize⟩ := size_enter
      (fun name => bound name || sources.directoryUnits.contains name)
      (added.units.map fun unit => (unit.1, Place.entry sources.archives.length added unit.2)) _
      h.archives
    refine ⟨h.directories, hdistinct, htotal.trans ?_⟩
    rw [Nat.add_assoc]
    exact congrArg (sources.directoryUnits.size + ·) hsize.symm

/-- The counts are together the number of names in an index, where those in both indexes count
twice. -/
theorem Balanced.sum_eq {sources : Sources} (h : sources.Balanced) :
    (sources.summaries.map (·.indexed)).sum = {name | sources.provides name = true}.ncard +
      {name | sources.directoryUnits.contains name = true ∧
        sources.archiveUnits.contains name = true}.ncard := by
  obtain ⟨files, hfiles, hfilesSize⟩ := h.directories.size_eq
  obtain ⟨entries, hentries, hentriesSize⟩ := h.archives.size_eq
  have hunion : {name | sources.provides name = true} = ↑(files ∪ entries) := by
    ext name
    rw [Finset.mem_coe, Finset.mem_union, hfiles, hentries]
    exact Bool.or_eq_true_iff
  have hinter : {name | sources.directoryUnits.contains name = true ∧
      sources.archiveUnits.contains name = true} = ↑(files ∩ entries) := by
    ext name
    rw [Finset.mem_coe, Finset.mem_inter, hfiles, hentries]
    rfl
  rw [hunion, hinter, Set.ncard_coe_finset, Set.ncard_coe_finset, Finset.card_union_add_card_inter,
    h.total, hfilesSize, hentriesSize]

end Sources

/-! ## What is told -/

/-- What is told of the sources, one after the other. Each count is that of the names which no
earlier source shuts out. -/
structure Told (sources : List Source) (told : List SourceSummary) : Prop where
  length : told.length = sources.length
  counts : ∀ earlier source later, sources = earlier ++ source :: later →
    told[earlier.length]? = some (source.summary (source.offered earlier).length)

theorem Told.concat {sources : List Source} {told : List SourceSummary} (h : Told sources told)
    (source : Source) :
    Told (sources ++ [source]) (told ++ [source.summary (source.offered sources).length]) := by
  constructor
  · simp [h.length]
  · intro earlier other later hsources
    rcases List.eq_nil_or_concat later with rfl | ⟨front, last, rfl⟩
    · obtain ⟨rfl, hlast⟩ := List.append_inj' hsources rfl
      cases hlast
      rw [← h.length, List.getElem?_concat_length]
    · -- The new source is behind this one, and what was told of this one stays.
      rw [List.concat_eq_append, ← List.cons_append, ← List.append_assoc] at hsources
      obtain ⟨rfl, -⟩ := List.append_inj' hsources rfl
      rw [List.getElem?_append_left (by simp [h.length])]
      exact h.counts earlier other front rfl

/-- Whether a happening may register a source, or change files, and does nothing else. -/
def Happening.stocks : Happening → Bool
  | .registerDirectory _ | .registerArchive _ | .registerImage .. | .change _ => true
  | _ => false

namespace Scene

/-- Where nothing is bound, the names of a source that go into an index are those that no earlier
source shuts out. -/
theorem entered_eq {sources : List Source} {scene : Scene}
    (hindexed : ∀ name, Indexed name sources scene)
    (hfree : ∀ name, scene.loader.binding? name = none) {source : Source}
    (hnodup : source.names.Nodup) :
    source.entered scene.loader.sources scene.loader.isBound = source.offered sources := by
  have hunbound : ∀ name, scene.loader.isBound name = false :=
    fun name => Table.contains_eq_false_iff.mpr (hfree name)
  cases source with
  | directory added =>
    -- A directory is kept out by nothing but an earlier directory.
    have hnames : (added.units.map fun unit => (unit.1, Place.file added.root unit.2)).map (·.1) =
        (Source.directory added).names := List.map_map
    refine (Sources.entered_enter _ (hnames ▸ hnodup) _).trans (hnames ▸ List.filter_congr ?_)
    intro name hname
    rw [hunbound, Bool.false_or, (hindexed name).contains_directoryUnits]
    simp only [Source.shadows_directory]
  | archive number added =>
    -- An archive is kept out by every earlier source.
    have hnames : (added.units.map fun unit =>
        (unit.1, Place.entry scene.loader.sources.archives.length added unit.2)).map (·.1) =
          (Source.archive number added).names := List.map_map
    refine (Sources.entered_enter _ (hnames ▸ hnodup) _).trans (hnames ▸ List.filter_congr ?_)
    intro name hname
    have hprovides := (hindexed name).provides_eq
    unfold Sources.provides at hprovides
    rw [hunbound, Bool.false_or, hprovides]
    simp only [Source.shadows_archive]

theorem told_next {sources : List Source} {scene : Scene}
    (hindexed : ∀ name, Indexed name sources scene)
    (hfree : ∀ name, scene.loader.binding? name = none) (h : Told sources scene.loader.summaries)
    (one : Happening) :
    Told (sources ++ (scene.registration? one).toList) (scene.next one).loader.summaries := by
  unfold Loader.summaries at h ⊢
  rw [sources_next]
  cases hsource : scene.registration? one with
  | none =>
    rw [Option.toList_none, List.append_nil]
    exact h
  | some source =>
    dsimp only
    rw [source.summaries_addTo, entered_eq hindexed hfree (nodup_names hsource)]
    exact h.concat source

/-- As long as nothing is bound, each count is that of the names which no earlier source shuts
out. -/
theorem told_after {sources : List Source} {scene : Scene}
    (hindexed : ∀ name, Indexed name sources scene) (h : Told sources scene.loader.summaries)
    (history : List Happening)
    (hfree : ∀ name, (scene.after history).loader.binding? name = none) :
    Told (sources ++ scene.registered history) (scene.after history).loader.summaries := by
  induction history generalizing scene sources with
  | nil =>
    unfold registered
    rw [List.append_nil]
    exact h
  | cons one rest ih =>
    -- What is bound stays bound, so nothing was bound before.
    have hbefore {scene : Scene} (more : List Happening)
        (hlater : ∀ name, (scene.after more).loader.binding? name = none) :
        ∀ name, scene.loader.binding? name = none := by
      intro name
      cases hbound : scene.loader.binding? name with
      | none => rfl
      | some unit => cases (binding_after more hbound).symm.trans (hlater name)
    unfold registered
    rw [← List.append_assoc]
    refine ih (fun name => indexed_next (fun _ => hindexed name) one (hbefore rest hfree name))
      (told_next hindexed (hbefore (one :: rest) hfree) h one) hfree

theorem balanced_after {scene : Scene} (h : scene.loader.sources.Balanced)
    (history : List Happening) : (scene.after history).loader.sources.Balanced := by
  refine after_induction (motive := fun s => s.loader.sources.Balanced) history h fun s one hs => ?_
  rw [sources_next]
  cases s.registration? one with
  | none => exact hs
  | some source => exact hs.addTo source _

/-- Registrations bind nothing, so a name that is free before them is free when the next
one comes. -/
theorem units_after_stocks {scene : Scene} {history : List Happening}
    (h : ∀ one ∈ history, one.stocks = true) :
    (scene.after history).loader.memo.units = scene.loader.memo.units := by
  induction history generalizing scene with
  | nil => rfl
  | cons one rest ih =>
    obtain ⟨hone, hrest⟩ := List.forall_mem_cons.mp h
    obtain ⟨entry, hwrites, hledger⟩ := step_writes scene one
    refine (ih hrest).trans ((congrArg Ledger.units hledger).trans ?_)
    cases hwrites with
    | nothing => rfl
    | registered => rfl
    | _ => cases hone

/-- While sources are only registered, the indexes hold for every name what the sources give. -/
theorem indexed_after_stocks {start : Scene} (hsources : start.loader.sources = {})
    (hunits : start.loader.memo.units = .empty) {history : List Happening}
    (hstocks : ∀ one ∈ history, one.stocks = true) (name : String) :
    (start.after history).loader.binding? name = none ∧
      Indexed name (start.registered history) (start.after history) := by
  have hfree : (start.after history).loader.binding? name = none := by
    unfold Loader.binding?
    rw [units_after_stocks hstocks, hunits]
    rfl
  refine ⟨hfree, @indexed_after name [] start (fun _ => ⟨?_, ?_⟩) history hfree⟩ <;>
    rw [hsources] <;> rfl

/-- The names that are in both indexes are those that have been overtaken. -/
theorem Indexed.both_iff {name : String} {sources : List Source} {scene : Scene}
    (h : Indexed name sources scene) :
    scene.loader.sources.directoryUnits.contains name = true ∧
        scene.loader.sources.archiveUnits.contains name = true ↔
      ∃ earlier source later, sources = earlier ++ source :: later ∧
        name ∈ source.overtaken earlier later := by
  rw [h.contains_directoryUnits, List.any_eq_true]
  unfold Table.contains
  rw [h.archives, Option.isSome_iff_exists]
  simp only [isArchiveCandidate_iff]
  constructor
  · rintro ⟨⟨other, hother, hfile⟩, place, earlier, number, archive, later, entry, hsources, hentry,
      -, harchives, hdirectories⟩
    have hearlier : ∀ source ∈ earlier, source.lists name = false := by
      intro source hsource
      cases source with
      | directory directory => simp [hdirectories directory hsource]
      | archive before archive => simp [harchives before archive hsource]
    refine ⟨earlier, .archive number archive, later, hsources, ?_⟩
    rw [Source.mem_overtaken, Source.mem_offered]
    refine ⟨⟨by simp [hentry], fun source hsource => ?_⟩, other, ?_, ?_⟩
    · rw [Source.shadows_archive]
      exact hearlier source hsource
    · -- The directory that lists the name is neither before the archive nor the archive.
      rw [hsources, List.mem_append, List.mem_cons] at hother
      rcases hother with hother | rfl | hother
      · have hunlisted := hearlier other hother
        rw [Source.lists, hfile] at hunlisted
        cases hunlisted
      · cases hfile
      · exact hother
    · rw [Source.overtakes_archive]
      exact hfile
  · rintro ⟨earlier, source, later, hsources, hovertaken⟩
    rw [Source.mem_overtaken, Source.mem_offered] at hovertaken
    obtain ⟨⟨hlists, hearlier⟩, other, hother, hovertakes⟩ := hovertaken
    cases source with
    | directory directory => simp at hovertakes
    | archive number archive =>
      rw [Source.overtakes_archive] at hovertakes
      rw [Source.lists_archive] at hlists
      obtain ⟨entry, hentry⟩ := Option.isSome_iff_exists.mp hlists
      refine ⟨⟨other, by simp [hsources, hother], hovertakes⟩, _, earlier, number, archive, later,
        entry, hsources, hentry, rfl, fun before other hother => ?_, fun other hother => ?_⟩
      · simpa using hearlier _ hother
      · simpa using hearlier _ hother

end Scene

set_option maxRecDepth 20000 in
private theorem summaries_parcelFirst : (doubled.after parcelFirst).loader.summaries =
    [⟨.archive, "parcel", 1, 1⟩, ⟨.directory, "/one", 1, 1⟩] := by cbv

private theorem stocks_parcelFirst : ∀ one ∈ parcelFirst, one.stocks = true := by
  simp [parcelFirst, Happening.stocks]

private theorem isIndexed_parcelFirst :
    {name | (doubled.after parcelFirst).loader.isIndexed name = true} = {"a"} := by
  ext name
  have hindexed := (@Scene.indexed_after_stocks doubled rfl rfl _ stocks_parcelFirst name).2
  rw [registered_parcelFirst] at hindexed
  have hnames : (doubled.after parcelFirst).loader.isIndexed name = (name == "a") := by
    refine hindexed.provides_eq.trans ?_
    cases hname : name == "a" <;> simp [parcelArchive, List.lookup_cons, hname]
  simp [hnames]

/-- A count may be more than the number of names that the source provides, and the counts of all
sources may be more than there are names in the indexes. The archive has the only unit until the
directory with a unit of that name comes. -/
theorem counts_may_be_too_high :
    (¬ ∀ (start : Scene) (history : List Happening), start.loader.sources = {} →
      start.loader.memo = {} → (∀ one ∈ history, one.stocks = true) →
      ∀ earlier source later, start.registered history = earlier ++ source :: later →
        (start.after history).loader.summaries[earlier.length]? =
          some (source.summary (source.provided earlier later).length)) ∧
    ¬ ∀ (start : Scene) (history : List Happening), start.loader.sources = {} →
      start.loader.memo = {} → (∀ one ∈ history, one.stocks = true) →
      ((start.after history).loader.summaries.map (·.indexed)).sum =
        {name | (start.after history).loader.isIndexed name = true}.ncard := by
  refine ⟨?_, ?_⟩
  · intro hevery
    have hfirst := hevery doubled parcelFirst rfl rfl stocks_parcelFirst [] _ _
      registered_parcelFirst
    rw [summaries_parcelFirst] at hfirst
    cases hfirst
  · intro hevery
    have hsum := hevery doubled parcelFirst rfl rfl stocks_parcelFirst
    rw [summaries_parcelFirst, isIndexed_parcelFirst, Set.ncard_singleton] at hsum
    cases hsum

/-- On a loader that has bound nothing, and while sources are only registered, the count of a source
is that of the names which it provides and of those which have been overtaken. The first place that a
lookup tries is that of the source which provides the name. Only an archive is overtaken, and only
by a directory behind it. So all counts together are more than the names in the indexes by as many
as have been overtaken. -/
theorem counts_of_registered {start : Scene} (hsources : start.loader.sources = {})
    (hunits : start.loader.memo.units = .empty) {history : List Happening}
    (hstocks : ∀ one ∈ history, one.stocks = true) :
    let loader := (start.after history).loader
    loader.summaries.length = (start.registered history).length ∧
    (∀ earlier source later, start.registered history = earlier ++ source :: later →
      loader.summaries[earlier.length]? = some (source.summary
        ((source.provided earlier later).length + (source.overtaken earlier later).length)) ∧
      (source.overtaken earlier later ≠ [] →
        (∃ number archive, source = .archive number archive) ∧
          ∃ directory, .directory directory ∈ later)) ∧
    (∀ name place, (loader.sources.places name).head? = some place ↔
      ∃ earlier source later, start.registered history = earlier ++ source :: later ∧
        name ∈ source.provided earlier later ∧ source.copy? name = some place) ∧
    (loader.summaries.map (·.indexed)).sum = {name | loader.isIndexed name = true}.ncard +
      {name | ∃ earlier source later, start.registered history = earlier ++ source :: later ∧
        name ∈ source.overtaken earlier later}.ncard := by
  intro loader
  have hindexed := Scene.indexed_after_stocks hsources hunits hstocks
  -- The counts were right when they were made, and no later source changes them.
  have htold : Told (start.registered history) loader.summaries := by
    have hstart : ∀ name, Scene.Indexed name [] start :=
      fun name => (@Scene.indexed_after_stocks start hsources hunits [] (by simp) name).2
    refine Scene.told_after hstart ?_ history fun name => (hindexed name).1
    unfold Loader.summaries
    rw [hsources]
    exact ⟨rfl, fun earlier source later h => by cases earlier <;> cases h⟩
  -- The indexes and the counts are filled together.
  have hbalanced : loader.sources.Balanced := by
    refine Scene.balanced_after ?_ history
    rw [hsources]
    exact ⟨Table.distinct_empty, Table.distinct_empty, rfl⟩
  refine ⟨htold.length, ?_, fun name place => (hindexed name).2.head?_places place, ?_⟩
  · intro earlier source later hregistered
    rw [← source.length_offered]
    refine ⟨htold.counts earlier source later hregistered, fun hovertaken => ?_⟩
    -- One name that was overtaken shows by whom: only directories come in front of archives.
    obtain ⟨name, hname⟩ := List.exists_mem_of_ne_nil _ hovertaken
    obtain ⟨-, other, hother, hovertakes⟩ := Source.mem_overtaken.mp hname
    cases source with
    | directory directory => simp at hovertakes
    | archive number archive =>
      cases other with
      | directory directory => exact ⟨⟨number, archive, rfl⟩, directory, hother⟩
      | archive before other => cases hovertakes
  · simp only [← (hindexed _).2.both_iff]
    exact hbalanced.sum_eq

/-- The archive provides nothing any more, and is still told to have a unit in the index. -/
theorem counts_of_registered_overtaken :
    let loader := (doubled.after parcelFirst).loader
    let archive : Source := .archive 0 parcelArchive
    let directory : Source := .directory ⟨"/one", [("a", "/one/a.unit")]⟩
    archive.provided [] [directory] = [] ∧
      loader.summaries[0]? = some (archive.summary 1) ∧
      directory.provided [archive] [] = ["a"] ∧
      (loader.sources.places "a").head? = some (.file "/one" "/one/a.unit") ∧
      {name | ∃ earlier source later, doubled.registered parcelFirst = earlier ++ source :: later ∧
        name ∈ source.overtaken earlier later}.ncard = 1 := by
  intro loader archive directory
  obtain ⟨-, hcounts, hfirst, hsum⟩ :=
    @counts_of_registered doubled rfl rfl parcelFirst stocks_parcelFirst
  obtain ⟨htold, -⟩ := hcounts [] _ _ registered_parcelFirst
  have hnames : archive.offered [] = ["a"] := rfl
  have hovertakes : directory.overtakes "a" archive = true := rfl
  have hprovided : archive.provided [] [directory] = [] := by simp [Source.provided, hnames, hovertakes]
  have hovertaken : archive.overtaken [] [directory] = ["a"] := by
    simp [Source.overtaken, hnames, hovertakes]
  have hgiven : directory.provided [archive] [] = ["a"] := rfl
  refine ⟨hprovided, ?_, hgiven, ?_, ?_⟩
  · rw [hprovided, hovertaken] at htold
    exact htold
  · exact (hfirst "a" _).mpr ⟨[archive], directory, [], registered_parcelFirst,
      by rw [hgiven]; exact List.mem_cons_self, rfl⟩
  · rw [summaries_parcelFirst, isIndexed_parcelFirst, Set.ncard_singleton] at hsum
    exact (Nat.add_left_cancel hsum).symm

end LayeredUnits
