import LayeredUnits.Proofs.Candidates
import LayeredUnits.Proofs.QuietHost
import LayeredUnits.Proofs.Wholeness

/-!
# Copies that cannot be read

A copy that is missing, empty, too large or corrupt is passed over with a
warning, and the search goes on. But only two copies are ever tried: a source
that is registered later is shut out by an earlier one that lists the same
name, and that is decided when it is registered, before anything is read. So a
copy that cannot be read does stand in the way of those that it has shut out.

* `isOffered_iff` — the copies that no earlier source has shut out are the two
  candidates.
* `not_every_readable_copy_is_found` — a copy that cannot be read hides the
  copy of a directory that is registered later.
* `readable_offered_copy_is_found` — but it hides no copy that is offered,
  whichever was registered first.
-/

namespace LayeredUnits

namespace Source

/-- The copy that a source has of a unit, as it has listed it. -/
def copy? (name : String) (source : Source) : Option Place :=
  (source.inDirectory? name).or (source.inArchive? name)

/-- Whether a source shuts a later one out, for this name. An archive does not shut a directory
out. -/
def shadows (name : String) : Source → Source → Bool
  | .archive .., .directory _ => false
  | earlier, _ => earlier.lists name

@[simp] theorem lists_directory (name : String) (added : Directory) :
    (directory added).lists name = (added.units.lookup name).isSome := by
  simp [lists, inDirectory?, inArchive?]

@[simp] theorem lists_archive (name : String) (number : Nat) (added : Archive) :
    (archive number added).lists name = (added.units.lookup name).isSome := by
  simp [lists, inDirectory?, inArchive?]

@[simp] theorem copy?_directory (name : String) (added : Directory) :
    (directory added).copy? name = (added.units.lookup name).map (.file added.root) :=
  Option.or_none

@[simp] theorem copy?_archive (name : String) (number : Nat) (added : Archive) :
    (archive number added).copy? name = (added.units.lookup name).map (.entry number added) := rfl

end Source

/-- The copy is that of a source which no earlier one has shut out. -/
def IsOffered (sources : List Source) (name : String) (place : Place) : Prop :=
  ∃ earlier source later, sources = earlier ++ source :: later ∧
    source.copy? name = some place ∧ ∀ other ∈ earlier, other.shadows name source = false

/-- The two copies that are tried are the ones that no earlier source has shut out. -/
theorem isOffered_iff {sources : List Source} {name : String} {place : Place} :
    IsOffered sources name place ↔
      IsDirectoryCandidate sources name place ∨ IsArchiveCandidate sources name place := by
  constructor
  · -- A copy of a directory is shut out by directories, and one of an
    -- archive by everything before it.
    rintro ⟨earlier, source, later, hsources, hcopy, hearlier⟩
    cases source with
    | directory directory =>
      obtain ⟨path, hpath, rfl⟩ := Option.map_eq_some_iff.mp (by simpa using hcopy)
      refine .inl ⟨earlier, directory, later, path, hsources, hpath, rfl, ?_⟩
      intro other hother
      simpa [Source.shadows] using hearlier _ hother
    | archive number archive =>
      obtain ⟨entry, hentry, rfl⟩ := Option.map_eq_some_iff.mp (by simpa using hcopy)
      refine .inr ⟨earlier, number, archive, later, entry, hsources, hentry, rfl, ?_, ?_⟩
      · intro before other hother
        simpa [Source.shadows] using hearlier _ hother
      · intro directory hdirectory
        simpa [Source.shadows] using hearlier _ hdirectory
  · rintro (⟨earlier, directory, later, path, hsources, hpath, rfl, hdirectories⟩ |
      ⟨earlier, number, archive, later, entry, hsources, hentry, rfl, harchives, hdirectories⟩)
    · refine ⟨earlier, .directory directory, later, hsources, by simp [hpath], ?_⟩
      intro other hother
      cases other with
      | directory other => simp [Source.shadows, hdirectories other hother]
      | archive number other => rfl
    · refine ⟨earlier, .archive number archive, later, hsources, by simp [hentry], ?_⟩
      intro other hother
      cases other with
      | directory other => simp [Source.shadows, hdirectories other hother]
      | archive before other => simp [Source.shadows, harchives before other hother]

/-! ## What a copy that can be read is -/

/-- The bytes of a unit are not none, and not too many: the limits are checked before anything is
read. -/
theorem Place.size_of_read {place : Place} {volume : Volume} {limit : Nat} {bytes : ByteArray}
    (h : place.read volume limit = .ok bytes) : 0 < bytes.size ∧ bytes.size ≤ limit := by
  obtain ⟨opened, hwhole⟩ := place.reads_whole volume limit
  obtain ⟨blob, -, hfits, -, hsize⟩ := hwhole.of_answer h
  unfold Blob.Fits at hfits
  omega

namespace Scene

/-- What a loader tries for a name that is not bound is what its sources offer. -/
theorem mem_places_iff {start : Scene} (hstart : start.loader.sources = {})
    (history : List Happening) {name : String}
    (hfree : (start.after history).loader.binding? name = none) (place : Place) :
    place ∈ (start.after history).loader.sources.places name ↔
      IsOffered (start.registered history) name place := by
  have hindexed : Indexed name (start.registered history) (start.after history) := by
    refine @indexed_after name [] start (fun _ => ⟨?_, ?_⟩) history hfree <;> rw [hstart] <;> rfl
  rw [Sources.mem_places, hindexed.directories, hindexed.archives, isDirectoryCandidate_iff,
    isArchiveCandidate_iff, isOffered_iff]

end Scene

/-! ## Loads -/

/-- A lookup that finds a copy gives the warnings of its search, one for each copy that it has
passed over. -/
theorem Loader.events_finishLookup {loader : Loader} {volume : Volume} {ticket : Ticket}
    {unit : Shared CodeUnit}
    (hreply : (loader.searching.tryPlaces volume ticket.name
      (ticket.sources.places ticket.name)).reply = some unit) :
    (loader.finishLookup volume ticket none).events =
      (loader.searching.tryPlaces volume ticket.name
        (ticket.sources.places ticket.name)).events := by
  unfold searching at hreply ⊢
  dsimp only [finishLookup]
  rw [hreply]

namespace Layers

/-- A load that has found a copy: those before it could not be read, and there is a warning for
each. -/
structure FoundAt (volume : Volume) (limit : Nat) (name : String) (failed : List Place)
    (place : Place) (loaded : Step Reply) : Prop where
  skipped : Loader.Unreadable volume limit failed
  warned : ∃ more, loaded.events = Loader.skips volume limit name failed ++ more
  unit : ∃ unit, loaded.reply = .unit (.ok unit) ∧ unit.value.name = name ∧
    place.NamesSource unit.value.origin ∧ place.read volume limit = .ok unit.value.bytes ∧
    0 < unit.value.bytes.size ∧ unit.value.bytes.size ≤ limit

/-- Over a quiet host that has nothing, a load finds the first copy that can be read. -/
theorem load_of_readable {layers : Layers} {index : Nat} {loader : Loader} {host : Host}
    {name : String} (wantsLink : Bool) (hlayer : layers.layers[index]? = some ⟨loader, host⟩)
    (hquiet : host.IsQuiet) (hhost : host.unit? name = none) (hunrecalled : loader.Unrecalled name)
    (hreadable : ¬ Loader.Unreadable layers.volume loader.options.maxUnitSize
      (loader.sources.places name)) :
    ∃ failed place rest, loader.sources.places name = failed ++ place :: rest ∧
      FoundAt layers.volume loader.options.maxUnitSize name failed place
        (layers.call index (.load name wantsLink)) := by
  obtain ⟨later, -, hloaded⟩ := load_of_quiet name wantsLink hlayer hquiet
  dsimp only at hloaded
  rw [hhost, Loader.resolve_of_unrecalled layers.volume none hunrecalled] at hloaded
  rcases Loader.tryPlaces_cases layers.volume name (loader.sources.places name)
      loader.asking.searching with
    ⟨hall, -, -⟩ | ⟨failed, place, rest, bytes, hplaces, hfailed, hread, hreply, -⟩
  · exact absurd hall hreadable
  · have hsearched := @Loader.events_finishLookup loader.asking _ (loader.ticketFor name) _ hreply
    obtain ⟨hfinished, -⟩ :=
      @Loader.finishLookup_of_found loader.asking _ (loader.ticketFor name) _ _ hreply rfl
    refine ⟨failed, place, rest, hplaces, hfailed, ?_, ?_⟩
    · -- What is tried first fails, and is told; then comes the rest of the search.
      have hwarned := Loader.tryPlaces_append name (place :: rest) loader.asking.searching hfailed
      rw [← hplaces] at hwarned
      rw [hloaded]
      exact ⟨_, hsearched.trans (congrArg Turn.events hwarned)⟩
    · obtain ⟨unit, domains, packages, issued, hname, hbytes, horigin, hkept, -⟩ :=
        Loader.define_eq (loader.asking.searching.readTimes (failed.length + 1)) layers.volume name
          bytes place
      have hown : loader.memo.boundUnit name unit = unit :=
        Table.kept_of_none unit hunrecalled.unbound
      refine ⟨unit, ?_, hname, Place.namesSource_iff.mpr horigin, hbytes.symm ▸ hread,
        hbytes.symm ▸ Place.size_of_read hread⟩
      rw [hloaded, ← hown]
      exact congrArg Reply.unit (hfinished.trans (congrArg Except.ok hkept))

end Layers

/-- Two directories with a unit of the same name. The first copy is empty. -/
def doubled : Scene :=
  ⟨.create 0 {} {},
    { root := .directory [("one", .directory [("a.unit", .file 0)]),
        ("two", .directory [("a.unit", .file 1)])]
      contents := #[⟨#[]⟩, ⟨#[1]⟩] }, [], 0⟩

/-- The second directory lists the name, and its copy can be read. But it has been shut out, so the
load fails. -/
theorem not_every_readable_copy_is_found :
    ¬ ∀ (start : Scene) (history : List Happening) (name : String) (layers : Layers) (index : Nat)
        (host : Host),
      start.loader.sources = {} → (start.after history).loader.Unrecalled name →
      layers.layers[index]? = some ⟨(start.after history).loader, host⟩ → host.IsQuiet →
      host.unit? name = none →
      (∃ source ∈ start.registered history, ∃ place bytes, source.copy? name = some place ∧
        place.read layers.volume (start.after history).loader.options.maxUnitSize = .ok bytes) →
      ∃ unit, (layers.call index (.load name false)).reply = .unit (.ok unit) := by
  intro hevery
  let history : List Happening := [.registerDirectory "/one", .registerDirectory "/two"]
  let layers : Layers := ⟨doubled.volume, [⟨(doubled.after history).loader, .none⟩]⟩
  have hfails : (layers.call 0 (.load "a" false)).reply =
      .unit (.error (.unitNotFound ⟨⟨0, 1⟩, ⟨"a", .sources 2 0⟩⟩)) := by cbv
  have hsources : doubled.registered history = [.directory ⟨"/one", [("a", "/one/a.unit")]⟩,
      .directory ⟨"/two", [("a", "/two/a.unit")]⟩] := by cbv
  have hread : (Place.file "/two" "/two/a.unit").read doubled.volume
      (doubled.after history).loader.options.maxUnitSize = .ok ⟨#[1]⟩ := by cbv
  obtain ⟨unit, hloads⟩ := hevery doubled history "a" layers 0 .none rfl ⟨by cbv, by cbv⟩ rfl trivial
    rfl ⟨.directory ⟨"/two", [("a", "/two/a.unit")]⟩, by rw [hsources]; simp, _, _, rfl, hread⟩
  cases hfails.symm.trans hloads

/-- A load finds a copy that can be read if there is one that no earlier source has shut out. The
other such copies are at most passed over with a warning. -/
theorem readable_offered_copy_is_found {start : Scene} (hstart : start.loader.sources = {})
    (history : List Happening) {name : String}
    (hunrecalled : (start.after history).loader.Unrecalled name) {layers : Layers} {index : Nat}
    {host : Host} (hlayer : layers.layers[index]? = some ⟨(start.after history).loader, host⟩)
    (hquiet : host.IsQuiet) (hhost : host.unit? name = none) (wantsLink : Bool)
    (hreadable : ∃ place bytes, IsOffered (start.registered history) name place ∧
      place.read layers.volume (start.after history).loader.options.maxUnitSize = .ok bytes) :
    ∃ failed place, (∀ other ∈ failed, IsOffered (start.registered history) name other) ∧
      IsOffered (start.registered history) name place ∧
      Layers.FoundAt layers.volume (start.after history).loader.options.maxUnitSize name failed
        place (layers.call index (.load name wantsLink)) := by
  obtain ⟨readable, bytes, hoffered, hread⟩ := hreadable
  have htried := Scene.mem_places_iff hstart history hunrecalled.unbound
  -- The copy that can be read is among those that are tried, so not all of them fail.
  have hsome : ¬ Loader.Unreadable layers.volume (start.after history).loader.options.maxUnitSize
      ((start.after history).loader.sources.places name) := by
    intro hall
    obtain ⟨fault, hfault⟩ := hall readable ((htried readable).mpr hoffered)
    cases hread.symm.trans hfault
  obtain ⟨failed, place, rest, hplaces, hfound⟩ :=
    Layers.load_of_readable wantsLink hlayer hquiet hhost hunrecalled hsome
  refine ⟨failed, place, ?_, ?_, hfound⟩
  · intro other hother
    exact (htried other).mp (hplaces ▸ List.mem_append_left _ hother)
  · exact (htried place).mp (hplaces ▸ List.mem_append_right _ List.mem_cons_self)

/-- The archive comes first, and then a directory with an empty copy. -/
def parcelFirst : List Happening := [.registerImage parcel "parcel", .registerDirectory "/one"]

set_option maxRecDepth 20000 in
theorem registered_parcelFirst : doubled.registered parcelFirst =
    [.archive 0 parcelArchive, .directory ⟨"/one", [("a", "/one/a.unit")]⟩] := by cbv

set_option maxRecDepth 20000 in
private theorem unrecalled_parcelFirst : (doubled.after parcelFirst).loader.Unrecalled "a" :=
  ⟨by cbv, by cbv⟩

set_option maxRecDepth 20000 in
private theorem read_doubled : (Place.entry 0 parcelArchive "a.unit").read doubled.volume
    defaultMaxUnitSize = .ok ⟨#[7]⟩ := by cbv

/-- The archive is not shut out by a directory that comes later, whose copy is tried first and
cannot be read. -/
theorem readable_offered_copy_is_found_packed :
    let loader := (doubled.after parcelFirst).loader
    (Place.file "/one" "/one/a.unit").read doubled.volume defaultMaxUnitSize =
        .error (.size "/one/a.unit" 0 defaultMaxUnitSize) ∧
      ∃ unit, (Layers.call ⟨doubled.volume, [⟨loader, .none⟩]⟩ 0 (.load "a" false)).reply =
        .unit (.ok unit) := by
  intro loader
  have hoffered : IsOffered (doubled.registered parcelFirst) "a"
      (.entry 0 parcelArchive "a.unit") := by
    refine ⟨[], _, _, registered_parcelFirst, ?_, by simp⟩
    rw [Source.copy?_archive]
    rfl
  have hlimit : loader.options.maxUnitSize = defaultMaxUnitSize :=
    congrArg Options.maxUnitSize (Scene.options_after doubled parcelFirst)
  obtain ⟨failed, place, -, -, hfound⟩ :=
    @readable_offered_copy_is_found doubled rfl parcelFirst "a" unrecalled_parcelFirst
      ⟨doubled.volume, [⟨loader, .none⟩]⟩ 0 .none rfl trivial rfl false
      ⟨_, _, hoffered, by rw [hlimit]; exact read_doubled⟩
  obtain ⟨unit, hreply, -⟩ := hfound.unit
  exact ⟨by cbv, unit, hreply⟩

end LayeredUnits
