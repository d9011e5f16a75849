import Mathlib
import LayeredUnits.Proofs.Binding
import LayeredUnits.Proofs.Nesting

/-!
# Which copy of a unit is found

A loader keeps two indexes. Each registration adds to one of them, by rules
that look at what is there: a directory passes over what a directory has, an
archive over what a directory or an archive has, and both over what is bound.
This module says what the indexes hold in terms of the sources that have been
registered, as a list, without the indexes.

* `indexed_next`, `indexed_after` — for a name that is not bound the indexes
  hold the first directory that lists it, and the first source that lists it if
  that is an archive. A name that is not bound now never was, so no
  registration has passed it over as bound.
* `answeredAtOnce_hosted`, `answeredAtOnce_searched` — what a lookup comes to
  whose host answers without using the loader.
* `exact_resolution` — both for every history, and for every load of stacked
  loaders whose host does not use the loader.
-/

namespace LayeredUnits

/-! ## Candidates among the registered sources -/

namespace Source

/-- The file that a directory has for a name, as its walk has listed it. -/
def inDirectory? (name : String) : Source → Option Place
  | directory added => (added.units.lookup name).map (.file added.root)
  | archive .. => none

/-- The entry that an archive has for a name, under the number with which it was registered. -/
def inArchive? (name : String) : Source → Option Place
  | directory _ => none
  | archive number added => (added.units.lookup name).map (.entry number added)

/-- Whether the source lists a name. Whether its copy can be read is another question. -/
def lists (name : String) (source : Source) : Bool :=
  (source.inDirectory? name).isSome || (source.inArchive? name).isSome

end Source

/-- The file of the earliest directory that lists the name. There is at most one such place. -/
def IsDirectoryCandidate (sources : List Source) (name : String) (place : Place) : Prop :=
  ∃ earlier directory later path,
    sources = earlier ++ .directory directory :: later ∧
    directory.units.lookup name = some path ∧ place = .file directory.root path ∧
    ∀ other, .directory other ∈ earlier → other.units.lookup name = none

/-- The entry of the earliest archive that lists the name, unless a directory that was registered
before that archive lists it. -/
def IsArchiveCandidate (sources : List Source) (name : String) (place : Place) : Prop :=
  ∃ earlier number archive later entry,
    sources = earlier ++ .archive number archive :: later ∧
    archive.units.lookup name = some entry ∧ place = .entry number archive entry ∧
    (∀ before other, .archive before other ∈ earlier → other.units.lookup name = none) ∧
    ∀ directory, .directory directory ∈ earlier → directory.units.lookup name = none

/-- The source that a unit read at a place has to name: the directory by its root, or the archive by
what it is known by. -/
inductive Place.NamesSource : Place → Origin → Prop
  | directory (root path : String) : NamesSource (.file root path) (.directory root)
  | archive (number : Nat) (archive : Archive) (entry : String) :
      NamesSource (.entry number archive entry) (.archive archive.origin)

theorem Place.namesSource_iff {place : Place} {origin : Origin} :
    place.NamesSource origin ↔ origin = place.origin := by
  constructor
  · rintro (_ | _) <;> rfl
  · rintro rfl
    cases place with
    | file root path => exact .directory root path
    | entry number archive entry => exact .archive number archive entry

theorem isDirectoryCandidate_iff {sources : List Source} {name : String} {place : Place} :
    sources.findSome? (Source.inDirectory? name) = some place ↔
      IsDirectoryCandidate sources name place := by
  rw [List.findSome?_eq_some_iff]
  constructor
  · rintro ⟨earlier, source, later, hsources, hfile, hearlier⟩
    cases source with
    | archive number archive => cases hfile
    | directory directory =>
      obtain ⟨path, hpath, rfl⟩ := Option.map_eq_some_iff.mp hfile
      exact ⟨earlier, directory, later, path, hsources, hpath, rfl,
        fun other hother => Option.map_eq_none_iff.mp (hearlier _ hother)⟩
  · rintro ⟨earlier, directory, later, path, hsources, hpath, rfl, hearlier⟩
    refine ⟨earlier, .directory directory, later, hsources, ?_, ?_⟩
    · exact Option.map_eq_some_iff.mpr ⟨path, hpath, rfl⟩
    · intro source hsource
      cases source with
      | archive number archive => rfl
      | directory other => exact Option.map_eq_none_iff.mpr (hearlier other hsource)

theorem isArchiveCandidate_iff {sources : List Source} {name : String} {place : Place} :
    (sources.find? (·.lists name)).bind (Source.inArchive? name) = some place ↔
      IsArchiveCandidate sources name place := by
  rw [Option.bind_eq_some_iff]
  constructor
  · -- The first source that lists the name is an archive, and no source before it lists the name.
    rintro ⟨source, hfind, hentry⟩
    obtain ⟨hlists, earlier, later, hsources, hearlier⟩ := List.find?_eq_some_iff_append.mp hfind
    cases source with
    | directory directory => cases hentry
    | archive number archive =>
      obtain ⟨entry, hlookup, rfl⟩ := Option.map_eq_some_iff.mp hentry
      refine ⟨earlier, number, archive, later, entry, hsources, hlookup, rfl, ?_, ?_⟩
      · intro before other hother
        simpa [Source.lists, Source.inDirectory?, Source.inArchive?] using hearlier _ hother
      · intro directory hdirectory
        simpa [Source.lists, Source.inDirectory?, Source.inArchive?] using hearlier _ hdirectory
  · rintro ⟨earlier, number, archive, later, entry, hsources, hlookup, rfl, harchives,
      hdirectories⟩
    refine ⟨.archive number archive, List.find?_eq_some_iff_append.mpr
      ⟨by simp [Source.lists, Source.inArchive?, hlookup], earlier, later, hsources, ?_⟩,
      Option.map_eq_some_iff.mpr ⟨entry, hlookup, rfl⟩⟩
    intro source hsource
    cases source with
    | directory directory =>
      simp [Source.lists, Source.inDirectory?, Source.inArchive?, hdirectories directory hsource]
    | archive before other =>
      simp [Source.lists, Source.inDirectory?, Source.inArchive?, harchives before other hsource]

namespace Scene

/-! ## What the indexes hold -/

/-- The sources that a history registers, in order. Those that could not be opened are not among
them. -/
def registered (scene : Scene) : List Happening → List Source
  | [] => []
  | one :: rest => (scene.registration? one).toList ++ (scene.next one).registered rest

/-- Only registrations change the sources, and each adds one source at the end. -/
theorem sources_next (scene : Scene) (one : Happening) :
    (scene.next one).loader.sources =
      match scene.registration? one with
      | none => scene.loader.sources
      | some source => source.addTo scene.loader.sources scene.loader.isBound := by
  obtain ⟨entry, hwrites, hledger⟩ := step_writes scene one
  have hsources : (scene.next one).loader.sources = (scene.loader.ledger.write entry).sources :=
    congrArg Ledger.sources hledger
  rw [hsources]
  cases hwrites with
  | nothing hclear hsource =>
    rw [hsource]
    rfl
  | registered hsource =>
    rw [hsource]
    rfl
  | _ => rfl

/-- What the indexes hold for a name that is not bound: the two candidates among the sources that
have been registered. -/
structure Indexed (name : String) (sources : List Source) (scene : Scene) : Prop where
  directories : scene.loader.sources.directoryUnits.get? name =
    sources.findSome? (Source.inDirectory? name)
  archives : scene.loader.sources.archiveUnits.get? name =
    (sources.find? (·.lists name)).bind (Source.inArchive? name)

theorem Indexed.add_directory {name : String} {sources : List Source} {scene : Scene}
    (h : Indexed name sources scene) (hfree : scene.loader.isBound name = false)
    (directory : Directory) {later : Scene}
    (hlater : later.loader.sources =
      (Source.directory directory).addTo scene.loader.sources scene.loader.isBound) :
    Indexed name (sources ++ [.directory directory]) later := by
  unfold Source.addTo at hlater
  constructor
  · rw [hlater, Sources.directoryUnits_addDirectory, h.directories, hfree, List.findSome?_append]
    simp [Source.inDirectory?]
  · rw [hlater, Sources.archiveUnits_addDirectory, h.archives, List.find?_append]
    cases sources.find? (·.lists name) with
    | some source => rfl
    | none =>
      rw [Option.none_or, List.find?_singleton]
      split <;> rfl

/-- Where no source lists the name, neither index has it, so an archive is entered. Where a
source does, either it is an archive and holds the place, or it is a directory and shuts all
archives out. -/
theorem Indexed.add_archive {name : String} {sources : List Source} {scene : Scene}
    (h : Indexed name sources scene) (hfree : scene.loader.isBound name = false)
    (archive : Archive) {later : Scene}
    (hlater : later.loader.sources =
      (Source.archive scene.loader.sources.archives.length archive).addTo scene.loader.sources
        scene.loader.isBound) :
    Indexed name (sources ++ [.archive scene.loader.sources.archives.length archive]) later := by
  unfold Source.addTo at hlater
  constructor
  · rw [hlater, Sources.directoryUnits_addArchive, h.directories, List.findSome?_append]
    simp [Source.inDirectory?]
  · rw [hlater, Sources.archiveUnits_addArchive, h.archives, hfree, List.find?_append]
    unfold Table.contains
    rw [h.directories]
    cases hfind : sources.find? (·.lists name) with
    | some source =>
      obtain ⟨hlists, earlier, behind, hsources, -⟩ := List.find?_eq_some_iff_append.mp hfind
      cases source with
      | archive number other =>
        obtain ⟨entry, hentry⟩ : ∃ entry, (Source.archive number other).inArchive? name = some entry :=
          Option.isSome_iff_exists.mp (by simpa [Source.lists, Source.inDirectory?] using hlists)
        simp [hentry]
      | directory directory =>
        -- The directory is in the other index, which shuts the archive out.
        have hlisted : (sources.findSome? (Source.inDirectory? name)).isSome = true := by
          rw [List.findSome?_isSome_iff]
          refine ⟨.directory directory, ?_, ?_⟩
          · rw [hsources]
            exact List.mem_append_right earlier List.mem_cons_self
          · simpa [Source.lists, Source.inArchive?] using hlists
        rw [hlisted]
        rfl
    | none =>
      -- Nobody lists the name so far, so it is free in both indexes.
      have hunlisted : sources.findSome? (Source.inDirectory? name) = none := by
        rw [List.findSome?_eq_none_iff]
        intro source hsource
        have hlists := List.find?_eq_none.mp hfind source hsource
        unfold Source.lists at hlists
        simp only [Bool.or_eq_true, not_or, Option.not_isSome_iff_eq_none] at hlists
        exact hlists.1
      rw [hunlisted, Option.none_or, List.find?_singleton]
      cases hentry : archive.units.lookup name <;>
        simp [Source.lists, Source.inDirectory?, Source.inArchive?, hentry]

/-- An archive gets the next number, which is how many archives there were before it. -/
theorem number_of_registration {scene : Scene} {one : Happening} {number : Nat}
    {archive : Archive} (h : scene.registration? one = some (.archive number archive)) :
    number = scene.loader.sources.archives.length := by
  cases one with
  | registerDirectory path =>
    obtain ⟨directory, -, hsource⟩ := Option.map_eq_some_iff.mp h
    cases hsource
  | registerArchive path =>
    obtain ⟨opened, -, hsource⟩ := Option.map_eq_some_iff.mp h
    cases hsource
    rfl
  | registerImage image origin =>
    obtain ⟨opened, -, hsource⟩ := Option.map_eq_some_iff.mp h
    cases hsource
    rfl
  | _ => cases h

theorem indexed_next {name : String} {sources : List Source} {scene : Scene}
    (h : scene.loader.binding? name = none → Indexed name sources scene) (one : Happening)
    (hfree : (scene.next one).loader.binding? name = none) :
    Indexed name (sources ++ (scene.registration? one).toList) (scene.next one) := by
  -- What is bound stays bound, so the name was free when the source was registered.
  have hbefore : scene.loader.binding? name = none := by
    cases hbound : scene.loader.binding? name with
    | none => rfl
    | some unit =>
      rw [binding_next one hbound] at hfree
      cases hfree
  have hunbound : scene.loader.isBound name = false := Table.contains_eq_false_iff.mpr hbefore
  have hsources := sources_next scene one
  cases hsource : scene.registration? one with
  | none =>
    rw [hsource] at hsources
    rw [Option.toList_none, List.append_nil]
    exact ⟨by rw [hsources]; exact (h hbefore).directories,
      by rw [hsources]; exact (h hbefore).archives⟩
  | some source =>
    rw [hsource] at hsources
    cases source with
    | directory directory => exact (h hbefore).add_directory hunbound directory hsources
    | archive number archive =>
      have hnumber : number = scene.loader.sources.archives.length :=
        number_of_registration hsource
      subst hnumber
      exact (h hbefore).add_archive hunbound archive hsources

theorem indexed_after {name : String} {sources : List Source} {scene : Scene}
    (h : scene.loader.binding? name = none → Indexed name sources scene)
    (history : List Happening) (hfree : (scene.after history).loader.binding? name = none) :
    Indexed name (sources ++ scene.registered history) (scene.after history) := by
  induction history generalizing scene sources with
  | nil =>
    unfold registered
    rw [List.append_nil]
    exact h hfree
  | cons one rest ih =>
    unfold registered
    rw [← List.append_assoc]
    exact ih (indexed_next h one) hfree

/-! ## Lookups whose host does not use the loader -/

/-- A lookup that begins now and is answered at once. The host may have changed files. -/
def answeredAtOnce (scene : Scene) (name : String) (volume : Volume)
    (found : Option (Shared CodeUnit)) : Step :=
  (scene.after [.ask name, .change volume]).step (.answer scene.begun found)

theorem answeredAtOnce_eq {scene : Scene} {name : String} (volume : Volume)
    (found : Option (Shared CodeUnit)) (hfree : scene.loader.binding? name = none)
    (hmiss : scene.recalledMiss name = none) :
    let asking := scene.loader.count fun c => { c with hostLookups := c.hostLookups + 1 }
    (scene.answeredAtOnce name volume found).outcome =
        .unit name (asking.finishLookup volume (scene.ticket name) found).reply ∧
      (scene.answeredAtOnce name volume found).scene.loader =
        (asking.finishLookup volume (scene.ticket name) found).loader := by
  intro asking
  have hasked : scene.after [.ask name, .change volume] =
      { (scene.withLoader asking).await (.unit (scene.ticket name)) with volume := volume } := by
    rw [after_cons, after_cons, after_nil]
    unfold next
    rw [ask_of_unknown hfree hmiss]
    rfl
  have hwaiting : (scene.after [.ask name, .change volume]).waiting.lookup scene.begun =
      some (.unit (scene.ticket name)) := by
    rw [hasked]
    exact List.lookup_cons_self
  unfold answeredAtOnce
  rw [answer_of_waiting found hwaiting, hasked]
  exact ⟨rfl, rfl⟩

/-- The host has the unit: nothing is searched and nothing is read. -/
theorem answeredAtOnce_hosted {scene : Scene} {name : String} (volume : Volume)
    (unit : Shared CodeUnit) (hfree : scene.loader.binding? name = none)
    (hmiss : scene.recalledMiss name = none) :
    (scene.answeredAtOnce name volume (some unit)).outcome = .unit name (.ok unit) ∧
      (scene.answeredAtOnce name volume (some unit)).scene.loader.counters =
        { scene.loader.counters with hostLookups := scene.loader.counters.hostLookups + 1 } := by
  obtain ⟨houtcome, hloader⟩ := answeredAtOnce_eq volume (some unit) hfree hmiss
  rw [houtcome, hloader]
  have hkept : scene.loader.memo.boundUnit name unit = unit := Table.kept_of_none unit hfree
  exact ⟨congrArg (fun kept => Outcome.unit name (.ok kept)) hkept, rfl⟩

/-- What a lookup that the host could not answer comes to, if these are its candidates: the first
that can be read is the unit, and the ones behind it are not looked at. -/
inductive Searched (scene : Scene) (name : String) (volume : Volume) (candidates : List Place)
    (done : Step) : Prop
  | found (failed : List Place) (place : Place) (rest : List Place) (bytes : ByteArray)
      (unit : Shared CodeUnit)
      (hcandidates : candidates = failed ++ place :: rest)
      (hfailed : Loader.Unreadable volume scene.loader.options.maxUnitSize failed)
      (hread : place.read volume scene.loader.options.maxUnitSize = .ok bytes)
      (houtcome : done.outcome = .unit name (.ok unit))
      (hname : unit.value.name = name)
      (hbytes : unit.value.bytes = bytes)
      (horigin : place.NamesSource unit.value.origin)
      (hreads : done.scene.loader.counters.byteReads =
        scene.loader.counters.byteReads + (failed.length + 1))
  | missing (miss : Shared Miss)
      (hfailed : Loader.Unreadable volume scene.loader.options.maxUnitSize candidates)
      (houtcome : done.outcome = .unit name (.error (.unitNotFound miss)))
      (hmiss : miss.value = Loader.missOf name scene.loader.sources)
      (hreads : done.scene.loader.counters.byteReads =
        scene.loader.counters.byteReads + candidates.length)

/-- A miss that would be recalled would be the reply, so the record of a lookup that recalls none
is its own. -/
theorem recordMiss_value {loader : Loader} {ticket : Ticket}
    (hmiss : loader.options.remembersMisses = true → loader.memo.misses.get? ticket.name = none) :
    (loader.recordMiss ticket).reply.value = Loader.missOf ticket.name ticket.sources ∧
      (loader.recordMiss ticket).loader.counters = loader.counters := by
  rcases Loader.recordMiss_cases loader ticket with ⟨hmay, hreply, hloader⟩ | ⟨-, hreply, hloader⟩
  · have hkept : loader.memo.keptMiss ticket.name (loader.freshMiss ticket) =
        loader.freshMiss ticket :=
      Table.kept_of_none _ (hmiss (Loader.mayRemember_iff.mp hmay).1)
    rw [hreply, hkept, hloader]
    exact ⟨rfl, rfl⟩
  · rw [hreply, hloader]
    exact ⟨rfl, rfl⟩

theorem answeredAtOnce_searched {scene : Scene} {name : String} (volume : Volume)
    (hfree : scene.loader.binding? name = none) (hmiss : scene.recalledMiss name = none) :
    Searched scene name volume (scene.loader.sources.places name)
      (scene.answeredAtOnce name volume none) := by
  obtain ⟨houtcome, hloader⟩ := answeredAtOnce_eq volume none hfree hmiss
  generalize hasking : (scene.loader.count fun c => { c with hostLookups := c.hostLookups + 1 }) =
    asking at houtcome hloader
  -- The name is free, so what is defined is also what is replied.
  have hkept : ∀ unit, asking.memo.boundUnit name unit = unit := by
    intro unit
    subst hasking
    exact Table.kept_of_none unit hfree
  rcases Loader.finishLookup_cases asking volume (scene.ticket name) none with
    ⟨unit, habsurd, -⟩ |
    ⟨-, failed, place, rest, bytes, unit, domains, packages, issued, hplaces, hfailed, hread, hname,
      hbytes, horigin, hreply, hdefined⟩ |
    ⟨-, hfailed, searched, hsearched, hreply, hrecorded⟩
  · cases habsurd
  · subst hasking
    refine .found failed place rest bytes unit hplaces hfailed hread ?_ hname hbytes
      (Place.namesSource_iff.mpr horigin) ?_
    · rw [houtcome, hreply]
      exact congrArg (fun kept => Outcome.unit name (.ok kept)) (hkept unit)
    · rw [hloader, hdefined]
      rfl
  · -- Nothing was found, and no record was there, so a new one is replied.
    have hunknown : searched.options.remembersMisses = true →
        searched.memo.misses.get? name = none := by
      intro hremembers
      subst hsearched hasking
      unfold recalledMiss at hmiss
      exact (if_pos hremembers).symm.trans hmiss
    obtain ⟨hvalue, hcounters⟩ := @recordMiss_value searched (scene.ticket name) hunknown
    subst hsearched hasking
    refine .missing _ hfailed (houtcome.trans (congrArg (Outcome.unit name) hreply)) hvalue ?_
    rw [hloader, hrecorded, hcounters]
    rfl

/-- Where the first copy that can be read is known, a search has found that one. -/
theorem Searched.unit {scene : Scene} {name : String} {volume : Volume} {failed rest : List Place}
    {place : Place} {bytes : ByteArray} {done : Step}
    (h : Searched scene name volume (failed ++ place :: rest) done)
    (hfailed : Loader.Unreadable volume scene.loader.options.maxUnitSize failed)
    (hread : place.read volume scene.loader.options.maxUnitSize = .ok bytes) :
    ∃ unit, done.outcome = .unit name (.ok unit) ∧ unit.value.bytes = bytes ∧
      place.NamesSource unit.value.origin := by
  have hreadable {places : List Place}
      (hall : Loader.Unreadable volume scene.loader.options.maxUnitSize places) {one : Place}
      {content : ByteArray} (hone : one.read volume scene.loader.options.maxUnitSize = .ok content) :
      one ∉ places := by
    intro hmem
    obtain ⟨fault, hfault⟩ := hall one hmem
    cases hone.symm.trans hfault
  cases h with
  | found failed' place' rest' bytes' unit hsplit hfailed' hread' houtcome _ hbytes horigin =>
    have hsame : place' = place := by
      -- If one were behind the other, it would be among the copies that could not be read.
      rcases List.append_eq_append_iff.mp hsplit with ⟨_ | ⟨one, more⟩, hmore, htail⟩ |
        ⟨_ | ⟨one, more⟩, hmore, htail⟩ <;> obtain ⟨rfl, -⟩ := List.cons.inj htail
      · rfl
      · exact absurd (by rw [hmore]; simp) (hreadable hfailed' hread)
      · rfl
      · exact absurd (by rw [hmore]; simp) (hreadable hfailed hread')
    subst hsame
    exact ⟨unit, houtcome, hbytes.trans (Except.ok.inj (hread'.symm.trans hread)), horigin⟩
  | missing _ hall => exact absurd (by simp) (hreadable hall hread)

end Scene

namespace Layers

/-- The host of the loader at a place answers a lookup that has begun there, and the loader is
as it was. -/
structure AnswersAlone (call : Caller) (layers : Layers) (index : Nat) (name : String)
    (asking : Loader) (answered : Step (Option (Shared CodeUnit))) : Prop where
  answer : askUnit call (layers.setLoader index asking) index name = answered
  alone : answered.layers.loaderAt? index = some asking

/-- An embedding program that does nothing when it is asked answers alone. -/
theorem answersAlone_of_idle (call : Caller) (layers : Layers) (index : Nat) (name : String)
    (asking : Loader) {layer : Layer} {embedder : Embedder}
    (hlayer : layers.layers[index]? = some layer) (hhost : layer.host = .embedder embedder)
    (hidle : (embedder.askUnit name).currentHabit = []) :
    ∃ answered, AnswersAlone call layers index name asking answered ∧
      answered.reply = embedder.units.lookup name ∧ answered.layers.volume = layers.volume := by
  have hat : (layers.setLoader index asking).hostAt index = .embedder embedder := by
    rw [hostAt_setLoader]
    unfold hostAt
    rw [hlayer]
    exact hhost
  refine ⟨_, ⟨rfl, ?_⟩, ?_⟩
  all_goals
    unfold askUnit
    rw [hat]
    dsimp only
    rw [hidle]
  · exact (loaderAt?_setHost ..).trans (loaderAt?_setLoader_self asking hlayer)
  · exact ⟨rfl, rfl⟩

/-- The lookup is finished at the loader that began it, with whatever the host has answered. -/
theorem lookUp_of_alone {call : Caller} {layers : Layers} {index : Nat} {layer : Layer}
    {name : String} {ticket : Ticket} {asking : Loader} {events : List Event}
    {answered : Step (Option (Shared CodeUnit))} (hlayer : layers.layers[index]? = some layer)
    (hbegin : layer.loader.beginLookup name = ⟨.waiting ticket, asking, events⟩)
    (halone : AnswersAlone call layers index name asking answered) :
    (lookUp call layers index name).reply =
        (asking.finishLookup answered.layers.volume ticket answered.reply).reply ∧
      (lookUp call layers index name).layers.loaderAt? index =
        some (asking.finishLookup answered.layers.volume ticket answered.reply).loader := by
  obtain ⟨hanswer, hsame⟩ := halone
  obtain ⟨layer', hlayer', rfl⟩ := Option.map_eq_some_iff.mp hsame
  unfold lookUp
  simp only [hlayer, hbegin, hanswer, hlayer']
  exact ⟨rfl, loaderAt?_setLoader_self _ hlayer'⟩

/-- A load whose host answers alone is a lookup that is answered at once. -/
theorem load_of_alone {depth : Nat} {layers : Layers} {index : Nat} {layer : Layer} {name : String}
    {answered : Step (Option (Shared CodeUnit))} (wantsLink : Bool) (waiting : List (Nat × Errand))
    (begun : Nat) (hlayer : layers.layers[index]? = some layer) :
    let scene : Scene := ⟨layer.loader, layers.volume, waiting, begun⟩
    scene.loader.binding? name = none → scene.recalledMiss name = none →
    AnswersAlone (callWithin depth) layers index name (scene.next (.ask name)).loader answered →
    ∃ result,
      (callWithin (depth + 1) layers index (.load name wantsLink)).reply = .unit result ∧
      (scene.answeredAtOnce name answered.layers.volume answered.reply).outcome =
        .unit name result ∧
      (callWithin (depth + 1) layers index (.load name wantsLink)).layers.loaderAt? index =
        some (scene.answeredAtOnce name answered.layers.volume answered.reply).scene.loader := by
  intro scene hfree hmiss halone
  have hasking : (scene.next (.ask name)).loader =
      scene.loader.count fun c => { c with hostLookups := c.hostLookups + 1 } := by
    unfold Scene.next
    rw [Scene.ask_of_unknown hfree hmiss]
    rfl
  -- The name is free and no miss is recalled, so the lookup waits, with its ticket.
  have hbegin : layer.loader.beginLookup name =
      ⟨.waiting (scene.ticket name), (scene.next (.ask name)).loader, []⟩ := by
    have hunit : layer.loader.memo.units.get? name = none := hfree
    have hmissed : (if layer.loader.options.remembersMisses then
        layer.loader.memo.misses.get? name else none) = none := hmiss
    simp only [Loader.beginLookup, hunit, hmissed, hasking]
    rfl
  obtain ⟨hreply, hloader⟩ := lookUp_of_alone hlayer hbegin halone
  obtain ⟨houtcome, hfinished⟩ :=
    Scene.answeredAtOnce_eq answered.layers.volume answered.reply hfree hmiss
  rw [← hasking] at houtcome hfinished
  have hwanted : wanted? (.load name wantsLink) = some name := rfl
  obtain ⟨-, hsame, -⟩ := perform_of_wanted (callWithin depth) layers index index hwanted
  refine ⟨_, ?_, houtcome, ?_⟩
  · exact (load_reply ..).trans (congrArg Reply.unit hreply)
  · rw [hfinished]
    exact hsame.trans hloader

end Layers

namespace Scene

/-! ## Both for every history -/

/-- What a lookup comes to, in a scene where these are the candidates for its name. -/
structure ResolvesTo (scene : Scene) (name : String) (candidates : List Place) : Prop where
  waits : (scene.step (.ask name)).outcome = .nothing
  /-- The unit of the host is the reply. Nothing is searched and nothing is read. -/
  hosted : ∀ volume unit,
    (scene.answeredAtOnce name volume (some unit)).outcome = .unit name (.ok unit) ∧
    (scene.answeredAtOnce name volume (some unit)).scene.loader.counters =
      { scene.loader.counters with hostLookups := scene.loader.counters.hostLookups + 1 }
  searched : ∀ volume,
    Searched scene name volume candidates (scene.answeredAtOnce name volume none)
  /-- A load comes to the same, if the host does not use the loader. -/
  loaded : ∀ depth layers index wantsLink answered,
    layers.loaderAt? index = some scene.loader → layers.volume = scene.volume →
    Layers.AnswersAlone (Layers.callWithin depth) layers index name (scene.next (.ask name)).loader
      answered →
    ∃ result,
      (Layers.callWithin (depth + 1) layers index (.load name wantsLink)).reply = .unit result ∧
      (scene.answeredAtOnce name answered.layers.volume answered.reply).outcome =
        .unit name result ∧
      (Layers.callWithin (depth + 1) layers index (.load name wantsLink)).layers.loaderAt? index =
        some (scene.answeredAtOnce name answered.layers.volume answered.reply).scene.loader

/-- Over an embedding program that has nothing and does nothing, a load finds the first candidate
that can be read. -/
theorem ResolvesTo.load_of_idle {scene : Scene} {name : String} {failed rest : List Place}
    {place : Place} {bytes : ByteArray} (h : ResolvesTo scene name (failed ++ place :: rest))
    (hfailed : Loader.Unreadable scene.volume scene.loader.options.maxUnitSize failed)
    (hread : place.read scene.volume scene.loader.options.maxUnitSize = .ok bytes) :
    ∃ unit,
      (Layers.callWithin 1 ⟨scene.volume, [⟨scene.loader, .embedder {}⟩]⟩ 0
        (.load name false)).reply = .unit (.ok unit) ∧
      unit.value.bytes = bytes ∧ place.NamesSource unit.value.origin := by
  obtain ⟨answered, halone, hanswer, hvolume⟩ :=
    Layers.answersAlone_of_idle (Layers.callWithin 0)
      ⟨scene.volume, [⟨scene.loader, .embedder {}⟩]⟩ 0 name (scene.next (.ask name)).loader
      rfl rfl rfl
  obtain ⟨result, hreply, houtcome, -⟩ := h.loaded 0 _ 0 false answered rfl rfl halone
  rw [hanswer, hvolume] at houtcome
  obtain ⟨unit, hunit, hbytes, hsource⟩ := (h.searched scene.volume).unit hfailed hread
  cases houtcome.symm.trans hunit
  exact ⟨unit, hreply, hbytes, hsource⟩

/-- For a name that is not bound the indexes hold the two candidates that the registered sources
give, whatever else has happened. A lookup that recalls no miss asks the host first and then reads
the directory candidate and the archive candidate. -/
theorem exact_resolution (start : Scene) (hstart : start.loader.sources = {})
    (history : List Happening) (name : String)
    (hfree : (start.after history).loader.binding? name = none) :
    ∃ directory archive : Option Place,
      (∀ place, directory = some place ↔
        IsDirectoryCandidate (start.registered history) name place) ∧
      (∀ place, archive = some place ↔
        IsArchiveCandidate (start.registered history) name place) ∧
      (start.after history).loader.sources.directoryUnits.get? name = directory ∧
      (start.after history).loader.sources.archiveUnits.get? name = archive ∧
      ((start.after history).recalledMiss name = none →
        ResolvesTo (start.after history) name (directory.toList ++ archive.toList)) := by
  have hindexed : Indexed name (start.registered history) (start.after history) := by
    refine @indexed_after name [] start (fun _ => ⟨?_, ?_⟩) history hfree <;> rw [hstart] <;> rfl
  refine ⟨_, _, fun place => isDirectoryCandidate_iff, fun place => isArchiveCandidate_iff,
    hindexed.directories, hindexed.archives, ?_⟩
  intro hmiss
  rw [← hindexed.directories, ← hindexed.archives]
  constructor
  · exact congrArg Step.outcome (ask_of_unknown hfree hmiss)
  · exact fun volume unit => answeredAtOnce_hosted volume unit hfree hmiss
  · exact fun volume => answeredAtOnce_searched volume hfree hmiss
  · -- The same loader, in a stack: a host that answers alone answers the lookup at once.
    intro depth layers index wantsLink answered hloader hvolume halone
    generalize start.after history = scene at hfree hmiss hloader hvolume halone ⊢
    obtain ⟨loader, volume, waiting, begun⟩ := scene
    obtain ⟨layer, hlayer, rfl⟩ := Option.map_eq_some_iff.mp hloader
    subst hvolume
    exact Layers.load_of_alone wantsLink waiting begun hlayer hfree hmiss halone

end Scene

/-- An archive with one unit of one byte, which is stored. -/
def parcel : Image := .held ⟨#[
  80, 75, 3, 4, 20, 0, 0, 0, 0, 0, 0, 0, 33, 0, 46, 122, 102, 76, 1, 0, 0, 0, 1, 0, 0, 0, 6, 0, 0,
  0, 97, 46, 117, 110, 105, 116, 7, 80, 75, 1, 2, 20, 3, 20, 0, 0, 0, 0, 0, 0, 0, 33, 0, 46, 122,
  102, 76, 1, 0, 0, 0, 1, 0, 0, 0, 6, 0, 0, 0, 0, 0, 0, 0, 0, 0, 0, 0, 128, 1, 0, 0, 0, 0, 97, 46,
  117, 110, 105, 116, 80, 75, 5, 6, 0, 0, 0, 0, 1, 0, 1, 0, 52, 0, 0, 0, 37, 0, 0, 0, 0, 0]⟩

/-- The parcel as it is registered under its own name. -/
def parcelArchive : Archive :=
  ⟨"parcel", parcel, (Zip.entries? (parcel.bytes {})).getD [], [("a", "a.unit")]⟩

namespace Scene

/-- Three directories with a unit of the same name, which is empty in the last, and a loader without
sources. -/
def shelves : Scene :=
  ⟨.create 0 {} {},
    { root := .directory [("lib", .directory [("a.unit", .file 0)]),
        ("more", .directory [("a.unit", .file 1)]), ("blank", .directory [("a.unit", .file 2)])]
      contents := #[⟨#[1]⟩, ⟨#[2]⟩, .empty] }, [], 0⟩

/-- Two directories are registered, and between them one that is not there. -/
def stocked : Scene :=
  shelves.after [.registerDirectory "/more", .registerDirectory "/none", .registerDirectory "/lib"]

/-- The parcel is registered, and after it a directory, whose copy is empty. -/
def packed : Scene :=
  shelves.after [.registerImage parcel "parcel", .registerDirectory "/blank"]

private theorem read_more : (Place.file "/more" "/more/a.unit").read shelves.volume
    stocked.loader.options.maxUnitSize = .ok ⟨#[2]⟩ := by cbv

private theorem read_blank : (Place.file "/blank" "/blank/a.unit").read shelves.volume
    defaultMaxUnitSize = .error (.size "/blank/a.unit" 0 defaultMaxUnitSize) := by cbv

set_option maxRecDepth 20000 in
private theorem read_parcel : (Place.entry 0 parcelArchive "a.unit").read shelves.volume
    defaultMaxUnitSize = .ok ⟨#[7]⟩ := by cbv

set_option maxRecDepth 20000 in
private theorem indexed_packed :
    packed.loader.sources.directoryUnits.get? "a" = some (.file "/blank" "/blank/a.unit") ∧
      packed.loader.sources.archiveUnits.get? "a" = some (.entry 0 parcelArchive "a.unit") ∧
      packed.loader.binding? "a" = none ∧ packed.recalledMiss "a" = none :=
  ⟨by cbv, by cbv, by cbv, by cbv⟩

/-- Of two directories the one that was registered first has the unit, and the one that is not there
changes nothing. A directory that comes after an archive is asked before it; its copy is empty, so
it is the archive that the unit comes from. -/
theorem exact_resolution_two :
    (ResolvesTo stocked "a" [.file "/more" "/more/a.unit"] ∧
      ∃ unit,
        (Layers.callWithin 1 ⟨shelves.volume, [⟨stocked.loader, .embedder {}⟩]⟩ 0
          (.load "a" false)).reply = .unit (.ok unit) ∧
        unit.value.bytes = ⟨#[2]⟩ ∧ unit.value.origin = .directory "/more") ∧
    ResolvesTo packed "a" [.file "/blank" "/blank/a.unit", .entry 0 parcelArchive "a.unit"] ∧
      ∃ unit,
        (Layers.callWithin 1 ⟨shelves.volume, [⟨packed.loader, .embedder {}⟩]⟩ 0
          (.load "a" false)).reply = .unit (.ok unit) ∧
        unit.value.bytes = ⟨#[7]⟩ ∧ unit.value.origin = .archive "parcel" := by
  constructor
  · obtain ⟨directory, archive, -, -, hdirectory, harchive, hresolves⟩ :=
      exact_resolution shelves rfl [.registerDirectory "/more", .registerDirectory "/none",
        .registerDirectory "/lib"] "a" (by cbv)
    obtain rfl : directory = some (.file "/more" "/more/a.unit") := hdirectory.symm.trans (by cbv)
    -- No archive is registered, so the file is the only place that is tried.
    obtain rfl : archive = none := harchive.symm.trans (by cbv)
    have hresolves : ResolvesTo stocked "a" [.file "/more" "/more/a.unit"] := hresolves (by cbv)
    obtain ⟨unit, hreply, hbytes, hsource⟩ :=
      @ResolvesTo.load_of_idle _ _ [] [] _ _ hresolves (by simp [Loader.Unreadable]) read_more
    exact ⟨hresolves, unit, hreply, hbytes, Place.namesSource_iff.mp hsource⟩
  · -- The directory is asked first. Its copy is empty, which is no unit, so the archive is next.
    obtain ⟨hblank, hparcel, hfree, hunrecalled⟩ := indexed_packed
    obtain ⟨directory, archive, -, -, hdirectory, harchive, hresolves⟩ :=
      exact_resolution shelves rfl [.registerImage parcel "parcel", .registerDirectory "/blank"] "a"
        hfree
    obtain rfl : directory = some (.file "/blank" "/blank/a.unit") := hdirectory.symm.trans hblank
    obtain rfl : archive = some (.entry 0 parcelArchive "a.unit") := harchive.symm.trans hparcel
    have hresolves : ResolvesTo packed "a"
        [.file "/blank" "/blank/a.unit", .entry 0 parcelArchive "a.unit"] := hresolves hunrecalled
    have hlimit : packed.loader.options.maxUnitSize = defaultMaxUnitSize :=
      congrArg Options.maxUnitSize (options_after shelves _)
    obtain ⟨unit, hreply, hbytes, hsource⟩ :=
      @ResolvesTo.load_of_idle _ _ [.file "/blank" "/blank/a.unit"] [] _ _ hresolves
        (by simpa [Loader.Unreadable, hlimit] using ⟨_, read_blank⟩)
        (by rw [hlimit]; exact read_parcel)
    exact ⟨hresolves, unit, hreply, hbytes, Place.namesSource_iff.mp hsource⟩

end Scene

end LayeredUnits
