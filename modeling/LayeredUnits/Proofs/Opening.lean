import Mathlib
import LayeredUnits.Command.Run
import LayeredUnits.Proofs.Candidates
import LayeredUnits.Proofs.Locations
import LayeredUnits.Proofs.Definitions
import LayeredUnits.Proofs.Scanning
import LayeredUnits.Proofs.Transparency

/-!
# The sources of a run

A run registers what the settings list and then what the command line lists.
What becomes of that can be told from the files, without a loader: the sources
are opened one after the other, and the first that cannot be opened ends the
run.

* `openAll`, `openAll_eq_error_iff` — the sources that are opened, or the fault
  of the first that cannot be.
* `Loader.IsStocked` — a loader that has registered these sources and has done
  nothing else. One registration keeps this (`IsStocked.add`), and so do lists
  of them (`registerAll_follows`).
* `openLoader_follows` — the loader of a run is such a loader, or there is none;
  `openLoader_of_opened` and `openLoader_of_failed` are the two ends.
* `Loader.IsStocked.archive_unique` — archives that are known by the same path
  are one archive.
-/

namespace LayeredUnits

namespace Command

/-- A source that is listed, by the settings or on the command line. -/
inductive Listed where
  | directory (path : String)
  | archive (path : String)

/-- What a run registers, in order. -/
def listed (settings : Settings) (arguments : Arguments) : List Listed :=
  (settings.directories.map .directory ++ settings.archives.map .archive) ++
    (arguments.directories.map .directory ++ arguments.archives.map .archive)

namespace Listed

/-- The source that is listed. An archive gets this number. Nothing of a loader is needed to open
it. -/
def opened (volume : Volume) (suffix : String) (number : Nat) : Listed → Except Fault Source
  | .directory path => (Directory.scan volume path suffix).1.map .directory
  | .archive path => (Archive.openPath volume path suffix).1.map (.archive number)

/-- Why the source cannot be opened, if it cannot. This depends on the files and the
suffix alone. -/
def fault? (volume : Volume) (suffix : String) (one : Listed) : Option Fault :=
  match one.opened volume suffix 0 with
  | .ok _ => none
  | .error fault => some fault

end Listed

/-- Opens one more source. Archives are numbered as they come, and directories are not numbered. -/
def openNext (volume : Volume) (suffix : String) (sources : List Source) (one : Listed) :
    Except Fault (List Source) := do
  let source ← one.opened volume suffix (sources.filterMap Source.archive?).length
  .ok (sources ++ [source])

/-- Opens sources one after the other, up to the first that cannot be opened. -/
def openAll (volume : Volume) (suffix : String) (listed : List Listed) :
    Except Fault (List Source) :=
  listed.foldlM (openNext volume suffix) []

variable {volume : Volume} {suffix : String}

/-- Its number is no reason why a source cannot be opened. -/
theorem Listed.opened_eq_error_iff {one : Listed} {number : Nat} {fault : Fault} :
    one.opened volume suffix number = .error fault ↔ one.fault? volume suffix = some fault := by
  unfold fault?
  cases one with
  | directory path =>
    simp only [opened]
    cases (Directory.scan volume path suffix).1 <;> simp [Except.map]
  | archive path =>
    simp only [opened]
    cases (Archive.openPath volume path suffix).1 <;> simp [Except.map]

/-- An archive that is opened has the number that it was to get. -/
theorem Listed.archive_of_opened {one : Listed} {number other : Nat} {archive : Archive}
    (h : one.opened volume suffix number = .ok (.archive other archive)) :
    other = number ∧ ∃ path, (Archive.openPath volume path suffix).1 = .ok archive := by
  cases one with
  | directory path =>
    simp only [opened] at h
    cases hscan : (Directory.scan volume path suffix).1 <;> rw [hscan] at h <;> cases h
  | archive path =>
    simp only [opened] at h
    cases hfound : (Archive.openPath volume path suffix).1 <;> rw [hfound] at h <;> cases h
    exact ⟨rfl, path, hfound⟩

theorem foldlM_openNext_eq_error_iff {listed : List Listed} {fault : Fault} :
    ∀ sources : List Source, listed.foldlM (openNext volume suffix) sources = .error fault ↔
      listed.findSome? (·.fault? volume suffix) = some fault := by
  induction listed with
  | nil => simp [pure, Except.pure]
  | cons one rest ih =>
    intro sources
    rw [List.foldlM_cons, List.findSome?_cons]
    unfold openNext
    cases hopened : one.opened volume suffix (sources.filterMap Source.archive?).length with
    | error other =>
      rw [Listed.opened_eq_error_iff.mp hopened]
      simp [bind, Except.bind]
    | ok source =>
      have hnone : one.fault? volume suffix = none := by
        cases hfault : one.fault? volume suffix with
        | none => rfl
        | some other => cases hopened.symm.trans (Listed.opened_eq_error_iff.mpr hfault)
      rw [hnone]
      exact ih (sources ++ [source])

/-- The fault is that of the first source that cannot be opened; those after it are not
looked at. -/
theorem openAll_eq_error_iff {listed : List Listed} {fault : Fault} :
    openAll volume suffix listed = .error fault ↔
      listed.findSome? (·.fault? volume suffix) = some fault :=
  foldlM_openNext_eq_error_iff []

end Command

/-! ## The loader of a run -/

/-- A turn and, unless it fails, another one. All that a run registers is put together in
this way. -/
def Turn.andThen {α : Type} (first : Turn (Except Fault α))
    (second : Loader → Turn (Except Fault Unit)) : Turn (Except Fault Unit) :=
  match first with
  | ⟨.error fault, loader, events⟩ => ⟨.error fault, loader, events⟩
  | ⟨.ok _, loader, events⟩ =>
    let ⟨reply, loader, more⟩ := second loader
    ⟨reply, loader, events ++ more⟩

namespace Loader

open Command (Listed openNext openAll)

/-- The loader has registered these sources of the volume, and has done nothing else. -/
structure IsStocked (volume : Volume) (options : Options) (sources : List Source)
    (loader : Loader) : Prop where
  unused : loader.IsUnused
  kept : loader.options = options
  indexed : ∀ name, Scene.Indexed name sources { loader := loader }
  directories : loader.sources.directories = sources.filterMap Source.directory?
  archives : loader.sources.archives = sources.filterMap Source.archive?
  numbered : loader.sources.Numbered loader.sources.archives
  opened : ∀ archive ∈ loader.sources.archives,
    ∃ path, (Archive.openPath volume path options.unitSuffix).1 = .ok archive

variable {volume : Volume} {options : Options} {sources : List Source} {loader : Loader}

theorem isStocked_create (volume : Volume) (options : Options) :
    (create 0 options {}).IsStocked volume options [] where
  unused := ⟨rfl, rfl, rfl, rfl, rfl⟩
  kept := rfl
  indexed _ := ⟨rfl, rfl⟩
  directories := rfl
  archives := rfl
  numbered _ _ hplace := absurd hplace List.not_mem_nil
  opened _ harchive := absurd harchive List.not_mem_nil

/-- An unused loader binds no name, so it passes no source over as bound. -/
theorem IsUnused.isBound (h : loader.IsUnused) (name : String) : loader.isBound name = false := by
  unfold Loader.isBound
  rw [h.units]
  rfl

theorem IsStocked.add (h : loader.IsStocked volume options sources) {one : Listed}
    {source : Source} (names : List String)
    (hopened : one.opened volume options.unitSuffix (sources.filterMap Source.archive?).length =
      .ok source) :
    ({ loader with
      sources := source.addTo loader.sources loader.isBound
      memo := internAll loader.memo names } : Loader).IsStocked volume options
        (sources ++ [source]) := by
  obtain ⟨hunits, hmisses⟩ := internAll_units loader.memo names
  obtain ⟨hdirectories, harchives⟩ := source.lists_addTo loader.sources loader.isBound
  -- An archive gets the number of archives before it, which is where it will stand.
  have hnumber : ∀ number archive, source = .archive number archive →
      number = loader.sources.archives.length ∧
        ∃ path, (Archive.openPath volume path options.unitSuffix).1 = .ok archive := by
    rintro number archive rfl
    rw [h.archives]
    exact Listed.archive_of_opened hopened
  constructor
  case unused =>
    exact ⟨hunits.trans h.unused.units, hmisses.trans h.unused.misses, h.unused.home,
      h.unused.domains, h.unused.packages⟩
  case kept => exact h.kept
  -- Nothing is bound, so no name of the source is kept out on that account.
  case indexed =>
    intro name
    have hfree := h.unused.isBound name
    cases source with
    | directory directory => exact (h.indexed name).add_directory hfree directory rfl
    | archive number archive =>
      obtain rfl : number = loader.sources.archives.length := (hnumber number archive rfl).1
      exact (h.indexed name).add_archive hfree archive rfl
  case directories =>
    rw [hdirectories, h.directories, List.filterMap_append]
    cases source <;> rfl
  case archives =>
    rw [harchives, h.archives, List.filterMap_append]
    cases source <;> rfl
  case numbered =>
    exact Sources.numbered_addTo h.numbered
      (fun number archive heq => (hnumber number archive heq).1) loader.isBound
  case opened =>
    intro archive harchive
    rw [harchives, List.mem_append] at harchive
    rcases harchive with hold | hnew
    · exact h.opened archive hold
    · -- A new archive can only be the source itself.
      cases source with
      | directory directory => cases hnew
      | archive number added =>
        obtain rfl : archive = added := List.mem_singleton.mp hnew
        exact (hnumber number archive rfl).2

/-! ## Registrations one after the other -/

/-- A turn comes to what opening the sources comes to: it succeeds with a loader that has them, or
fails with the same fault. -/
inductive Follows (volume : Volume) (options : Options) {α : Type} (turn : Turn (Except Fault α)) :
    Except Fault (List Source) → Prop
  | opened {sources : List Source} (value : α) (hreply : turn.reply = .ok value)
      (hstocked : turn.loader.IsStocked volume options sources) :
      Follows volume options turn (.ok sources)
  | failed {fault : Fault} (hreply : turn.reply = .error fault) :
      Follows volume options turn (.error fault)

theorem registerAll_cons (loader : Loader) (register : Loader → String → Turn (Except Fault Nat))
    (path : String) (rest : List String) :
    loader.registerAll register (path :: rest) =
      (register loader path).andThen (·.registerAll register rest) := by
  rw [registerAll]
  obtain ⟨reply, later, events⟩ := register loader path
  cases reply <;> rfl

theorem registerSources_eq (loader : Loader) (volume : Volume)
    (directories archives : List String) :
    loader.registerSources volume directories archives =
      (loader.registerAll (·.registerDirectory volume ·) directories).andThen
        (·.registerAll (·.registerArchive volume ·) archives) := by
  unfold registerSources
  obtain ⟨reply, later, events⟩ := loader.registerAll (·.registerDirectory volume ·) directories
  cases reply <;> rfl

theorem Follows.andThen {α : Type} {first : Turn (Except Fault α)}
    {second : Loader → Turn (Except Fault Unit)} {opened : Except Fault (List Source)}
    {next : List Source → Except Fault (List Source)} (hfirst : Follows volume options first opened)
    (hsecond : ∀ {loader sources}, IsStocked volume options sources loader →
      Follows volume options (second loader) (next sources)) :
    Follows volume options (first.andThen second) (opened >>= next) := by
  obtain ⟨reply, loader, events⟩ := first
  cases hfirst with
  | failed hreply =>
    obtain rfl : reply = _ := hreply
    exact .failed rfl
  | opened value hreply hstocked =>
    obtain rfl : reply = _ := hreply
    have hnext := hsecond hstocked
    show Follows volume options _ (next _)
    generalize next _ = opened at hnext ⊢
    cases hnext with
    | failed hreply => exact .failed hreply
    | opened value hreply hstocked => exact .opened value hreply hstocked

theorem register_follows {α : Type} (h : loader.IsStocked volume options sources) {one : Listed}
    {make : α → Source} {add : α → Turn Nat} (found : Except Fault α × List Event)
    (hfound : one.opened volume options.unitSuffix (sources.filterMap Source.archive?).length =
      found.1.map make)
    (hadd : ∀ source, ∃ names, (add source).loader =
      { loader with
        sources := (make source).addTo loader.sources loader.isBound
        memo := internAll loader.memo names }) :
    Follows volume options (loader.register found add)
      (openNext volume options.unitSuffix sources one) := by
  unfold register openNext
  obtain ⟨found, events⟩ := found
  cases found with
  | error fault =>
    rw [hfound]
    exact .failed rfl
  | ok source =>
    obtain ⟨names, hloader⟩ := hadd source
    have hstocked := h.add names hfound
    rw [← hloader] at hstocked
    rw [hfound]
    exact .opened _ rfl hstocked

theorem registerDirectory_follows (h : loader.IsStocked volume options sources) (path : String) :
    Follows volume options (loader.registerDirectory volume path)
      (openNext volume options.unitSuffix sources (.directory path)) := by
  unfold registerDirectory
  rw [h.kept]
  exact register_follows h _ rfl fun directory => ⟨_, rfl⟩

theorem registerArchive_follows (h : loader.IsStocked volume options sources) (path : String) :
    Follows volume options (loader.registerArchive volume path)
      (openNext volume options.unitSuffix sources (.archive path)) := by
  unfold registerArchive
  rw [h.kept]
  exact @register_follows volume options sources loader Archive h (.archive path)
    (.archive (sources.filterMap Source.archive?).length) _ _ rfl fun archive => ⟨_, rfl⟩

theorem registerAll_follows {register : Loader → String → Turn (Except Fault Nat)}
    {make : String → Listed}
    (hregister : ∀ {loader sources}, IsStocked volume options sources loader → ∀ path,
      Follows volume options (register loader path)
        (openNext volume options.unitSuffix sources (make path))) (paths : List String) :
    ∀ {loader sources}, IsStocked volume options sources loader →
      Follows volume options (loader.registerAll register paths)
        ((paths.map make).foldlM (openNext volume options.unitSuffix) sources) := by
  induction paths with
  | nil => exact fun h => .opened () rfl h
  | cons path rest ih =>
    intro loader sources h
    rw [List.map_cons, List.foldlM_cons, registerAll_cons]
    exact (hregister h path).andThen ih

theorem registerSources_follows (h : loader.IsStocked volume options sources)
    (directories archives : List String) :
    Follows volume options (loader.registerSources volume directories archives)
      ((directories.map Listed.directory ++ archives.map Listed.archive).foldlM
        (openNext volume options.unitSuffix) sources) := by
  rw [List.foldlM_append, registerSources_eq]
  exact (registerAll_follows registerDirectory_follows directories h).andThen
    (registerAll_follows registerArchive_follows archives)

end Loader

theorem Command.openLoader_eq (arguments : Arguments) (settings : Settings) (volume : Volume) :
    openLoader arguments settings volume =
      (Loader.ofSettings 0 settings volume).andThen
        (·.registerSources volume arguments.directories arguments.archives) := by
  unfold openLoader
  obtain ⟨reply, later, events⟩ := Loader.ofSettings 0 settings volume
  cases reply <;> rfl

/-- The loader of a run has the sources of the settings and those of the command line. -/
theorem Command.openLoader_follows (arguments : Arguments) (settings : Settings)
    (volume : Volume) :
    Loader.Follows volume settings.options (openLoader arguments settings volume)
      (openAll volume settings.unitSuffix (listed settings arguments)) := by
  unfold openAll listed
  rw [List.foldlM_append, openLoader_eq]
  exact (Loader.registerSources_follows (Loader.isStocked_create volume settings.options)
    settings.directories settings.archives).andThen fun h =>
      Loader.registerSources_follows h arguments.directories arguments.archives

theorem Command.openLoader_of_opened {arguments : Arguments} {settings : Settings}
    {volume : Volume} {sources : List Source}
    (h : openAll volume settings.unitSuffix (listed settings arguments) = .ok sources) :
    (openLoader arguments settings volume).reply = .ok () ∧
      (openLoader arguments settings volume).loader.IsStocked volume settings.options sources := by
  have hfollows := openLoader_follows arguments settings volume
  rw [h] at hfollows
  cases hfollows with
  | opened value hreply hstocked => exact ⟨hreply, hstocked⟩

theorem Command.openLoader_of_failed {arguments : Arguments} {settings : Settings}
    {volume : Volume} {fault : Fault}
    (h : (listed settings arguments).findSome? (·.fault? volume settings.unitSuffix) = some fault) :
    (openLoader arguments settings volume).reply = .error fault := by
  have hfollows := openLoader_follows arguments settings volume
  rw [openAll_eq_error_iff.mpr h] at hfollows
  cases hfollows with
  | failed hreply => exact hreply

/-! ## Archives that are known by one path -/

namespace Archive

variable {volume : Volume} {path suffix : String} {archive : Archive}

theorem origin_of_openImage {image : Image} {origin : String}
    (h : (openImage volume image origin suffix).1 = .ok archive) : archive.origin = origin := by
  unfold openImage at h
  split at h
  · cases h
  · cases h
    rfl

/-- The path that an archive is known by leads to it. -/
theorem openPath_origin (hvolume : volume.WellFormed)
    (h : (openPath volume path suffix).1 = .ok archive) :
    (openPath volume archive.origin suffix).1 = .ok archive := by
  unfold openPath at h
  split at h
  · next way number hlocate =>
    have hway := Volume.at?_of_locate hlocate
    have hback := Volume.locate_of_at? (Node.WellFormed.at? hvolume hway).2 hway (by simp)
    rw [origin_of_openImage h, openPath, hback]
    exact h
  · cases h

end Archive

/-- Archives that are known by one path are one archive, because each was opened at that path in the
same files. -/
theorem Loader.IsStocked.archive_unique {volume : Volume} {options : Options}
    {sources : List Source} {loader : Loader} (h : loader.IsStocked volume options sources)
    (hvolume : volume.WellFormed) {archive other : Archive}
    (harchive : archive ∈ loader.sources.archives) (hother : other ∈ loader.sources.archives)
    (horigin : archive.origin = other.origin) : archive = other := by
  obtain ⟨path, hopened⟩ := h.opened archive harchive
  obtain ⟨path', hopened'⟩ := h.opened other hother
  have hsame := Archive.openPath_origin hvolume hopened
  rw [horigin, Archive.openPath_origin hvolume hopened'] at hsame
  exact (Except.ok.inj hsame).symm

end LayeredUnits
