import Mathlib
import LayeredUnits.Proofs.Agreement
import LayeredUnits.Proofs.Candidates
import LayeredUnits.Proofs.Chain
import LayeredUnits.Proofs.Waiting

/-!
# Where a resource is found

The first location of a resource and the list of all its locations are two
searches, each with a memory of its own. The one stops at the first source that
has the resource, and asks the host only if there is none; the other one goes
through all sources and always asks the host. This module says what both come
to in terms of the sources that have been registered, and that they agree.

* `lists_after` — a loader has the directories and the archives that a history
  registers, each kind in its order.
* `locations_of_lists`, `locate?_eq_head?` — the search through all sources, and
  the search that stops, which gives the head of the former.
* `locate_outcome`, `locateAll_outcome` — how a lookup ends, whatever has
  happened since it began.
* `asks_within` — a host that is an earlier loader leaves the loader that asks it
  alone.
* `exact_resources` — all of this for every history, and for calls.
-/

namespace LayeredUnits

namespace ResourceName

/-- A name with so many slashes in front. All these spellings mean one resource. -/
def slashed (slashes : Nat) (name : String) : String :=
  String.ofList (List.replicate slashes '/' ++ name.toList)

@[simp] theorem normalize_slashed (slashes : Nat) (name : String) :
    normalize (slashed slashes name) = normalize name := by
  have hslashes : ∀ c ∈ List.replicate slashes '/', (c == '/') = true := by
    intro c hc
    rw [List.eq_of_mem_replicate hc]
    rfl
  unfold normalize slashed
  rw [String.toList_ofList, List.dropWhile_append_of_pos hslashes]

end ResourceName

/-! ## Locations among the registered sources -/

namespace Source

/-- The directory, if the source is one. -/
def directory? : Source → Option Directory
  | directory added => some added
  | archive .. => none

/-- The archive, if the source is one. -/
def archive? : Source → Option Archive
  | directory _ => none
  | archive _ added => some added

/-- What lies at the name below the root of a directory, if the directory has a file there. -/
def fileLocation? (volume : Volume) (name : String) : Source → Option Location
  | directory added =>
    if (added.resourcePath? volume name).isSome then some (.file (Path.join added.root name))
    else none
  | archive .. => none

/-- The entry of an archive with exactly this name, if it is a file. -/
def entryLocation? (name : String) : Source → Option Location
  | directory _ => none
  | archive _ added => if name ∈ added.files then some (.entry added.origin name) else none

end Source

/-- The locations of a resource in these sources: first those in the directories, and then those in
the archives. -/
def ownLocations (sources : List Source) (volume : Volume) (name : String) : List Location :=
  sources.filterMap (Source.fileLocation? volume name) ++
    sources.filterMap (Source.entryLocation? name)

theorem Directory.map_resourcePath? (directory : Directory) (volume : Volume) (name : String) :
    (directory.resourcePath? volume name).map Location.file =
      (Source.directory directory).fileLocation? volume name := by
  show _ = if (directory.resourcePath? volume name).isSome then
    some (Location.file (Path.join directory.root name)) else none
  cases hpath : directory.resourcePath? volume name with
  | none => rfl
  | some path =>
    rw [(Directory.resourcePath?_eq_some_iff.mp hpath).2.2]
    rfl

theorem Sources.inArchive?_eq (name : String) (number : Nat) (archive : Archive) :
    Sources.inArchive? name archive = (Source.archive number archive).entryLocation? name := by
  unfold Sources.inArchive? Source.entryLocation? Archive.hasFile
  by_cases hfile : name ∈ archive.files
  · simp [hfile]
  · simp [hfile]

/-- What a source adds to those of a loader: it comes last in the list of its kind, and the other
list stays. -/
theorem Source.lists_addTo (source : Source) (sources : Sources) (bound : String → Bool) :
    (source.addTo sources bound).directories = sources.directories ++ source.directory?.toList ∧
      (source.addTo sources bound).archives = sources.archives ++ source.archive?.toList := by
  cases source with
  | directory added => exact ⟨rfl, (List.append_nil _).symm⟩
  | archive number added => exact ⟨(List.append_nil _).symm, rfl⟩

namespace Scene

theorem lists_next (scene : Scene) (one : Happening) :
    (scene.next one).loader.sources.directories = scene.loader.sources.directories ++
        (scene.registration? one).toList.filterMap Source.directory? ∧
      (scene.next one).loader.sources.archives = scene.loader.sources.archives ++
        (scene.registration? one).toList.filterMap Source.archive? := by
  rw [sources_next]
  cases scene.registration? one with
  | none => exact ⟨(List.append_nil _).symm, (List.append_nil _).symm⟩
  | some source =>
    obtain ⟨hdirectories, harchives⟩ := source.lists_addTo scene.loader.sources scene.loader.isBound
    refine ⟨hdirectories.trans ?_, harchives.trans ?_⟩
    · cases source <;> rfl
    · cases source <;> rfl

/-- A loader gets what a history registers, each kind in its order. -/
theorem lists_after (scene : Scene) (history : List Happening) :
    (scene.after history).loader.sources.directories = scene.loader.sources.directories ++
        (scene.registered history).filterMap Source.directory? ∧
      (scene.after history).loader.sources.archives = scene.loader.sources.archives ++
        (scene.registered history).filterMap Source.archive? := by
  induction history generalizing scene with
  | nil => exact ⟨(List.append_nil _).symm, (List.append_nil _).symm⟩
  | cons one rest ih =>
    obtain ⟨hdirectories, harchives⟩ := ih (scene.next one)
    obtain ⟨hdirectories', harchives'⟩ := lists_next scene one
    unfold registered
    rw [after_cons, hdirectories, harchives, hdirectories', harchives', List.filterMap_append,
      List.filterMap_append, List.append_assoc, List.append_assoc]
    exact ⟨rfl, rfl⟩

end Scene

/-- The search through all sources goes through the directories first, whatever the order of
registration was between the two kinds. -/
theorem locations_of_lists {registered : List Source} {sources : Sources}
    (hdirectories : sources.directories = registered.filterMap Source.directory?)
    (harchives : sources.archives = registered.filterMap Source.archive?) (volume : Volume)
    (name : String) : sources.locations volume name = ownLocations registered volume name := by
  have hfiles : ∀ source : Source,
      (source.directory?.bind fun directory =>
        (directory.resourcePath? volume name).map Location.file) =
          source.fileLocation? volume name := by
    intro source
    cases source with
    | directory added => exact added.map_resourcePath? volume name
    | archive number added => rfl
  have hentries : ∀ source : Source,
      source.archive?.bind (Sources.inArchive? name) = source.entryLocation? name := by
    intro source
    cases source with
    | directory added => rfl
    | archive number added => exact Sources.inArchive?_eq name number added
  unfold Sources.locations ownLocations
  rw [hdirectories, harchives, List.filterMap_filterMap, List.filterMap_filterMap]
  simp only [hfiles, hentries]

/-- The search that stops at the first location gives the head of the one that does not. -/
theorem locate?_eq_head? (sources : Sources) (volume : Volume) (name : String) :
    sources.locate? volume name = (sources.locations volume name).head? := by
  have hfirst : (sources.directories.findSome? fun directory =>
      (directory.resourcePath? volume name).map Location.file) =
        (sources.directories.findSome? fun directory =>
          directory.resourcePath? volume name).map Location.file := by
    induction sources.directories with
    | nil => rfl
    | cons directory rest ih =>
      rw [List.findSome?_cons, List.findSome?_cons, ih]
      cases directory.resourcePath? volume name <;> rfl
  unfold Sources.locate? Sources.locations
  rw [List.head?_append, List.head?_filterMap, List.head?_filterMap, hfirst]
  cases sources.directories.findSome? fun directory => directory.resourcePath? volume name <;> rfl

/-! ## How a lookup of a resource begins and ends -/

theorem Loader.reply_rememberResource (loader : Loader) (name : String)
    (found : Option Location) :
    (loader.rememberResource name found).reply = (loader.recallResource name).getD found := by
  unfold rememberResource recallResource
  split <;> rfl

theorem Loader.reply_rememberList (loader : Loader) (name : String) (found : List Location) :
    (loader.rememberList name found).reply = (loader.recallList name).getD found := by
  unfold rememberList recallList
  split <;> rfl

namespace Scene

open ResourceName (normalize)

theorem seek_of_unrecalled {scene : Scene} {name : String}
    (h : scene.loader.recallResource (normalize name) = none) :
    scene.step (.seek name) = ⟨.nothing, scene.await (.resource (normalize name)
      (scene.loader.sources.locate? scene.volume (normalize name))), []⟩ := by
  simp only [step, seek, h]

theorem seekAll_of_unrecalled {scene : Scene} {name : String}
    (h : scene.loader.recallList (normalize name) = none) :
    scene.step (.seekAll name) = ⟨.nothing, scene.await (.resources (normalize name)
      (scene.loader.sources.locations scene.volume (normalize name))), []⟩ := by
  simp only [step, seekAll, h]

theorem locate_of_waiting {scene : Scene} {number : Nat} {name : String} {own : Option Location}
    (found : Option Location) (h : scene.waiting.lookup number = some (.resource name own)) :
    scene.step (.locate number found) =
      (scene.dismiss number).settle (scene.loader.rememberResource name (own.or found))
        (.location name) := by
  simp only [step, locate, h]
  cases own <;> rfl

theorem locateAll_of_waiting {scene : Scene} {number : Nat} {name : String} {own : List Location}
    (found : List Location) (h : scene.waiting.lookup number = some (.resources name own)) :
    scene.step (.locateAll number found) =
      (scene.dismiss number).settle (scene.loader.rememberList name (own ++ found))
        (.locations name) := by
  simp only [step, locateAll, h]

/-- A lookup that has just begun waits for its answer, under the number that comes next. -/
theorem waits_of_begun {scene : Scene} {one : Happening} {errand : Errand} {events : List Event}
    (hbegins : scene.step one = ⟨.nothing, scene.await errand, events⟩) {during : List Happening}
    (hopen : ∀ other ∈ during, ¬ errand.EndedBy scene.begun other) :
    (scene.after (one :: during)).waiting.lookup scene.begun = some errand := by
  have hnext : scene.next one = scene.await errand := congrArg Step.scene hbegins
  rw [after_cons, hnext]
  exact waits_until during List.lookup_cons_self (Nat.lt_succ_self scene.begun) hopen

/-- A lookup of the first location ends with what the sources had when it began, or else with the
host's answer. If an outcome has been remembered meanwhile, that is the reply. -/
theorem locate_outcome {scene : Scene} {name : String}
    (hunrecalled : scene.loader.recallResource (normalize name) = none)
    {during : List Happening} (found : Option Location)
    (hopen : ∀ other, .locate scene.begun other ∉ during) :
    let later := scene.after (.seek name :: during)
    (later.step (.locate scene.begun found)).outcome =
      .location (normalize name) ((later.loader.recallResource (normalize name)).getD
        ((scene.loader.sources.locations scene.volume (normalize name)).head?.or found)) := by
  intro later
  have hwaiting : later.waiting.lookup scene.begun = some (.resource (normalize name)
      (scene.loader.sources.locate? scene.volume (normalize name))) := by
    refine waits_of_begun (seek_of_unrecalled hunrecalled) ?_
    rintro one hmem ⟨other, rfl⟩
    exact hopen other hmem
  rw [locate_of_waiting found hwaiting, ← locate?_eq_head?]
  exact congrArg (Outcome.location _) (Loader.reply_rememberResource ..)

/-- A lookup of all locations ends with what the sources had when it began, and then the host's
answer. If a list has been remembered meanwhile, that is the reply. -/
theorem locateAll_outcome {scene : Scene} {name : String}
    (hunrecalled : scene.loader.recallList (normalize name) = none)
    {during : List Happening} (found : List Location)
    (hopen : ∀ other, .locateAll scene.begun other ∉ during) :
    let later := scene.after (.seekAll name :: during)
    (later.step (.locateAll scene.begun found)).outcome =
      .locations (normalize name) ((later.loader.recallList (normalize name)).getD
        (scene.loader.sources.locations scene.volume (normalize name) ++ found)) := by
  intro later
  have hwaiting : later.waiting.lookup scene.begun = some (.resources (normalize name)
      (scene.loader.sources.locations scene.volume (normalize name))) := by
    refine waits_of_begun (seekAll_of_unrecalled hunrecalled) ?_
    rintro one hmem ⟨other, rfl⟩
    exact hopen other hmem
  rw [locateAll_of_waiting found hwaiting]
  exact congrArg (Outcome.locations _) (Loader.reply_rememberList ..)

end Scene

/-! ## Calls -/

namespace Layers

open ResourceName (normalize)

/-- A loader that is a host was there before the loader that has it. -/
def Stacked (layers : Layers) : Prop :=
  ∀ index parent, layers.hostAt index = .loader parent → parent < index

theorem Within.mono {layers after : Layers} {places more : List Nat}
    (h : layers.Within places after) (hsub : places ⊆ more) : layers.Within more after :=
  ⟨h.volume, fun p hp => h.others p fun hmem => hp (hsub hmem)⟩

theorem Within.refl (layers : Layers) (places : List Nat) : layers.Within places layers :=
  ⟨rfl, fun _ _ => rfl⟩

/-- The loaders up to a parent are earlier than the one above. So a lookup that is passed on stays
among them. -/
private theorem upTo_subset {parent index : Nat} (h : parent < index) :
    parent :: List.range parent ⊆ List.range index := by
  intro p hp
  rcases List.mem_cons.mp hp with rfl | hp
  · exact List.mem_range.mpr h
  · exact List.mem_range.mpr (Nat.lt_trans (List.mem_range.mp hp) h)

/-- What a lookup makes of the layers: the host has been asked or not, and then the loader may
remember what was found. -/
theorem findResource_cases (call : Caller) (layers : Layers) (index : Nat) (name : String) :
    ∃ asked, (asked = layers ∨ asked = (askResource call layers index (normalize name)).layers) ∧
      ((findResource call layers index name).layers = asked ∨
        ∃ layer found, asked.layers[index]? = some layer ∧
          (findResource call layers index name).layers = asked.setLoader index
            (layer.loader.rememberResource (normalize name) found).loader) := by
  unfold findResource
  cases hlayer : layers.layers[index]? with
  | none => exact ⟨layers, .inl rfl, .inl rfl⟩
  | some layer =>
    cases hrecall : layer.loader.recallResource (normalize name) with
    | some found =>
      simp only [hrecall]
      exact ⟨layers, .inl rfl, .inl rfl⟩
    | none =>
      simp only [hrecall]
      cases layer.loader.sources.locate? layers.volume (normalize name) with
      | some location =>
        simp only [hlayer]
        exact ⟨layers, .inl rfl, .inr ⟨layer, some location, hlayer, rfl⟩⟩
      | none =>
        -- The sources have nothing. The host is asked, and the loader that remembers its answer is
        -- the one that it leaves.
        refine ⟨_, .inr rfl, ?_⟩
        dsimp only
        generalize askResource call layers index (normalize name) = asked
        cases hlayer' : asked.layers.layers[index]? with
        | none => exact .inl rfl
        | some layer' => exact .inr ⟨layer', asked.reply, rfl, rfl⟩

theorem findResources_cases (call : Caller) (layers : Layers) (index : Nat) (name : String) :
    ∃ asked, (asked = layers ∨ asked = (askResources call layers index (normalize name)).layers) ∧
      ((findResources call layers index name).layers = asked ∨
        ∃ layer found, asked.layers[index]? = some layer ∧
          (findResources call layers index name).layers = asked.setLoader index
            (layer.loader.rememberList (normalize name) found).loader) := by
  unfold findResources
  cases hlayer : layers.layers[index]? with
  | none => exact ⟨layers, .inl rfl, .inl rfl⟩
  | some layer =>
    cases hrecall : layer.loader.recallList (normalize name) with
    | some found =>
      simp only [hrecall]
      exact ⟨layers, .inl rfl, .inl rfl⟩
    | none =>
      simp only [hrecall]
      refine ⟨_, .inr rfl, ?_⟩
      generalize askResources call layers index (normalize name) = asked
      cases hlayer' : asked.layers.layers[index]? with
      | none => exact .inl rfl
      | some layer' => exact .inr ⟨layer', _, rfl, rfl⟩

/-- A lookup that has asked its host or not, and whose loader has remembered something or not, has
changed that loader at most, and what the host has changed. -/
theorem Within.of_asked {layers hosted asked after : Layers} {index : Nat}
    (hhosted : layers.Within (List.range index) hosted) (hasked : asked = layers ∨ asked = hosted)
    (hafter : after = asked ∨ ∃ loader, after = asked.setLoader index loader) :
    layers.Within (index :: List.range index) after := by
  have hwithin : layers.Within (List.range index) asked := by
    rcases hasked with rfl | rfl
    · exact .refl _ _
    · exact hhosted
  rcases hafter with rfl | ⟨loader, rfl⟩
  · exact hwithin.mono (List.subset_cons_self _ _)
  · exact hwithin.setLoader index loader

/-- A lookup changes its loader and those that its host changes. The sources of all of them stay. -/
theorem findResource_within {call : Caller} {layers : Layers} {index : Nat} {name : String}
    (hhosted : layers.Within (List.range index)
      (askResource call layers index (normalize name)).layers) :
    layers.Within (index :: List.range index) (findResource call layers index name).layers := by
  obtain ⟨asked, hasked, hafter⟩ := findResource_cases call layers index name
  exact hhosted.of_asked hasked (hafter.imp_right fun ⟨_, _, _, heq⟩ => ⟨_, heq⟩)

theorem findResources_within {call : Caller} {layers : Layers} {index : Nat} {name : String}
    (hhosted : layers.Within (List.range index)
      (askResources call layers index (normalize name)).layers) :
    layers.Within (index :: List.range index) (findResources call layers index name).layers := by
  obtain ⟨asked, hasked, hafter⟩ := findResources_cases call layers index name
  exact hhosted.of_asked hasked (hafter.imp_right fun ⟨_, _, _, heq⟩ => ⟨_, heq⟩)

/-- A host that is asked for the first location of a resource takes a note, or is a loader that is
called. -/
theorem askResource_within_of {call : Caller} {layers : Layers} {index : Nat} {name : String}
    {places : List Nat} (hparent : ∀ parent, layers.hostAt index = .loader parent →
      layers.Within places (call layers parent (.resource name)).layers) :
    layers.Within places (askResource call layers index name).layers := by
  unfold askResource
  split
  · next parent hhost =>
    have hcalled := hparent parent hhost
    split <;> rename_i heq <;> rw [heq] at hcalled <;> exact hcalled
  · exact ⟨rfl, fun _ _ => loaderAt?_setHost ..⟩
  · exact .refl layers places

theorem askResources_within_of {call : Caller} {layers : Layers} {index : Nat} {name : String}
    {places : List Nat} (hparent : ∀ parent, layers.hostAt index = .loader parent →
      layers.Within places (call layers parent (.resources name)).layers) :
    layers.Within places (askResources call layers index name).layers := by
  unfold askResources
  split
  · next parent hhost =>
    have hcalled := hparent parent hhost
    split <;> rename_i heq <;> rw [heq] at hcalled <;> exact hcalled
  · exact ⟨rfl, fun _ _ => loaderAt?_setHost ..⟩
  · exact .refl layers places

/-- A host that is asked for a resource changes at most loaders that are earlier than the one that
asks. -/
theorem asks_within {layers : Layers} (hstacked : layers.Stacked) (depth : Nat) :
    ∀ (index : Nat) (name : String),
      layers.Within (List.range index) (askResource (callWithin depth) layers index name).layers ∧
      layers.Within (List.range index)
        (askResources (callWithin depth) layers index name).layers := by
  induction depth with
  | zero =>
    intro index name
    exact ⟨askResource_within_of fun _ _ => .refl layers _,
      askResources_within_of fun _ _ => .refl layers _⟩
  | succ depth ih =>
    intro index name
    constructor
    · refine askResource_within_of ?_
      intro parent hhost
      have hfound := findResource_within (ih parent (normalize name)).1
      exact hfound.mono (upTo_subset (hstacked index parent hhost))
    · refine askResources_within_of ?_
      intro parent hhost
      have hfound := findResources_within (ih parent (normalize name)).2
      exact hfound.mono (upTo_subset (hstacked index parent hhost))

/-- What the calls for a resource come to at a place where the sources have these locations. What
the host answers is asked of it by calls that nest at most so deep. -/
structure Locates (depth : Nat) (layers : Layers) (index : Nat) (loader : Loader) (name : String)
    (own : List Location) : Prop where
  all : loader.recallList (normalize name) = none →
    (callWithin (depth + 1) layers index (.resources name)).reply =
      .locations (own ++ (askResources (callWithin depth) layers index (normalize name)).reply)
  first : loader.recallResource (normalize name) = none →
    (callWithin (depth + 1) layers index (.resource name)).reply =
      .location (own.head?.or (askResource (callWithin depth) layers index (normalize name)).reply)
  /-- The first location is the head of the list, if it is so at the host. -/
  agree : loader.recallList (normalize name) = none →
    loader.recallResource (normalize name) = none →
    (askResource (callWithin depth) layers index (normalize name)).reply =
      (askResources (callWithin depth) layers index (normalize name)).reply.head? →
    ∃ found, (callWithin (depth + 1) layers index (.resources name)).reply = .locations found ∧
      (callWithin (depth + 1) layers index (.resource name)).reply = .location found.head?

theorem locates_of_stacked {layers : Layers} {index : Nat} {loader : Loader} (depth : Nat)
    (name : String) (hstacked : layers.Stacked) (hloader : layers.loaderAt? index = some loader) :
    Locates depth layers index loader name
      (loader.sources.locations layers.volume (normalize name)) := by
  obtain ⟨layer, hlayer, rfl⟩ := Option.map_eq_some_iff.mp hloader
  obtain ⟨hfirst, hall⟩ := asks_within hstacked depth index (normalize name)
  -- A host is an earlier loader, and whatever it calls is earlier still.
  have halone := fun {asked : Layers} (hasked : layers.Within (List.range index) asked) =>
    (hasked.others index List.not_mem_range_self).trans hloader
  have hresources : layer.loader.recallList (normalize name) = none →
      (callWithin (depth + 1) layers index (.resources name)).reply = .locations
        (layer.loader.sources.locations layers.volume (normalize name) ++
          (askResources (callWithin depth) layers index (normalize name)).reply) := by
    intro hunrecalled
    obtain ⟨hreply, -⟩ := findResources_of_unrecalled hlayer (callWithin depth) hunrecalled rfl
      (halone hall)
    exact congrArg Reply.locations hreply
  have hresource : layer.loader.recallResource (normalize name) = none →
      (callWithin (depth + 1) layers index (.resource name)).reply = .location
        ((layer.loader.sources.locations layers.volume (normalize name)).head?.or
          (askResource (callWithin depth) layers index (normalize name)).reply) := by
    intro hunrecalled
    obtain ⟨hreply, -⟩ := findResource_of_unrecalled hlayer (callWithin depth) hunrecalled rfl
      (halone hfirst)
    rw [locate?_eq_head?] at hreply
    exact congrArg Reply.location hreply
  refine ⟨hresources, hresource, ?_⟩
  intro hunlisted hunlocated hhost
  refine ⟨_, hresources hunlisted, ?_⟩
  rw [hresource hunlocated, hhost, List.head?_append]

/-- Leading slashes make no difference to a call: not to its reply, and not to what is remembered
after it. -/
theorem callWithin_slashed (depth : Nat) (layers : Layers) (index slashes : Nat) (name : String) :
    callWithin depth layers index (.resource (ResourceName.slashed slashes name)) =
        callWithin depth layers index (.resource name) ∧
      callWithin depth layers index (.resources (ResourceName.slashed slashes name)) =
        callWithin depth layers index (.resources name) ∧
      callWithin depth layers index (.openResource (ResourceName.slashed slashes name)) =
        callWithin depth layers index (.openResource name) := by
  cases depth with
  | zero => exact ⟨rfl, rfl, rfl⟩
  | succ depth =>
    have hfirst : findResource (callWithin depth) layers index
        (ResourceName.slashed slashes name) =
          findResource (callWithin depth) layers index name := by
      unfold findResource
      rw [ResourceName.normalize_slashed]
    have hall : findResources (callWithin depth) layers index
        (ResourceName.slashed slashes name) =
          findResources (callWithin depth) layers index name := by
      unfold findResources
      rw [ResourceName.normalize_slashed]
    unfold callWithin perform
    dsimp only
    rw [hfirst, hall]
    exact ⟨rfl, rfl, rfl⟩

end Layers

namespace Scene

open ResourceName (normalize slashed)

/-! ## Both for every history -/

/-- What the lookups of a resource come to in a scene whose sources have these locations. -/
structure Locates (scene : Scene) (name : String) (own : List Location) : Prop where
  /-- All locations: those that the sources have, and then those of the host. A list that has been
  remembered while the lookup waited is the reply instead. -/
  all : scene.loader.recallList (normalize name) = none →
    (scene.step (.seekAll name)).outcome = .nothing ∧
    ∀ during found, (∀ other, .locateAll scene.begun other ∉ during) →
      let later := scene.after (.seekAll name :: during)
      (later.step (.locateAll scene.begun found)).outcome = .locations (normalize name)
        ((later.loader.recallList (normalize name)).getD (own ++ found))
  /-- The first location: that of the sources, or else that of the host. An outcome that has been
  remembered while the lookup waited is the reply instead. -/
  first : scene.loader.recallResource (normalize name) = none →
    (scene.step (.seek name)).outcome = .nothing ∧
    ∀ during found, (∀ other, .locate scene.begun other ∉ during) →
      let later := scene.after (.seek name :: during)
      (later.step (.locate scene.begun found)).outcome = .location (normalize name)
        ((later.loader.recallResource (normalize name)).getD (own.head?.or found))
  /-- If the host's first location is the head of its list, so is the loader's, whatever the host
  does in the meantime but for a lookup that leaves a memory of this resource. -/
  agree : scene.loader.recallList (normalize name) = none →
    scene.loader.recallResource (normalize name) = none →
    ∀ during during' found, (∀ other, .locateAll scene.begun other ∉ during) →
      (∀ other, .locate scene.begun other ∉ during') →
      let later := scene.after (.seekAll name :: during)
      let later' := scene.after (.seek name :: during')
      later.loader.recallList (normalize name) = none →
      later'.loader.recallResource (normalize name) = none →
      ∃ all, (later.step (.locateAll scene.begun found)).outcome =
          .locations (normalize name) all ∧
        (later'.step (.locate scene.begun found.head?)).outcome =
          .location (normalize name) all.head?
  /-- The same for calls, whose hosts are earlier loaders or programs. -/
  calls : ∀ depth layers index, layers.loaderAt? index = some scene.loader →
    layers.volume = scene.volume → layers.Stacked →
      Layers.Locates depth layers index scene.loader name own
  /-- Leading slashes make no difference to a lookup, and so none to what it leaves behind. -/
  slashes : ∀ slashes, scene.step (.seek (slashed slashes name)) = scene.step (.seek name) ∧
    scene.step (.seekAll (slashed slashes name)) = scene.step (.seekAll name)

/-- The list of all locations of a resource has the files of the registered directories, the
entries of the registered archives, each in the order of registration, and then what the host has.
The first location is the head of that list, or else what the host answers. -/
theorem exact_resources (start : Scene) (hstart : start.loader.sources = {})
    (history : List Happening) (name : String) :
    Locates (start.after history) name
        (ownLocations (start.registered history) (start.after history).volume (normalize name)) ∧
      ∀ depth layers index slashes,
        Layers.callWithin depth layers index (.resource (slashed slashes name)) =
            Layers.callWithin depth layers index (.resource name) ∧
          Layers.callWithin depth layers index (.resources (slashed slashes name)) =
            Layers.callWithin depth layers index (.resources name) := by
  obtain ⟨hdirectories, harchives⟩ := lists_after start history
  rw [hstart] at hdirectories harchives
  rw [← locations_of_lists hdirectories harchives]
  refine ⟨⟨?_, ?_, ?_, ?_, ?_⟩, ?_⟩
  · intro hunrecalled
    exact ⟨congrArg Step.outcome (seekAll_of_unrecalled hunrecalled),
      fun during found hopen => locateAll_outcome hunrecalled found hopen⟩
  · intro hunrecalled
    exact ⟨congrArg Step.outcome (seek_of_unrecalled hunrecalled),
      fun during found hopen => locate_outcome hunrecalled found hopen⟩
  · -- Neither lookup has been remembered, so both give what the sources have
    -- and then what the host has.
    intro hunlisted hunlocated during during' found hopen hopen' later later' hlist hfirst
    have hall : (later.step (.locateAll _ found)).outcome =
        .locations _ ((later.loader.recallList _).getD _) :=
      locateAll_outcome hunlisted found hopen
    have hone : (later'.step (.locate _ found.head?)).outcome =
        .location _ ((later'.loader.recallResource _).getD _) :=
      locate_outcome hunlocated found.head? hopen'
    rw [hlist] at hall
    rw [hfirst, Option.getD_none, ← List.head?_append] at hone
    exact ⟨_, hall, hone⟩
  · intro depth layers index hloader hvolume hstacked
    rw [← hvolume]
    exact Layers.locates_of_stacked depth name hstacked hloader
  · intro slashes
    have hsame := ResourceName.normalize_slashed slashes name
    exact ⟨congrArg (start.after history).seek hsame, congrArg (start.after history).seekAll hsame⟩
  · intro depth layers index slashes
    obtain ⟨hfirst, hall, -⟩ := Layers.callWithin_slashed depth layers index slashes name
    exact ⟨hfirst, hall⟩

/-- An archive with a resource of one byte, which is stored. -/
def bundle : Image := .held ⟨#[
  80, 75, 3, 4, 20, 0, 0, 0, 0, 0, 0, 0, 33, 0, 46, 122, 102, 76, 1, 0, 0, 0, 1, 0, 0, 0, 5, 0, 0,
  0, 116, 46, 116, 120, 116, 7, 80, 75, 1, 2, 20, 3, 20, 0, 0, 0, 0, 0, 0, 0, 33, 0, 46, 122, 102,
  76, 1, 0, 0, 0, 1, 0, 0, 0, 5, 0, 0, 0, 0, 0, 0, 0, 0, 0, 0, 0, 128, 1, 0, 0, 0, 0, 116, 46, 116,
  120, 116, 80, 75, 5, 6, 0, 0, 0, 0, 1, 0, 1, 0, 51, 0, 0, 0, 36, 0, 0, 0, 0, 0]⟩

/-- A directory with the same resource, and a loader without sources. -/
def desk : Scene :=
  ⟨.create 0 {} {},
    { root := .directory [("lib", .directory [("t.txt", .file 0)])], contents := #[⟨#[1]⟩] }, [], 0⟩

/-- The archive comes first, once more under another origin, and then the directory. -/
def bundles : List Happening :=
  [.registerImage bundle "b", .registerDirectory "/lib", .registerImage bundle "c"]

/-- A program that has two locations of the resource. The first is the one it names when one is
wanted. -/
def twofold : Host :=
  .embedder { resources := [("t.txt", [.hosted "first", .hosted "second"])] }

set_option maxRecDepth 20000 in
private theorem ownLocations_bundles : ownLocations (desk.registered bundles)
    (desk.after bundles).volume "t.txt" =
      [.file "/lib/t.txt", .entry "b" "t.txt", .entry "c" "t.txt"] := by cbv

set_option maxRecDepth 20000 in
private theorem recall_bundles : (desk.after bundles).volume = desk.volume ∧
    (desk.after bundles).loader.recallList "t.txt" = none ∧
    (desk.after bundles).loader.recallResource "t.txt" = none := ⟨by cbv, by cbv, by cbv⟩

/-- The directory comes first although it was registered between the archives. -/
theorem exact_resources_bundled :
    let layers : Layers := ⟨desk.volume, [⟨(desk.after bundles).loader, twofold⟩]⟩
    (Layers.callWithin 1 layers 0 (.resources "//t.txt")).reply = .locations
        [.file "/lib/t.txt", .entry "b" "t.txt", .entry "c" "t.txt", .hosted "first",
          .hosted "second"] ∧
      (Layers.callWithin 1 layers 0 (.resource "t.txt")).reply =
        .location (some (.file "/lib/t.txt")) := by
  intro layers
  obtain ⟨hlocates, hslashes⟩ := exact_resources desk rfl bundles "t.txt"
  obtain ⟨hvolume, hunlisted, hunlocated⟩ := recall_bundles
  have hname : normalize "t.txt" = "t.txt" := by decide
  have hspelled : slashed 2 "t.txt" = "//t.txt" := by decide
  have hstacked : layers.Stacked := by
    intro index parent hhost
    cases index <;> cases hhost
  have hcalls := hlocates.calls 0 layers 0 rfl hvolume.symm hstacked
  rw [hname, ownLocations_bundles] at hcalls
  obtain ⟨-, hall⟩ := hslashes 1 layers 0 2
  rw [hspelled] at hall
  refine ⟨?_, ?_⟩
  · rw [hall]
    exact hcalls.all hunlisted
  · exact hcalls.first hunlocated

end Scene

end LayeredUnits
