import Mathlib
import LayeredUnits.Proofs.Atlas
import LayeredUnits.Proofs.Locations
import LayeredUnits.Proofs.Transparency

/-!
# What overrides what after a clear

The two searches for a resource have memories with different rules. A clear
takes all lists, but it leaves the first locations that were found, so that a
resource stays where it was found once. A directory that is registered later
overrides archives and the host in every list from the next clear on. It
overrides the first location only of a resource that has not been found before.

* `resource_of_serves`, `resources_of_serves`, `openResource_of_serves` — what
  calls for resources come to over a quiet host.
* `hit?_serving` — the first location that is remembered after a call. It is the
  one from before, or what the call has found.
* `exists_ran` — so after a run it is what the first successful lookup found.
* `first_location_after_clear` — what both searches come to when a clear has
  ended a run.
-/

namespace LayeredUnits

open ResourceName (normalize)

namespace Loader

/-- What a lookup of the first location of a resource comes to over a quiet host. -/
def locating (loader : Loader) (volume : Volume) (host : Host) (name : String) :
    Turn (Option Location) :=
  loader.rememberResource name
    ((loader.sources.locations volume name).head?.or (host.location? name))

/-- What a lookup of all locations of a resource comes to over a quiet host. -/
def listing (loader : Loader) (volume : Volume) (host : Host) (name : String) :
    Turn (List Location) :=
  loader.rememberList name (loader.sources.locations volume name ++ host.locations name)

/-- What is remembered stays, and is the reply, whatever the search has found. -/
theorem rememberResource_of_recalled {loader : Loader} {name : String} {held : Option Location}
    (found : Option Location) (h : loader.recallResource name = some held) :
    loader.rememberResource name found = ⟨held, loader, []⟩ := by
  unfold recallResource at h
  unfold rememberResource
  split at h
  · next hremembers =>
    rw [if_pos hremembers]
    unfold Memo.rememberResource
    rw [Table.insertNew_of_some found h, Table.kept_of_some found h]
  · cases h

theorem rememberList_of_recalled {loader : Loader} {name : String} {held : List Location}
    (found : List Location) (h : loader.recallList name = some held) :
    loader.rememberList name found = ⟨held, loader, []⟩ := by
  unfold recallList at h
  unfold rememberList
  split at h
  · next hremembers =>
    rw [if_pos hremembers]
    unfold Memo.rememberList
    rw [Table.insertNew_of_some found h, Table.kept_of_some found h]
  · cases h

/-- The loader after a call over a quiet host. Such a host plays no part but to answer, so this can
be written as a function. -/
def serving (loader : Loader) (volume : Volume) (host : Host) : Call → Loader
  | .resource name | .openResource name => (loader.locating volume host (normalize name)).loader
  | .resources name => (loader.listing volume host (normalize name)).loader
  | one => (loader.serve volume host one).loader

end Loader

namespace Layers

/-! ## Calls for resources over a quiet host -/

section

variable {layers : Layers} {index : Nat} {layer : Layer} {name : String}
  (hlayer : layers.layers[index]? = some layer) (hquiet : layer.host.IsQuiet) (call : Caller)

include hlayer hquiet

theorem askResource_eq : ∃ host : Host, host.Succeeds layer.host ∧
    askResource call layers index name =
      ⟨layer.host.location? name, layers.setLayer index { layer with host := host }, []⟩ := by
  obtain ⟨loader, host⟩ := layer
  unfold askResource
  rw [hostAt_of_some hlayer]
  cases host with
  | none => exact ⟨.none, hquiet.succeeds, by rw [setLayer_same hlayer]; rfl⟩
  | loader parent => exact absurd hquiet id
  | embedder embedder =>
    refine ⟨.embedder (embedder.note (.resource name)), ⟨hquiet, fun _ => rfl, fun _ => rfl⟩, ?_⟩
    dsimp only
    rw [setHost_eq _ hlayer]
    rfl

theorem askResources_eq : ∃ host : Host, host.Succeeds layer.host ∧
    askResources call layers index name =
      ⟨layer.host.locations name, layers.setLayer index { layer with host := host }, []⟩ := by
  obtain ⟨loader, host⟩ := layer
  unfold askResources
  rw [hostAt_of_some hlayer]
  cases host with
  | none => exact ⟨.none, hquiet.succeeds, by rw [setLayer_same hlayer]; rfl⟩
  | loader parent => exact absurd hquiet id
  | embedder embedder =>
    refine ⟨.embedder (embedder.note (.resources name)), ⟨hquiet, fun _ => rfl, fun _ => rfl⟩, ?_⟩
    dsimp only
    rw [setHost_eq _ hlayer]
    rfl

/-- The first location of a resource over a quiet host, remembered or not. -/
theorem findResource_eq : ∃ host : Host, host.Succeeds layer.host ∧
    let turn := layer.loader.locating layers.volume layer.host (normalize name)
    (findResource call layers index name).reply = turn.reply ∧
      (findResource call layers index name).layers =
        layers.setLayer index ⟨turn.loader, host⟩ := by
  unfold findResource Loader.locating
  simp only [hlayer]
  cases hrecall : layer.loader.recallResource (normalize name) with
  | some found =>
    rw [Loader.rememberResource_of_recalled _ hrecall]
    exact ⟨layer.host, hquiet.succeeds, rfl, (setLayer_same hlayer).symm⟩
  | none =>
    -- The memory has nothing, so the sources decide, and after them the host. A quiet
    -- host at most takes a note.
    rw [← locate?_eq_head?]
    cases layer.loader.sources.locate? layers.volume (normalize name) with
    | some location =>
      simp only [hlayer]
      exact ⟨layer.host, hquiet.succeeds, rfl, setLoader_eq _ hlayer⟩
    | none =>
      obtain ⟨host, hhost, hasked⟩ := @askResource_eq layers index layer (normalize name) hlayer
        hquiet call
      have hwaiting := layer_setLayer_self { layer with host := host } hlayer
      simp only [hasked, hwaiting]
      refine ⟨host, hhost, rfl, ?_⟩
      exact (setLoader_eq _ hwaiting).trans (setLayer_setLayer ..)

/-- All locations of a resource over a quiet host, remembered or not. -/
theorem findResources_eq : ∃ host : Host, host.Succeeds layer.host ∧
    let turn := layer.loader.listing layers.volume layer.host (normalize name)
    (findResources call layers index name).reply = turn.reply ∧
      (findResources call layers index name).layers =
        layers.setLayer index ⟨turn.loader, host⟩ := by
  unfold findResources Loader.listing
  simp only [hlayer]
  cases hrecall : layer.loader.recallList (normalize name) with
  | some found =>
    rw [Loader.rememberList_of_recalled _ hrecall]
    exact ⟨layer.host, hquiet.succeeds, rfl, (setLayer_same hlayer).symm⟩
  | none =>
    obtain ⟨host, hhost, hasked⟩ := @askResources_eq layers index layer (normalize name) hlayer
      hquiet call
    have hwaiting := layer_setLayer_self { layer with host := host } hlayer
    simp only [hasked, hwaiting]
    refine ⟨host, hhost, rfl, ?_⟩
    exact (setLoader_eq _ hwaiting).trans (setLayer_setLayer ..)

omit call in
/-- A quiet host that is asked to open a location at most takes a note. -/
theorem openLocation_eq (location : Location) (fuel : Nat) :
    ∃ host : Host, host.Succeeds layer.host ∧
      (layers.openLocation location fuel index).layers =
        layers.setLayer index { layer with host := host } := by
  have hkept := kept_of_quiet hlayer hquiet
  cases fuel with
  | zero => exact hkept
  | succ fuel =>
    obtain ⟨loader, host⟩ := layer
    unfold openLocation
    simp only [hlayer]
    cases loader.openLocation layers.volume location with
    | some result => exact hkept
    | none =>
      cases host with
      | none => exact hkept
      -- A quiet host is no loader.
      | loader parent => exact absurd hquiet id
      | embedder embedder =>
        refine ⟨.embedder (embedder.openLocation location).2, ?_, setHost_eq _ hlayer⟩
        unfold Embedder.openLocation
        split
        · exact hquiet.succeeds
        · split <;> exact ⟨hquiet, fun _ => rfl, fun _ => rfl⟩

end

variable {layers : Layers} {place : Nat} {volume : Volume} {host : Host} {loader : Loader}

theorem Serves.setLayer {now later : Host} (hlayer : layers.layers[place]? = some ⟨loader, now⟩)
    (hnow : now.Succeeds host) (hlater : later.Succeeds now) (next : Loader) :
    (layers.setLayer place ⟨next, later⟩).Serves place layers.volume host next :=
  ⟨rfl, later, hnow.trans hlater, layer_setLayer_self _ hlayer⟩

theorem locating_congr {now : Host} (h : now.Succeeds host) (name : String) :
    loader.locating volume now name = loader.locating volume host name := by
  unfold Loader.locating Host.location?
  rw [h.locations]

theorem listing_congr {now : Host} (h : now.Succeeds host) (name : String) :
    loader.listing volume now name = loader.listing volume host name := by
  unfold Loader.listing
  rw [h.locations]

theorem resource_of_serves (h : layers.Serves place volume host loader) (name : String) :
    let turn := loader.locating volume host (normalize name)
    (layers.call place (.resource name)).reply = .location turn.reply ∧
      (layers.call place (.resource name)).layers.Serves place volume host turn.loader := by
  obtain ⟨rfl, now, hnow, hlayer⟩ := h
  obtain ⟨depth, hdepth⟩ := layers.exists_depth
  obtain ⟨later, hlater, hreply, hlayers⟩ :=
    @findResource_eq layers place ⟨loader, now⟩ name hlayer hnow.quiet (callWithin depth)
  rw [locating_congr hnow] at hreply hlayers
  rw [hdepth]
  refine ⟨congrArg Reply.location hreply, ?_⟩
  show (findResource (callWithin depth) layers place name).layers.Serves place _ host _
  rw [hlayers]
  exact .setLayer hlayer hnow hlater _

theorem resources_of_serves (h : layers.Serves place volume host loader) (name : String) :
    let turn := loader.listing volume host (normalize name)
    (layers.call place (.resources name)).reply = .locations turn.reply ∧
      (layers.call place (.resources name)).layers.Serves place volume host turn.loader := by
  obtain ⟨rfl, now, hnow, hlayer⟩ := h
  obtain ⟨depth, hdepth⟩ := layers.exists_depth
  obtain ⟨later, hlater, hreply, hlayers⟩ :=
    @findResources_eq layers place ⟨loader, now⟩ name hlayer hnow.quiet (callWithin depth)
  rw [listing_congr hnow] at hreply hlayers
  rw [hdepth]
  refine ⟨congrArg Reply.locations hreply, ?_⟩
  show (findResources (callWithin depth) layers place name).layers.Serves place _ host _
  rw [hlayers]
  exact .setLayer hlayer hnow hlater _

/-- To open a resource is to look up its first location, as far as the loader is concerned. -/
theorem openResource_of_serves (h : layers.Serves place volume host loader) (name : String) :
    (layers.call place (.openResource name)).layers.Serves place volume host
      (loader.locating volume host (normalize name)).loader := by
  obtain ⟨rfl, now, hnow, hlayer⟩ := h
  obtain ⟨depth, hdepth⟩ := layers.exists_depth
  obtain ⟨later, hlater, -, hlayers⟩ :=
    @findResource_eq layers place ⟨loader, now⟩ name hlayer hnow.quiet (callWithin depth)
  rw [locating_congr hnow] at hlayers
  rw [hdepth]
  unfold callWithin perform
  dsimp only
  generalize findResource (callWithin depth) layers place name = found at hlayers
  obtain ⟨location, after, events⟩ := found
  obtain rfl : after = _ := hlayers
  cases location with
  | none => exact .setLayer hlayer hnow hlater _
  | some location =>
    -- To open what was found may make the host take one more note.
    have hput := @layer_setLayer_self layers place _
      ⟨(loader.locating layers.volume host (normalize name)).loader, later⟩ hlayer
    obtain ⟨last, hlast, hopened⟩ := openLocation_eq hput hlater.quiet location
      (layers.setLayer place
        ⟨(loader.locating layers.volume host (normalize name)).loader, later⟩).layers.length
    show (openLocation _ location _ place).layers.Serves place _ host _
    rw [hopened, setLayer_setLayer]
    exact .setLayer hlayer hnow (hlater.trans hlast) _

/-- A call that leaves the files alone keeps all that is known of the stack, with the loader as
`serving` has it. -/
theorem serves_call (h : layers.Serves place volume host loader) {one : Call}
    (hone : edits one = false) :
    (layers.call place one).layers.Serves place volume host (loader.serving volume host one) := by
  cases one with
  | resource name => exact (resource_of_serves h name).2
  | resources name => exact (resources_of_serves h name).2
  | openResource name => exact openResource_of_serves h name
  | edit edit => cases hone
  | _ => exact (call_of_serves h rfl).2

/-- What a run does to a loader adds sources to those that it has, and leaves its options. -/
theorem grows_after {layers : Layers} {place : Nat} {loader now : Loader}
    {calls : List (Nat × Call)} (hloader : layers.loaderAt? place = some loader)
    (hnow : (layers.after calls).loaderAt? place = some now) :
    now.options = loader.options ∧
      ∃ more, now.sources.directories = loader.sources.directories ++ more := by
  obtain ⟨last, hlast, hhistory⟩ := (layers.after_leads place calls).history loader hloader
  obtain rfl : last = now := Option.some.inj (hlast.symm.trans hnow)
  obtain ⟨history, begun, hafter, -⟩ := hhistory [] 0
  have hoptions := Scene.options_after ⟨loader, layers.volume, [], 0⟩ history
  obtain ⟨hdirectories, -⟩ := Scene.lists_after ⟨loader, layers.volume, [], 0⟩ history
  rw [hafter] at hoptions hdirectories
  exact ⟨hoptions, _, hdirectories⟩

end Layers

/-! ## What is remembered of a first location -/

/-- The resource whose first location a call looks up. To open a resource is one of the ways. -/
def Call.sought? : Call → Option String
  | .resource name | .openResource name => some (normalize name)
  | _ => none

namespace Loader

variable {loader : Loader} {volume : Volume} {host : Host}

theorem atlas_resolve (loader : Loader) (volume : Volume) (name : String)
    (answer : Option (Shared CodeUnit)) :
    (loader.resolve volume name answer).loader.atlas = loader.atlas := by
  have hbegin := loader.atlas_beginLookup name
  unfold resolve
  generalize loader.beginLookup name = turn at hbegin ⊢
  obtain ⟨beginning, asking, events⟩ := turn
  cases beginning with
  | answered result => exact hbegin
  | waiting ticket => exact (atlas_finishLookup asking volume ticket answer).trans hbegin

/-- What a call makes of the first locations that are remembered. This is the step of the induction
over a run. -/
inductive Keeps (loader : Loader) (volume : Volume) (host : Host) (one : Call) :
    Table (Option Location) → Prop
  | located {name : String} (hsought : one.sought? = some name)
      (hremembers : loader.remembersResource name = true) :
      Keeps loader volume host one (loader.memo.resources.insertNew name
        ((loader.sources.locations volume name).head?.or (host.location? name)))
  | cleared (hone : one = .forgetMisses) :
      Keeps loader volume host one (loader.memo.resources.retain Option.isSome)
  /-- A lookup of a speculative resource leaves nothing, and other calls do not look. -/
  | same (hunsought : ∀ name, one.sought? = some name → loader.remembersResource name = false) :
      Keeps loader volume host one loader.memo.resources

theorem keeps_locating {one : Call} {name : String} (hsought : one.sought? = some name) :
    Keeps loader volume host one (loader.locating volume host name).loader.memo.resources := by
  unfold locating rememberResource
  cases hremembers : loader.remembersResource name with
  | true => exact .located hsought hremembers
  | false =>
    refine .same ?_
    intro other hother
    rw [← Option.some.inj (hsought.symm.trans hother)]
    exact hremembers

theorem keeps_serving (loader : Loader) (volume : Volume) (host : Host) (one : Call) :
    Keeps loader volume host one (loader.serving volume host one).memo.resources := by
  have hsame : ∀ {atlas : Atlas}, one.sought? = none → atlas = loader.atlas →
      Keeps loader volume host one atlas.resources := by
    rintro atlas hunsought rfl
    refine .same ?_
    intro name hname
    cases hunsought.symm.trans hname
  cases one with
  | resource sought => exact keeps_locating rfl
  | openResource sought => exact keeps_locating rfl
  | resources sought =>
    have hlists : (loader.listing volume host (normalize sought)).loader.memo.resources =
        loader.memo.resources := by
      unfold listing rememberList
      split <;> rfl
    exact hlists ▸ hsame rfl rfl
  | forgetMisses => exact .cleared rfl
  | load name _ => exact hsame rfl (loader.atlas_resolve ..)
  | find name => exact hsame rfl (loader.atlas_resolve ..)
  | preload unit => exact hsame rfl (loader.atlas_preload unit)
  | registerDirectory path => exact hsame rfl (atlas_register _ loader.atlas_addDirectory)
  | registerArchive path => exact hsame rfl (atlas_register _ loader.atlas_addArchive)
  | registerImage image origin => exact hsame rfl (atlas_register _ loader.atlas_addArchive)
  | edit edit => exact hsame rfl rfl

/-- A lookup of a resource that may be remembered replies with what is remembered of it then. -/
theorem reply_locating {name : String} (hremembers : loader.remembersResource name = true) :
    (loader.locating volume host name).reply = loader.memo.resources.kept name
      ((loader.sources.locations volume name).head?.or (host.location? name)) := by
  unfold locating rememberResource
  rw [if_pos hremembers]

theorem distinct_serving (h : loader.memo.resources.Distinct) (one : Call) :
    (loader.serving volume host one).memo.resources.Distinct := by
  have hkeeps := keeps_serving loader volume host one
  generalize (loader.serving volume host one).memo.resources = resources at hkeeps ⊢
  cases hkeeps with
  | located => exact h.insertNew ..
  | cleared => exact h.retain _
  | same => exact h

/-- After a call, the first location that is remembered is the one from before, or what the call has
found. A clear does not take it. -/
theorem hit?_serving (hdistinct : loader.memo.resources.Distinct) (one : Call) {name : String}
    (hremembers : loader.remembersResource name = true) :
    (loader.serving volume host one).atlas.hit? name = (loader.atlas.hit? name).or
      (if one.sought? = some name then (loader.locating volume host name).reply else none) := by
  have hkeeps := keeps_serving loader volume host one
  unfold Atlas.hit? atlas
  dsimp only
  generalize (loader.serving volume host one).memo.resources = resources at hkeeps ⊢
  cases hkeeps with
  | @located sought hsought _ =>
    by_cases hsame : name = sought
    · -- A location that was there stays, and an absence gives way to what has been found.
      subst hsame
      rw [if_pos hsought, reply_locating hremembers, Table.get?_insertNew_self]
      unfold Table.kept
      cases loader.memo.resources.get? name with
      | none => rfl
      | some held => cases held <;> rfl
    · have hother : one.sought? ≠ some name := by
        rw [hsought]
        exact fun heq => hsame (Option.some.inj heq).symm
      rw [if_neg hother, Option.or_none, Table.get?_insertNew_of_ne _ _ hsame]
  | cleared hone =>
    -- A clear takes absences, and a hit is no absence.
    subst hone
    exact (@Atlas.hit?_clear loader.atlas hdistinct name).trans Option.or_none.symm
  | same hunsought =>
    have hother : one.sought? ≠ some name := by
      intro hname
      cases (hunsought name hname).symm.trans hremembers
    rw [if_neg hother, Option.or_none]

end Loader

namespace Layers

/-- The first location that a call finds of a resource, if it looks for that. -/
def foundBy? (layers : Layers) (place : Nat) (name : String) (one : Call) : Option Location :=
  if one.sought? = some name then
    match (layers.call place (.resource name)).reply with
    | .location found => found
    | _ => none
  else none

/-- What the first successful lookup of the first location of a resource finds in a run. -/
def firstFound? (place : Nat) (name : String) : Layers → List Call → Option Location
  | _, [] => none
  | layers, one :: rest =>
    (layers.foundBy? place name one).or (firstFound? place name (layers.call place one).layers rest)

variable {layers : Layers} {place : Nat} {volume : Volume} {host : Host} {loader : Loader}

theorem foundBy?_of_serves (h : layers.Serves place volume host loader) (one : Call)
    (name : String) : layers.foundBy? place (normalize name) one =
      if one.sought? = some (normalize name) then
        (loader.locating volume host (normalize name)).reply
      else none := by
  obtain ⟨hreply, -⟩ := resource_of_serves h (normalize name)
  rw [ResourceName.normalize_normalize] at hreply
  unfold foundBy?
  rw [hreply]

/-- What is known of a loader after a run: the stack around it, and where its remembered locations
come from. -/
structure Ran (layers : Layers) (place : Nat) (volume : Volume) (host : Host) (loader : Loader)
    (calls : List Call) (now : Loader) : Prop where
  serves : (layers.after (calls.map (place, ·))).Serves place volume host now
  distinct : now.memo.resources.Distinct
  hits : ∀ name, loader.remembersResource (normalize name) = true →
    now.atlas.hit? (normalize name) =
      (loader.atlas.hit? (normalize name)).or (firstFound? place (normalize name) layers calls)

theorem grows_call (h : layers.Serves place volume host loader) {one : Call}
    (hone : edits one = false) :
    (loader.serving volume host one).options = loader.options :=
  (@grows_after layers place _ _ [(place, one)] h.loaderAt? (serves_call h hone).loaderAt?).1

/-- After a run, the first location that is remembered is the one from before, or what the first
successful lookup has found. -/
theorem exists_ran (h : layers.Serves place volume host loader)
    (hdistinct : loader.memo.resources.Distinct) (calls : List Call)
    (hcalls : ∀ one ∈ calls, edits one = false) :
    ∃ now, Ran layers place volume host loader calls now := by
  induction calls generalizing layers loader with
  | nil => exact ⟨loader, h, hdistinct, fun _ _ => Option.or_none.symm⟩
  | cons one rest ih =>
    have hone : edits one = false := hcalls one List.mem_cons_self
    have hserves := serves_call h hone
    have hoptions := grows_call h hone
    obtain ⟨now, hnow, hdistinct', hhits⟩ := ih hserves (Loader.distinct_serving hdistinct one)
      fun other hother => hcalls other (List.mem_cons_of_mem one hother)
    refine ⟨now, hnow, hdistinct', ?_⟩
    intro name hremembers
    have hremembers' :
        (loader.serving volume host one).remembersResource (normalize name) = true := by
      unfold Loader.remembersResource at hremembers ⊢
      rw [hoptions]
      exact hremembers
    have hhit := @Loader.hit?_serving loader volume host hdistinct one _ hremembers
    rw [hhits name hremembers', hhit, ← foundBy?_of_serves h, Option.or_assoc]
    rfl

/-- A directory that is registered in a run stays registered, and its place in the order stays. -/
theorem registered_after {calls : List Call} {now : Loader} {path : String} {directory : Directory}
    (h : layers.Serves place volume host loader) (hdistinct : loader.memo.resources.Distinct)
    (hcalls : ∀ one ∈ calls, edits one = false) (hcall : .registerDirectory path ∈ calls)
    (hscan : (Directory.scan volume path loader.options.unitSuffix).1 = .ok directory)
    (hnow : (layers.after (calls.map (place, ·))).loaderAt? place = some now) :
    directory ∈ now.sources.directories := by
  obtain ⟨before, rest, rfl⟩ := List.append_of_mem hcall
  obtain ⟨earlier, hran⟩ := exists_ran h hdistinct before
    fun one hone => hcalls one (List.mem_append_left _ hone)
  obtain ⟨hoptions, -⟩ := grows_after h.loaderAt? hran.serves.loaderAt?
  -- The call itself puts the directory behind the others.
  have hadded : directory ∈
      (earlier.serving volume host (.registerDirectory path)).sources.directories := by
    show directory ∈ (earlier.registerDirectory volume path).loader.sources.directories
    unfold Loader.registerDirectory
    rw [hoptions, Loader.ledger_register, hscan]
    exact List.mem_append_right _ (List.mem_singleton_self directory)
  have hserves := @serves_call _ _ _ _ _ hran.serves (.registerDirectory path) rfl
  rw [List.map_append, List.map_cons, after_append, after_cons] at hnow
  obtain ⟨-, more, hmore⟩ := grows_after hserves.loaderAt? hnow
  rw [hmore]
  exact List.mem_append_left more hadded

/-! ## After a clear -/

/-- The first of these directories that has a resource, as the files are now. -/
def IsFirstWith (directories : List Directory) (volume : Volume) (name : String)
    (first : Directory) : Prop :=
  ∃ before behind, directories = before ++ first :: behind ∧
    (first.resourcePath? volume name).isSome ∧
    ∀ other ∈ before, other.resourcePath? volume name = none

/-- Where a directory has the resource, the list begins with the file of the first one. -/
theorem head?_of_directory {sources : Sources} {name : String} {directory : Directory}
    (hmem : directory ∈ sources.directories)
    (hfile : (directory.resourcePath? volume name).isSome) :
    ∃ first, IsFirstWith sources.directories volume name first ∧
      (sources.locations volume name).head? = some (.file (Path.join first.root name)) := by
  have hsome : (sources.directories.findSome? (·.resourcePath? volume name)).isSome :=
    List.findSome?_isSome_iff.mpr ⟨directory, hmem, hfile⟩
  obtain ⟨path, hpath⟩ := Option.isSome_iff_exists.mp hsome
  obtain ⟨before, first, behind, hdirectories, hfirst, hbefore⟩ :=
    List.findSome?_eq_some_iff.mp hpath
  refine ⟨first, ⟨before, behind, hdirectories, by rw [hfirst]; rfl, hbefore⟩, ?_⟩
  rw [← locate?_eq_head?, ← (Directory.resourcePath?_eq_some_iff.mp hfirst).2.2]
  unfold Sources.locate?
  rw [hpath]

/-- The location of a resource that a clear at the end of a run does not take: the first that was
found in the run, unless the resource is a speculative one. -/
def keptBy? (layers : Layers) (place : Nat) (loader : Loader) (name : String)
    (calls : List Call) : Option Location :=
  if loader.remembersResource name then firstFound? place name layers calls else none

/-- What the two searches come to in a loader that has been cleared. -/
theorem searches_of_cleared {cleared : Layers} {now : Loader}
    (hserves : cleared.Serves place volume host now.forgetMisses.loader)
    (hdistinct : now.memo.resources.Distinct) (name : String) :
    let all := now.sources.locations volume (normalize name) ++ host.locations (normalize name)
    let kept := if now.remembersResource (normalize name) then now.atlas.hit? (normalize name)
      else none
    (cleared.call place (.resources name)).reply = .locations all ∧
      (cleared.call place (.resource name)).reply = .location (kept.or all.head?) := by
  intro all kept
  obtain ⟨hall, -⟩ := resources_of_serves hserves name
  obtain ⟨hfirst, -⟩ := resource_of_serves hserves name
  rw [hall, hfirst]
  constructor
  · -- No list is left.
    have hunlisted : now.forgetMisses.loader.recallList (normalize name) = none := ite_self none
    refine congrArg Reply.locations ?_
    exact (Loader.reply_rememberList ..).trans (by rw [hunlisted]; rfl)
  · have hrecall : now.forgetMisses.loader.recallResource (normalize name) = kept.map some := by
      show (if now.remembersResource (normalize name) then
        now.atlas.clear.resources.get? (normalize name) else none) = _
      rw [Atlas.resources_clear hdistinct]
      cases hremembers : now.remembersResource (normalize name) <;> simp [kept, hremembers]
    refine congrArg Reply.location ((Loader.reply_rememberResource ..).trans ?_)
    rw [hrecall, List.head?_append]
    cases kept <;> rfl

/-- What a run and a clear after it make of the lookups of a resource. -/
structure Overrides (layers : Layers) (place : Nat) (loader : Loader) (host : Host)
    (calls : List Call) (name : String) (cleared : Layers) (now : Loader)
    (all : List Location) : Prop where
  there : cleared.loaderAt? place = some now
  registered : ∀ path directory, .registerDirectory path ∈ calls →
    (Directory.scan layers.volume path loader.options.unitSuffix).1 = .ok directory →
      directory ∈ now.sources.directories
  locations : all = now.sources.locations layers.volume (normalize name) ++
    host.locations (normalize name)
  every : (cleared.call place (.resources name)).reply = .locations all
  /-- The first location is the head of the list, but for one that was found before. -/
  first : (cleared.call place (.resource name)).reply =
    .location ((layers.keptBy? place loader (normalize name) calls).or all.head?)
  /-- So if none was found before, the first directory that has the resource overrides everything
  else. -/
  override : layers.keptBy? place loader (normalize name) calls = none →
    ∀ directory ∈ now.sources.directories,
      (directory.resourcePath? layers.volume (normalize name)).isSome →
        ∃ first, IsFirstWith now.sources.directories layers.volume (normalize name) first ∧
          (cleared.call place (.resource name)).reply =
            .location (some (.file (Path.join first.root (normalize name))))

end Layers

/-- A directory with a resource of which the host has two locations. -/
def stand : Layers := ⟨Scene.desk.volume, [⟨Scene.desk.loader, Scene.twofold⟩]⟩

theorem twofold_isQuiet : Scene.twofold.IsQuiet := fun _ hhabit => absurd hhabit List.not_mem_nil

/-- A location that was found at the host stays, although a directory has been registered since
that comes first in the list. -/
theorem first_location_is_not_always_head :
    ¬ ∀ (layers : Layers) (place : Nat) (loader : Loader) (host : Host) (calls : List Call)
        (name : String),
      layers.layers[place]? = some ⟨loader, host⟩ → host.IsQuiet →
      loader.memo.resources = .empty → (∀ one ∈ calls, Layers.edits one = false) →
      ∃ all,
        ((layers.after ((calls ++ [Call.forgetMisses]).map (place, ·))).call place
          (.resources name)).reply = .locations all ∧
        ((layers.after ((calls ++ [Call.forgetMisses]).map (place, ·))).call place
          (.resource name)).reply = .location all.head? := by
  intro hevery
  let calls : List Call := [.resource "t.txt", .registerDirectory "/lib"]
  have hall : ((stand.after ((calls ++ [Call.forgetMisses]).map (0, ·))).call 0
      (.resources "t.txt")).reply =
        .locations [.file "/lib/t.txt", .hosted "first", .hosted "second"] := by cbv
  have hfirst : ((stand.after ((calls ++ [Call.forgetMisses]).map (0, ·))).call 0
      (.resource "t.txt")).reply = .location (some (.hosted "first")) := by cbv
  obtain ⟨all, hlist, hhead⟩ :=
    hevery stand 0 _ _ calls "t.txt" rfl twofold_isQuiet rfl (by simp [calls, Layers.edits])
  obtain rfl := Reply.locations.inj (hall.symm.trans hlist)
  cases hfirst.symm.trans hhead

/-- Over a host that only answers, and as long as no file changes: after any run that a clear ends,
the first location of a resource is the head of the list of all its locations, unless a lookup of
the run has found a location before. That one stays, if the resource is not a speculative one. -/
theorem first_location_after_clear {layers : Layers} {place : Nat} {loader : Loader} {host : Host}
    (hlayer : layers.layers[place]? = some ⟨loader, host⟩) (hquiet : host.IsQuiet)
    (hempty : loader.memo.resources = .empty) {calls : List Call}
    (hcalls : ∀ one ∈ calls, Layers.edits one = false) (name : String) :
    ∃ now all, Layers.Overrides layers place loader host calls name
      (layers.after ((calls ++ [Call.forgetMisses]).map (place, ·))) now all := by
  have hserves : layers.Serves place layers.volume host loader :=
    ⟨rfl, host, hquiet.succeeds, hlayer⟩
  have hdistinct : loader.memo.resources.Distinct := by
    rw [hempty]
    exact Table.distinct_empty
  obtain ⟨now, hran⟩ := Layers.exists_ran hserves hdistinct calls hcalls
  have hcleared := @Layers.serves_call _ _ _ _ _ hran.serves .forgetMisses rfl
  rw [← Layers.after_concat] at hcleared
  obtain ⟨hall, hfirst⟩ := Layers.searches_of_cleared hcleared hran.distinct name
  obtain ⟨hoptions, -⟩ := Layers.grows_after hserves.loaderAt? hran.serves.loaderAt?
  -- Nothing was remembered at first, so what is remembered now was found in the run.
  have hkept : (if now.remembersResource (normalize name) then now.atlas.hit? (normalize name)
      else none) = layers.keptBy? place loader (normalize name) calls := by
    have hsame : now.remembersResource (normalize name) =
        loader.remembersResource (normalize name) := by
      unfold Loader.remembersResource
      rw [hoptions]
    unfold Layers.keptBy?
    rw [hsame]
    cases hremembers : loader.remembersResource (normalize name) with
    | false => rfl
    | true =>
      have hnothing : loader.atlas.hit? (normalize name) = none := by
        unfold Atlas.hit? Loader.atlas
        rw [hempty]
        rfl
      rw [if_pos rfl, if_pos rfl, hran.hits name hremembers, hnothing, Option.none_or]
  rw [hkept] at hfirst
  refine ⟨now.forgetMisses.loader, _, hcleared.loaderAt?, ?_, rfl, hall, hfirst, ?_⟩
  · intro path directory hcall hscan
    have hregistered := Layers.registered_after hserves hdistinct hcalls hcall hscan
      hran.serves.loaderAt?
    exact hregistered
  · intro hnone directory hmem hfile
    obtain ⟨first, hisfirst, hhead⟩ := Layers.head?_of_directory hmem hfile
    refine ⟨first, hisfirst, ?_⟩
    rw [hfirst, hnone, Option.none_or, List.head?_append]
    exact congrArg Reply.location (congrArg (Option.or · _) hhead)

/-- The stand when a call has been made, the directory has been registered and the misses have been
cleared. -/
def restocked (first : Call) : Layers :=
  stand.after ([first, .registerDirectory "/lib", .forgetMisses].map (0, ·))

/-- The directory overrides the host, if the resource has only been listed before it was registered.
If it has been found, the location of the host stays. -/
theorem first_location_after_clear_found :
    ((restocked (.resources "t.txt")).call 0 (.resource "t.txt")).reply =
        .location (some (.file "/lib/t.txt")) ∧
      ((restocked (.resource "t.txt")).call 0 (.resource "t.txt")).reply =
        .location (some (.hosted "first")) := by
  have hedits : ∀ first ∈ [Call.resource "t.txt", .resources "t.txt"],
      ∀ one ∈ [first, .registerDirectory "/lib"], Layers.edits one = false := by
    simp [Layers.edits]
  obtain ⟨now, all, hlisted⟩ := @first_location_after_clear stand 0 _ _ rfl twofold_isQuiet rfl
    [.resources "t.txt", .registerDirectory "/lib"] (hedits _ (by simp)) "t.txt"
  obtain ⟨now', all', hfound⟩ := @first_location_after_clear stand 0 _ _ rfl twofold_isQuiet rfl
    [.resource "t.txt", .registerDirectory "/lib"] (hedits _ (by simp)) "t.txt"
  have hall : ((restocked (.resources "t.txt")).call 0 (.resources "t.txt")).reply =
      .locations [.file "/lib/t.txt", .hosted "first", .hosted "second"] := by cbv
  obtain rfl := Reply.locations.inj (hall.symm.trans hlisted.every)
  refine ⟨hlisted.first.trans (by cbv), hfound.first.trans ?_⟩
  -- What was found before needs no list.
  have hkept : stand.keptBy? 0 Scene.desk.loader (normalize "t.txt")
      [.resource "t.txt", .registerDirectory "/lib"] = some (.hosted "first") := by cbv
  rw [hkept]
  rfl

end LayeredUnits
