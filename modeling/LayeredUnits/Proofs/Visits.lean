import Mathlib
import LayeredUnits.Proofs.Below
import LayeredUnits.Proofs.Override

/-!
# What is remembered of a resource from call to call

A run is a sequence of calls to one loader. Nothing but the loader carries over
from one call to the next: files, hosts, what hosts answer and all other
loaders may be different every time. While a host is asked it does nothing to
the loader that asks it.

The first location of a resource and the list of its locations are kept in two
memories with different rules, and neither looks into the other one.

* `Visit.reply_of_asks`, `Visit.reply_of_asksAll` — a lookup comes to what is
  remembered, or else to what a search finds now.
* `atlas_visit` — what a call leaves in both memories.
* `location_lasts`, `absence_lasts`, `list_lasts` — how long an outcome stays.
* `unsought`, `unlisted` — when nothing is remembered.
* `resource_memory` — what the lookups of a run answer, and with which calls it
  can go on.
* `run_visitsTo` — the visits to a loader that stands alone are a run, whatever
  is asked and whoever answers.
-/

namespace LayeredUnits

open ResourceName (normalize)

namespace Layers

/-! ## Calls to one loader -/

/-- A call to a loader, in the state in which the layers are then. Calls nest at most so deep under
it. -/
structure Visit where
  depth : Nat
  layers : Layers
  call : Call

namespace Visit

/-- What the call comes to, with room for the calls that nest in it. -/
def step (visit : Visit) (place : Nat) : Step Reply :=
  callWithin (visit.depth + 1) visit.layers place visit.call

/-- What the call replies. -/
def reply (visit : Visit) (place : Nat) : Reply := (visit.step place).reply

/-- The first location of a resource that a search finds now: that of the sources, or else that of
the host. -/
def search (visit : Visit) (place : Nat) (loader : Loader) (name : String) : Option Location :=
  (loader.sources.locations visit.layers.volume name).head?.or
    (askResource (callWithin visit.depth) visit.layers place name).reply

/-- The locations of a resource that a search finds now: those of the sources, and then those of
the host. -/
def searchAll (visit : Visit) (place : Nat) (loader : Loader) (name : String) : List Location :=
  loader.sources.locations visit.layers.volume name ++
    (askResources (callWithin visit.depth) visit.layers place name).reply

/-- The host's answer to a lookup of a unit, and the layers when it has answered. -/
def asked (visit : Visit) (place : Nat) (loader : Loader) (name : String) :
    Step (Option (Shared CodeUnit)) :=
  askUnit (callWithin visit.depth) (visit.layers.setLoader place loader.asking) place name

variable {visit : Visit} {place : Nat} {loader : Loader}

theorem findResource_of_alone (hloader : visit.layers.loaderAt? place = some loader)
    (halone : visit.layers.LeftAlone visit.depth place) (name : String) :
    let found := findResource (callWithin visit.depth) visit.layers place name
    let turn := loader.rememberResource (normalize name)
      (visit.search place loader (normalize name))
    found.reply = turn.reply ∧ found.layers.loaderAt? place = some turn.loader := by
  obtain ⟨layer, hlayer, rfl⟩ := Option.map_eq_some_iff.mp hloader
  cases hrecall : layer.loader.recallResource (normalize name) with
  | some held =>
    -- A location that is remembered is given without a search.
    rw [Loader.rememberResource_of_recalled _ hrecall]
    have hfound : findResource (callWithin visit.depth) visit.layers place name =
        ⟨held, visit.layers, []⟩ := by
      unfold findResource
      simp only [hlayer, hrecall]
    rw [hfound]
    exact ⟨rfl, hloader⟩
  | none =>
    -- The search looks at the sources and, only if they have nothing, asks the host,
    -- which leaves the loader alone.
    have hkept := (halone.resource (normalize name)).trans hloader
    have hown := locate?_eq_head? layer.loader.sources visit.layers.volume (normalize name)
    unfold findResource search
    simp only [hlayer, hrecall]
    rw [← hown]
    cases layer.loader.sources.locate? visit.layers.volume (normalize name) with
    | some location =>
      simp only [hlayer]
      exact ⟨rfl, loaderAt?_setLoader_self _ hlayer⟩
    | none =>
      obtain ⟨layer', hlayer', hsame⟩ := Option.map_eq_some_iff.mp hkept
      simp only [hlayer', hsame]
      exact ⟨rfl, loaderAt?_setLoader_self _ hlayer'⟩

theorem findResources_of_alone (hloader : visit.layers.loaderAt? place = some loader)
    (halone : visit.layers.LeftAlone visit.depth place) (name : String) :
    let found := findResources (callWithin visit.depth) visit.layers place name
    let turn := loader.rememberList (normalize name)
      (visit.searchAll place loader (normalize name))
    found.reply = turn.reply ∧ found.layers.loaderAt? place = some turn.loader := by
  obtain ⟨layer, hlayer, rfl⟩ := Option.map_eq_some_iff.mp hloader
  cases hrecall : layer.loader.recallList (normalize name) with
  | some held =>
    rw [Loader.rememberList_of_recalled _ hrecall]
    have hfound : findResources (callWithin visit.depth) visit.layers place name =
        ⟨held, visit.layers, []⟩ := by
      unfold findResources
      simp only [hlayer, hrecall]
    rw [hfound]
    exact ⟨rfl, hloader⟩
  | none =>
    have hkept := (halone.resources (normalize name)).trans hloader
    obtain ⟨layer', hlayer', hsame⟩ := Option.map_eq_some_iff.mp hkept
    unfold findResources searchAll
    simp only [hlayer, hrecall, hlayer', hsame]
    exact ⟨rfl, loaderAt?_setLoader_self _ hlayer'⟩

/-- The call looks the first location of a resource up and replies it. To open a resource looks it
up too, but replies something else. -/
def Asks (visit : Visit) (name : String) : Prop :=
  ∃ spelled, visit.call = .resource spelled ∧ normalize spelled = name

/-- The call looks all locations of a resource up. -/
def AsksAll (visit : Visit) (name : String) : Prop :=
  ∃ spelled, visit.call = .resources spelled ∧ normalize spelled = name

/-- A lookup of the first location replies with what is remembered, or else with what a search finds
now. -/
theorem reply_of_asks (hloader : visit.layers.loaderAt? place = some loader)
    (halone : visit.layers.LeftAlone visit.depth place) {name : String} (hasks : visit.Asks name) :
    visit.reply place =
      .location ((loader.recallResource name).getD (visit.search place loader name)) := by
  obtain ⟨spelled, hcall, rfl⟩ := hasks
  unfold reply step
  rw [hcall, ← Loader.reply_rememberResource]
  exact congrArg Reply.location (findResource_of_alone hloader halone spelled).1

/-- A lookup of all locations replies with the list that is remembered, or else with what a search
finds now. -/
theorem reply_of_asksAll (hloader : visit.layers.loaderAt? place = some loader)
    (halone : visit.layers.LeftAlone visit.depth place) {name : String}
    (hasks : visit.AsksAll name) :
    visit.reply place =
      .locations ((loader.recallList name).getD (visit.searchAll place loader name)) := by
  obtain ⟨spelled, hcall, rfl⟩ := hasks
  unfold reply step
  rw [hcall, ← Loader.reply_rememberList]
  exact congrArg Reply.locations (findResources_of_alone hloader halone spelled).1

/-- What a call leaves of what is remembered of resources. This is all that the induction over a run
needs to know of a call. -/
inductive Leaves (visit : Visit) (place : Nat) (loader : Loader) : Atlas → Prop
  | located {name : String} (hsought : visit.call.sought? = some name)
      (hremembers : loader.remembersResource name = true) :
      Leaves visit place loader (loader.atlas.located name (visit.search place loader name))
  | listed {name : String} (hcall : visit.call = .resources name)
      (hremembers : loader.remembersResource (normalize name) = true) :
      Leaves visit place loader
        (loader.atlas.listed (normalize name) (visit.searchAll place loader (normalize name)))
  | cleared (hcall : visit.call = .forgetMisses) : Leaves visit place loader loader.atlas.clear
  /-- A lookup of a speculative resource leaves nothing, and other calls are about no resource. -/
  | same (hcall : visit.call ≠ .forgetMisses)
      (hsought : ∀ name, visit.call.sought? = some name → loader.remembersResource name = false)
      (hlisted : ∀ name, visit.call = .resources name →
        loader.remembersResource (normalize name) = false) :
      Leaves visit place loader loader.atlas

/-- A lookup that turns to the host has only been counted. So the host meets a loader that knows
nothing more than before. -/
theorem asking_of_waiting {begun : Loader} {name : String} {ticket : Ticket} {events : List Event}
    (h : loader.beginLookup name = ⟨.waiting ticket, begun, events⟩) : begun = loader.asking := by
  unfold Loader.beginLookup at h
  split at h
  · cases h
  · split at h <;> cases h
    rfl

/-- A lookup of a unit runs straight through, from its beginning to its end. -/
theorem lookUp_of_alone (hloader : visit.layers.loaderAt? place = some loader)
    (halone : visit.layers.LeftAlone visit.depth place) (name : String) :
    let looked := lookUp (callWithin visit.depth) visit.layers place name
    let turn := loader.resolve (visit.asked place loader name).layers.volume name
      (visit.asked place loader name).reply
    looked.reply = turn.reply ∧ looked.layers.loaderAt? place = some turn.loader := by
  obtain ⟨layer, hlayer, rfl⟩ := Option.map_eq_some_iff.mp hloader
  unfold Loader.resolve
  rcases lookUp_cases (callWithin_leads visit.depth) name hlayer with
    ⟨result, begun, events, hbegin, hlooked⟩ |
    ⟨ticket, begun, events, answered, layer', hbegin, hanswered, hlayer', hreply, hlooked⟩
  · rw [hbegin, hlooked]
    exact ⟨rfl, loaderAt?_setLoader_self begun hlayer⟩
  · -- The host was asked and has left the loader as it was, so the lookup goes on where it stopped.
    obtain rfl := asking_of_waiting hbegin
    have hkept := halone.unit layer.loader.asking name
      (loaderAt?_setLoader_self layer.loader.asking hlayer)
    rw [← hanswered, loaderAt?_of_some hlayer'] at hkept
    have hsame : layer'.loader = layer.loader.asking := Option.some.inj hkept
    have hasked : visit.asked place layer.loader name = answered := hanswered.symm
    rw [hsame] at hreply hlooked
    rw [hbegin, hasked]
    refine ⟨hreply, ?_⟩
    rw [hlooked]
    exact loaderAt?_setLoader_self _ hlayer'

/-- A lookup of a first location, be it to open it, leaves what that lookup remembers. -/
theorem loader_of_sought (hloader : visit.layers.loaderAt? place = some loader)
    (halone : visit.layers.LeftAlone visit.depth place) {name : String}
    (hsought : visit.call.sought? = some name) :
    (visit.step place).layers.loaderAt? place =
      some (loader.rememberResource name (visit.search place loader name)).loader := by
  obtain ⟨depth, layers, call⟩ := visit
  cases call with
  | resource spelled =>
    cases hsought
    exact (findResource_of_alone hloader halone spelled).2
  | openResource spelled =>
    -- Opening finds the location first, and what it opens it does not remember.
    cases hsought
    have hnext := (findResource_of_alone hloader halone spelled).2
    show (perform (callWithin depth) layers place (.openResource spelled)).layers.loaderAt? place = _
    refine Eq.trans ?_ hnext
    unfold perform
    dsimp only
    generalize findResource (callWithin depth) layers place spelled = found
    obtain ⟨reply, found, events⟩ := found
    cases reply with
    | none => rfl
    | some location => exact openLocation_same ..
  | _ => cases hsought

/-- A lookup of a unit leaves what that lookup comes to, because nobody else touches the loader
meanwhile. -/
theorem loader_of_wanted (hloader : visit.layers.loaderAt? place = some loader)
    (halone : visit.layers.LeftAlone visit.depth place) {name : String}
    (hwanted : wanted? visit.call = some name) :
    (visit.step place).layers.loaderAt? place =
      some (loader.resolve (visit.asked place loader name).layers.volume name
        (visit.asked place loader name).reply).loader := by
  obtain ⟨-, hlooked, -⟩ :=
    perform_of_wanted (callWithin visit.depth) visit.layers place place hwanted
  exact hlooked.trans (lookUp_of_alone hloader halone name).2

theorem leaves_of_sought {name : String} (hsought : visit.call.sought? = some name) :
    visit.Leaves place loader
      (loader.rememberResource name (visit.search place loader name)).loader.atlas := by
  rw [Loader.atlas_rememberResource]
  cases hremembers : loader.remembersResource name with
  | true =>
    rw [if_pos rfl]
    exact .located hsought hremembers
  | false =>
    rw [if_neg Bool.false_ne_true]
    refine .same ?_ ?_ ?_
    · intro hcall
      rw [hcall] at hsought
      cases hsought
    · intro other hother
      rwa [← Option.some.inj (hsought.symm.trans hother)]
    · intro other hcall
      rw [hcall] at hsought
      cases hsought

theorem leaves_of_resources {name : String} (hcall : visit.call = .resources name) :
    visit.Leaves place loader (loader.rememberList (normalize name)
      (visit.searchAll place loader (normalize name))).loader.atlas := by
  rw [Loader.atlas_rememberList]
  cases hremembers : loader.remembersResource (normalize name) with
  | true =>
    rw [if_pos rfl]
    exact .listed hcall hremembers
  | false =>
    rw [if_neg Bool.false_ne_true]
    refine .same ?_ ?_ ?_
    · rw [hcall]
      exact nofun
    · rw [hcall]
      exact nofun
    · intro other hother
      rw [hcall] at hother
      rwa [← Call.resources.inj hother]

/-- What a call leaves in both memories, whatever call it is. Every statement about runs goes back
to this one. -/
theorem atlas_visit (hloader : visit.layers.loaderAt? place = some loader)
    (halone : visit.layers.LeftAlone visit.depth place) :
    ∃ next, (visit.step place).layers.loaderAt? place = some next ∧
      visit.Leaves place loader next.atlas := by
  obtain ⟨depth, layers, call⟩ := visit
  obtain ⟨layer, hlayer, rfl⟩ := Option.map_eq_some_iff.mp hloader
  have hsame {next : Loader} (hcall : call ≠ .forgetMisses) (hsought : call.sought? = none)
      (hlisted : ∀ name, call ≠ .resources name) (hnext : next.atlas = layer.loader.atlas) :
      Leaves ⟨depth, layers, call⟩ place layer.loader next.atlas := by
    rw [hnext]
    refine .same hcall ?_ fun name hname => absurd hname (hlisted name)
    intro name hname
    cases hsought.symm.trans hname
  -- An operation that needs no host, and that is not about resources.
  have hoperate {next : Loader} (hcall : call ≠ .forgetMisses) (hsought : call.sought? = none)
      (hlisted : ∀ name, call ≠ .resources name) (hnext : next.atlas = layer.loader.atlas) :
      ∃ later, (layers.setLoader place next).loaderAt? place = some later ∧
        Leaves ⟨depth, layers, call⟩ place layer.loader later.atlas :=
    ⟨next, loaderAt?_setLoader_self next hlayer, hsame hcall hsought hlisted hnext⟩
  cases call with
  | resource name => exact ⟨_, loader_of_sought hloader halone rfl, leaves_of_sought rfl⟩
  | openResource name => exact ⟨_, loader_of_sought hloader halone rfl, leaves_of_sought rfl⟩
  | resources name =>
    exact ⟨_, (findResources_of_alone hloader halone name).2, leaves_of_resources rfl⟩
  | load name wantsLink =>
    exact ⟨_, loader_of_wanted hloader halone rfl,
      hsame (by simp) rfl (by simp) (layer.loader.atlas_resolve ..)⟩
  | find name =>
    exact ⟨_, loader_of_wanted hloader halone rfl,
      hsame (by simp) rfl (by simp) (layer.loader.atlas_resolve ..)⟩
  | edit edit => exact ⟨layer.loader, hloader, hsame (by simp) rfl (by simp) rfl⟩
  | forgetMisses =>
    unfold step callWithin perform
    simp only [hlayer]
    exact ⟨_, loaderAt?_setLoader_self _ hlayer, .cleared rfl⟩
  | preload unit =>
    unfold step callWithin perform
    simp only [hlayer]
    exact hoperate (by simp) rfl (by simp) (layer.loader.atlas_preload unit)
  | registerDirectory path =>
    unfold step callWithin perform
    simp only [hlayer]
    exact hoperate (by simp) rfl (by simp)
      (Loader.atlas_register _ layer.loader.atlas_addDirectory)
  | registerArchive path =>
    unfold step callWithin perform
    simp only [hlayer]
    exact hoperate (by simp) rfl (by simp) (Loader.atlas_register _ layer.loader.atlas_addArchive)
  | registerImage image origin =>
    unfold step callWithin perform
    simp only [hlayer]
    exact hoperate (by simp) rfl (by simp) (Loader.atlas_register _ layer.loader.atlas_addArchive)

/-! ### What a call leaves in one slot -/

section

variable {atlas : Atlas} {name : String}

/-- A location that was found stays, whatever is called, a clear included. -/
theorem Leaves.found (h : visit.Leaves place loader atlas)
    (hdistinct : loader.atlas.resources.Distinct) {location : Location}
    (hheld : loader.atlas.resources.get? name = some (some location)) :
    atlas.resources.get? name = some (some location) := by
  cases h with
  | located => exact Table.get?_insertNew_of_some _ hheld
  | listed => exact hheld
  | cleared =>
    rw [Atlas.resources_clear hdistinct]
    exact congrArg (fun held => (Option.join held).map some) hheld
  | same => exact hheld

/-- That there is no location stays until a clear, however often the resource is looked up. -/
theorem Leaves.absent (h : visit.Leaves place loader atlas) (hcall : visit.call ≠ .forgetMisses)
    (hheld : loader.atlas.resources.get? name = some none) :
    atlas.resources.get? name = some none := by
  cases h with
  | located => exact Table.get?_insertNew_of_some _ hheld
  | listed => exact hheld
  | cleared hclear => exact absurd hclear hcall
  | same => exact hheld

/-- A list stays until a clear. -/
theorem Leaves.list (h : visit.Leaves place loader atlas) (hcall : visit.call ≠ .forgetMisses)
    {locations : List Location} (hheld : loader.atlas.lists.get? name = some locations) :
    atlas.lists.get? name = some locations := by
  cases h with
  | located => exact hheld
  | listed => exact Table.get?_insertNew_of_some _ hheld
  | cleared hclear => exact absurd hclear hcall
  | same => exact hheld

/-- A resource that is not looked up gets no first location. Lookups of its list are
no exception. -/
theorem Leaves.unsought (h : visit.Leaves place loader atlas)
    (hdistinct : loader.atlas.resources.Distinct) (hsought : visit.call.sought? ≠ some name)
    (hheld : loader.atlas.resources.get? name = none) : atlas.resources.get? name = none := by
  cases h with
  | @located other hother =>
    have hne : name ≠ other := fun heq => hsought (heq ▸ hother)
    exact (Table.get?_insertNew_of_ne _ _ hne).trans hheld
  | listed => exact hheld
  | cleared =>
    rw [Atlas.resources_clear hdistinct]
    exact congrArg (fun held => (Option.join held).map some) hheld
  | same => exact hheld

/-- A resource whose locations are not looked up gets no list. -/
theorem Leaves.unlisted (h : visit.Leaves place loader atlas) (hasks : ¬ visit.AsksAll name)
    (hheld : loader.atlas.lists.get? name = none) : atlas.lists.get? name = none := by
  cases h with
  | located => exact hheld
  | @listed other hother =>
    have hne : name ≠ normalize other := fun heq => hasks ⟨other, hother, heq.symm⟩
    exact (Table.get?_insertNew_of_ne _ _ hne).trans hheld
  | cleared => rfl
  | same => exact hheld

/-- A clear leaves no list, and nothing of a resource that was nowhere. -/
theorem Leaves.clear (h : visit.Leaves place loader atlas) (hcall : visit.call = .forgetMisses)
    (hdistinct : loader.atlas.resources.Distinct) (name : String) :
    (loader.atlas.resources.get? name = some none → atlas.resources.get? name = none) ∧
      atlas.lists.get? name = none := by
  cases h with
  | located hsought =>
    rw [hcall] at hsought
    cases hsought
  | listed hlisted => cases hcall.symm.trans hlisted
  | cleared =>
    refine ⟨?_, rfl⟩
    intro hheld
    rw [Atlas.resources_clear hdistinct]
    exact congrArg (fun held => (Option.join held).map some) hheld
  | same hother => exact absurd hcall hother

/-- Nothing is kept of a speculative resource, in either memory. -/
theorem Leaves.speculative (h : visit.Leaves place loader atlas)
    (hdistinct : loader.atlas.resources.Distinct) (hname : loader.remembersResource name = false)
    (hlocation : loader.atlas.resources.get? name = none)
    (hlist : loader.atlas.lists.get? name = none) :
    atlas.resources.get? name = none ∧ atlas.lists.get? name = none := by
  constructor
  · -- What is looked up and kept has another name, since this one is not kept at all.
    cases h with
    | @located other _ hremembers =>
      have hne : name ≠ other := by
        rintro rfl
        cases hname.symm.trans hremembers
      exact (Table.get?_insertNew_of_ne _ _ hne).trans hlocation
    | listed => exact hlocation
    | cleared =>
      rw [Atlas.resources_clear hdistinct]
      exact congrArg (fun held => (Option.join held).map some) hlocation
    | same => exact hlocation
  · cases h with
    | located => exact hlist
    | @listed other _ hremembers =>
      have hne : name ≠ normalize other := by
        rintro rfl
        cases hname.symm.trans hremembers
      exact (Table.get?_insertNew_of_ne _ _ hne).trans hlist
    | cleared => rfl
    | same => exact hlist

theorem Leaves.distinct (h : visit.Leaves place loader atlas)
    (hdistinct : loader.atlas.resources.Distinct) : atlas.resources.Distinct := by
  cases h with
  | located => exact hdistinct.insertNew _ _
  | listed => exact hdistinct
  | cleared => exact hdistinct.retain _
  | same => exact hdistinct

/-- Neither memory is written by a lookup that is for the other one. -/
theorem Leaves.apart (h : visit.Leaves place loader atlas) :
    (visit.call.sought? = some name → atlas.lists = loader.atlas.lists) ∧
      (visit.AsksAll name → atlas.resources = loader.atlas.resources) := by
  constructor
  · intro hcall
    cases h with
    | located => rfl
    | listed hlisted =>
      rw [hlisted] at hcall
      cases hcall
    | cleared hclear =>
      rw [hclear] at hcall
      cases hcall
    | same => rfl
  · rintro ⟨spelled, hcall, -⟩
    cases h with
    | located hsought =>
      rw [hcall] at hsought
      cases hsought
    | listed => rfl
    | cleared hclear => cases hcall.symm.trans hclear
    | same => rfl

/-- What a lookup of the first location replies is remembered then. -/
theorem Leaves.of_asks (h : visit.Leaves place loader atlas)
    (hloader : visit.layers.loaderAt? place = some loader)
    (halone : visit.layers.LeftAlone visit.depth place) (hasks : visit.Asks name)
    (hremembers : loader.remembersResource name = true) :
    ∃ found, visit.reply place = .location found ∧ atlas.resources.get? name = some found := by
  refine ⟨_, reply_of_asks hloader halone hasks, ?_⟩
  obtain ⟨spelled, hcall, rfl⟩ := hasks
  unfold Loader.recallResource
  rw [if_pos hremembers]
  cases h with
  | @located other hsought =>
    rw [hcall] at hsought
    obtain rfl : normalize spelled = other := Option.some.inj hsought
    exact Table.get?_insertNew_self ..
  | listed hlisted => cases hcall.symm.trans hlisted
  | cleared hclear => cases hcall.symm.trans hclear
  | same _ hsought =>
    have hforgets := hsought (normalize spelled) (by rw [hcall]; rfl)
    cases hforgets.symm.trans hremembers

/-- The list that a lookup replies is remembered then, be it old or new. -/
theorem Leaves.of_asksAll (h : visit.Leaves place loader atlas)
    (hloader : visit.layers.loaderAt? place = some loader)
    (halone : visit.layers.LeftAlone visit.depth place) (hasks : visit.AsksAll name)
    (hremembers : loader.remembersResource name = true) :
    ∃ found, visit.reply place = .locations found ∧ atlas.lists.get? name = some found := by
  refine ⟨_, reply_of_asksAll hloader halone hasks, ?_⟩
  obtain ⟨spelled, hcall, rfl⟩ := hasks
  unfold Loader.recallList
  rw [if_pos hremembers]
  cases h with
  | located hsought =>
    rw [hcall] at hsought
    cases hsought
  | @listed other hlisted =>
    obtain rfl : spelled = other := Call.resources.inj (hcall.symm.trans hlisted)
    exact Table.get?_insertNew_self ..
  | cleared hclear => cases hcall.symm.trans hclear
  | same _ _ hlisted => cases (hlisted spelled hcall).symm.trans hremembers

end

end Visit

/-- A run: calls to the loader at a place, one after the other, that begin with `start` and end with
another state of the loader. Only the loader carries over. -/
inductive Run (place : Nat) (start : Loader) : List Visit → Loader → Prop
  | start : Run place start [] start
  | visit {visits : List Visit} {visit : Visit} {loader next : Loader}
      (hrun : Run place start visits loader)
      (hloader : visit.layers.loaderAt? place = some loader)
      (halone : visit.layers.LeftAlone visit.depth place)
      (hnext : (visit.step place).layers.loaderAt? place = some next) :
      Run place start (visits ++ [visit]) next

namespace Run

variable {place : Nat} {start last : Loader} {visits : List Visit}

/-- Any call to the loader can come next, if the host of that time keeps off it. -/
theorem goes_on {visit : Visit} (h : Run place start visits last)
    (hloader : visit.layers.loaderAt? place = some last) (hkeeps : visit.layers.KeepsOff place) :
    ∃ next, (visit.step place).layers.loaderAt? place = some next ∧
      Run place start (visits ++ [visit]) next := by
  obtain ⟨next, hnext, -⟩ :=
    (callWithin_leads (visit.depth + 1) place visit.layers place visit.call).history last hloader
  exact ⟨next, hnext, .visit h hloader (hkeeps.leftAlone visit.depth) hnext⟩

theorem options_eq (h : Run place start visits last) : last.options = start.options := by
  induction h with
  | start => rfl
  | @visit visits visit loader next hrun hloader halone hnext ih =>
    rw [← ih]
    obtain ⟨reached, hreached, hhistory⟩ :=
      (callWithin_leads (visit.depth + 1) place visit.layers place visit.call).history loader
        hloader
    obtain rfl : reached = next := Option.some.inj (hreached.symm.trans hnext)
    obtain ⟨history, begun, hafter, -⟩ := hhistory [] 0
    have hoptions := Scene.options_after ⟨loader, visit.layers.volume, [], 0⟩ history
    rwa [hafter] at hoptions

/-- Which resources are speculative does not change in a run, because options do not. -/
theorem remembers_eq (h : Run place start visits last) (name : String) :
    last.remembersResource name = start.remembersResource name := by
  unfold Loader.remembersResource
  rw [h.options_eq]

theorem leaves {visit : Visit} {loader next : Loader}
    (hloader : visit.layers.loaderAt? place = some loader)
    (halone : visit.layers.LeftAlone visit.depth place)
    (hnext : (visit.step place).layers.loaderAt? place = some next) :
    visit.Leaves place loader next.atlas := by
  obtain ⟨reached, hreached, hleaves⟩ := Visit.atlas_visit hloader halone
  obtain rfl : reached = next := Option.some.inj (hreached.symm.trans hnext)
  exact hleaves

/-- A run goes through a state after each of its visits, and what comes after is a run from that
state. -/
theorem split {before behind : List Visit} (h : Run place start (before ++ behind) last) :
    ∃ middle, Run place start before middle ∧ Run place middle behind last := by
  induction behind using List.reverseRecOn generalizing last with
  | nil =>
    rw [List.append_nil] at h
    exact ⟨last, h, .start⟩
  | append_singleton behind visit ih =>
    rw [← List.append_assoc] at h
    generalize hvisits : before ++ behind ++ [visit] = all at h
    cases h with
    | start => cases hnil : before ++ behind <;> rw [hnil] at hvisits <;> cases hvisits
    | visit hrun hloader halone hnext =>
      obtain ⟨rfl, hsame⟩ := List.append_inj' hvisits rfl
      obtain rfl := List.singleton_inj.mp hsame
      obtain ⟨middle, hbefore, hbehind⟩ := ih hrun
      exact ⟨middle, hbefore, .visit hbehind hloader halone hnext⟩

theorem distinct (h : Run place start visits last) (hstart : start.atlas.resources.Distinct) :
    last.atlas.resources.Distinct := by
  induction h with
  | start => exact hstart
  | visit hrun hloader halone hnext ih => exact (leaves hloader halone hnext).distinct ih

/-- A visit in a run: the run up to it, and the loader before and after it. -/
structure Moment (place : Nat) (start : Loader) (before : List Visit) (visit : Visit)
    (loader next : Loader) : Prop where
  run : Run place start before loader
  found : visit.layers.loaderAt? place = some loader
  alone : visit.layers.LeftAlone visit.depth place
  left : (visit.step place).layers.loaderAt? place = some next

theorem Moment.leaves {before : List Visit} {visit : Visit} {loader next : Loader}
    (h : Moment place start before visit loader next) : visit.Leaves place loader next.atlas :=
  Run.leaves h.found h.alone h.left

theorem moment {before after : List Visit} {visit : Visit}
    (h : Run place start (before ++ visit :: after) last) :
    ∃ loader next, Moment place start before visit loader next ∧ Run place next after last := by
  rw [List.append_cons] at h
  obtain ⟨next, hbefore, hafter⟩ := h.split
  generalize hvisits : before ++ [visit] = visits at hbefore
  cases hbefore with
  | start => cases before <;> cases hvisits
  | visit hrun hloader halone hnext =>
    obtain ⟨rfl, hsame⟩ := List.append_inj' hvisits rfl
    obtain rfl := List.singleton_inj.mp hsame
    exact ⟨_, next, ⟨hrun, hloader, halone, hnext⟩, hafter⟩

/-! ### How long an outcome stays -/

variable {name : String}

/-- A location that was found stays for good. The induction is on the rest of the run. -/
theorem location_lasts (h : Run place start visits last)
    (hdistinct : start.atlas.resources.Distinct) {location : Location}
    (hheld : start.atlas.resources.get? name = some (some location)) :
    last.atlas.resources.get? name = some (some location) := by
  induction h with
  | start => exact hheld
  | visit hrun hloader halone hnext ih =>
    exact (leaves hloader halone hnext).found (hrun.distinct hdistinct) ih

/-- That there is no location stays until a clear, through any visits of other kinds. -/
theorem absence_lasts (h : Run place start visits last)
    (huncleared : ∀ visit ∈ visits, visit.call ≠ .forgetMisses)
    (hheld : start.atlas.resources.get? name = some none) :
    last.atlas.resources.get? name = some none := by
  induction h with
  | start => exact hheld
  | @visit visits visit loader next hrun hloader halone hnext ih =>
    obtain ⟨hbefore, hlast⟩ := List.forall_mem_append.mp huncleared
    exact (leaves hloader halone hnext).absent (hlast visit List.mem_cons_self) (ih hbefore)

/-- A list stays until a clear, and so does the empty one. -/
theorem list_lasts (h : Run place start visits last)
    (huncleared : ∀ visit ∈ visits, visit.call ≠ .forgetMisses) {locations : List Location}
    (hheld : start.atlas.lists.get? name = some locations) :
    last.atlas.lists.get? name = some locations := by
  induction h with
  | start => exact hheld
  | @visit visits visit loader next hrun hloader halone hnext ih =>
    obtain ⟨hbefore, hlast⟩ := List.forall_mem_append.mp huncleared
    exact (leaves hloader halone hnext).list (hlast visit List.mem_cons_self) (ih hbefore)

/-! ### When nothing is remembered -/

theorem unsought (h : Run place start visits last) (hdistinct : start.atlas.resources.Distinct)
    (hsought : ∀ visit ∈ visits, visit.call.sought? ≠ some name)
    (hheld : start.atlas.resources.get? name = none) : last.atlas.resources.get? name = none := by
  induction h with
  | start => exact hheld
  | @visit visits visit loader next hrun hloader halone hnext ih =>
    obtain ⟨hbefore, hlast⟩ := List.forall_mem_append.mp hsought
    exact (leaves hloader halone hnext).unsought (hrun.distinct hdistinct)
      (hlast visit List.mem_cons_self) (ih hbefore)

theorem unlisted (h : Run place start visits last)
    (hasks : ∀ visit ∈ visits, ¬ visit.AsksAll name)
    (hheld : start.atlas.lists.get? name = none) : last.atlas.lists.get? name = none := by
  induction h with
  | start => exact hheld
  | @visit visits visit loader next hrun hloader halone hnext ih =>
    obtain ⟨hbefore, hlast⟩ := List.forall_mem_append.mp hasks
    exact (leaves hloader halone hnext).unlisted (hlast visit List.mem_cons_self) (ih hbefore)

/-- Nothing is ever kept of a speculative resource. -/
theorem speculative (h : Run place start visits last) (hstart : start.atlas = ⟨.empty, .empty⟩)
    (hname : start.remembersResource name = false) :
    last.atlas.resources.get? name = none ∧ last.atlas.lists.get? name = none := by
  have hdistinct : start.atlas.resources.Distinct := by
    rw [hstart]
    exact Table.distinct_empty
  induction h with
  | start =>
    rw [hstart]
    exact ⟨rfl, rfl⟩
  | visit hrun hloader halone hnext ih =>
    exact (leaves hloader halone hnext).speculative (hrun.distinct hdistinct)
      ((hrun.remembers_eq name).trans hname) ih.1 ih.2

/-- The visits have come to the last clear, or there was none. From here on every list is computed
afresh. -/
def Cleared (visits : List Visit) : Prop :=
  visits = [] ∨ ∃ before visit, visits = before ++ [visit] ∧ visit.call = .forgetMisses

theorem eq_start (h : Run place start [] last) : last = start := by
  generalize hvisits : ([] : List Visit) = visits at h
  cases h with
  | start => rfl
  | @visit before => cases before <;> cases hvisits

/-- After a clear no list is remembered. -/
theorem list_of_cleared (h : Run place start visits last) (hstart : start.atlas = ⟨.empty, .empty⟩)
    (hcleared : Cleared visits) : last.atlas.lists.get? name = none := by
  rcases hcleared with rfl | ⟨before, visit, rfl, hcall⟩
  · rw [h.eq_start, hstart]
    rfl
  · obtain ⟨loader, next, hmoment, hrest⟩ := h.moment
    obtain rfl := hrest.eq_start
    have hdistinct : start.atlas.resources.Distinct := by
      rw [hstart]
      exact Table.distinct_empty
    exact (hmoment.leaves.clear hcall (hmoment.run.distinct hdistinct) name).2

end Run

/-! ## Runs -/

/-- What the lookups of a resource that is not speculative answer in a run. -/
structure Remembered (place : Nat) (visits : List Visit) (name : String) : Prop where
  /-- The first lookup searches. -/
  searched : ∀ (before : List Visit) (other : Visit) (after : List Visit),
    visits = before ++ other :: after → other.Asks name →
    (∀ visit ∈ before, visit.call.sought? ≠ some name) →
    ∃ loader, other.layers.loaderAt? place = some loader ∧
      other.reply place = .location (other.search place loader name)
  /-- A location that was found is found from then on. -/
  found : ∀ (before : List Visit) (one : Visit) (between : List Visit) (other : Visit)
    (after : List Visit) (location : Location),
    visits = before ++ one :: (between ++ other :: after) → one.Asks name → other.Asks name →
    one.reply place = .location (some location) → other.reply place = .location (some location)
  /-- A resource that was nowhere is nowhere until the next clear. -/
  missed : ∀ (before : List Visit) (one : Visit) (between : List Visit) (other : Visit)
    (after : List Visit),
    visits = before ++ one :: (between ++ other :: after) → one.Asks name → other.Asks name →
    (∀ visit ∈ between, visit.call ≠ .forgetMisses) →
    one.reply place = .location none → other.reply place = .location none
  /-- After that clear the next lookup searches again. -/
  searchedAgain : ∀ (before : List Visit) (one : Visit) (between : List Visit) (clear : Visit)
    (recent : List Visit) (other : Visit) (after : List Visit),
    visits = before ++ one :: (between ++ clear :: (recent ++ other :: after)) → one.Asks name →
    other.Asks name → one.reply place = .location none →
    (∀ visit ∈ between, visit.call ≠ .forgetMisses) → clear.call = .forgetMisses →
    (∀ visit ∈ recent, visit.call.sought? ≠ some name) →
    ∃ loader, other.layers.loaderAt? place = some loader ∧
      other.reply place = .location (other.search place loader name)
  /-- A list, empty or not, stays the same until the next clear. -/
  listed : ∀ (before : List Visit) (one : Visit) (between : List Visit) (other : Visit)
    (after : List Visit) (locations : List Location),
    visits = before ++ one :: (between ++ other :: after) → one.AsksAll name →
    other.AsksAll name → (∀ visit ∈ between, visit.call ≠ .forgetMisses) →
    one.reply place = .locations locations → other.reply place = .locations locations
  /-- The first lookup of a list, and the first after a clear, searches. -/
  searchedAll : ∀ (past recent : List Visit) (other : Visit) (after : List Visit),
    visits = past ++ (recent ++ other :: after) → Run.Cleared past → other.AsksAll name →
    (∀ visit ∈ recent, ¬ visit.AsksAll name) →
    ∃ loader, other.layers.loaderAt? place = some loader ∧
      other.reply place = .locations (other.searchAll place loader name)
  /-- Neither kind of lookup writes the memory of the other one. -/
  apart : ∀ visit ∈ visits, ∃ loader next, visit.layers.loaderAt? place = some loader ∧
    (visit.step place).layers.loaderAt? place = some next ∧
    (visit.call.sought? = some name → next.memo.lists = loader.memo.lists) ∧
    (visit.AsksAll name → next.memo.resources = loader.memo.resources)

/-- What the lookups of a speculative resource answer in a run: what a search finds now. -/
structure Unremembered (place : Nat) (visits : List Visit) (last : Loader) (name : String) :
    Prop where
  searched : ∀ other ∈ visits, other.Asks name →
    ∃ loader, other.layers.loaderAt? place = some loader ∧
      other.reply place = .location (other.search place loader name)
  searchedAll : ∀ other ∈ visits, other.AsksAll name →
    ∃ loader, other.layers.loaderAt? place = some loader ∧
      other.reply place = .locations (other.searchAll place loader name)
  /-- Neither memory has anything of it. -/
  unstored : last.memo.resources.get? name = none ∧ last.memo.lists.get? name = none

namespace Run

variable {place : Nat} {start last : Loader} {visits : List Visit} {name : String}

namespace Moment

variable {before : List Visit} {visit : Visit} {loader next : Loader}

/-- Where no outcome is remembered, a lookup searches, in the files and over the host of
that visit. -/
theorem searched (h : Moment place start before visit loader next) (hasks : visit.Asks name)
    (hheld : loader.atlas.resources.get? name = none) :
    ∃ loader, visit.layers.loaderAt? place = some loader ∧
      visit.reply place = .location (visit.search place loader name) := by
  refine ⟨loader, h.found, ?_⟩
  have hrecall : loader.recallResource name = none := by
    unfold Loader.recallResource
    split
    · exact hheld
    · rfl
  rw [Visit.reply_of_asks h.found h.alone hasks, hrecall]
  rfl

theorem searchedAll (h : Moment place start before visit loader next) (hasks : visit.AsksAll name)
    (hheld : loader.atlas.lists.get? name = none) :
    ∃ loader, visit.layers.loaderAt? place = some loader ∧
      visit.reply place = .locations (visit.searchAll place loader name) := by
  refine ⟨loader, h.found, ?_⟩
  have hrecall : loader.recallList name = none := by
    unfold Loader.recallList
    split
    · exact hheld
    · rfl
  rw [Visit.reply_of_asksAll h.found h.alone hasks, hrecall]
  rfl

/-- An outcome that is remembered is the reply, whatever a search would find now. -/
theorem recalled (h : Moment place start before visit loader next) (hasks : visit.Asks name)
    (hremembers : start.remembersResource name = true) {held : Option Location}
    (hheld : loader.atlas.resources.get? name = some held) :
    visit.reply place = .location held := by
  have hrecall : loader.recallResource name = some held := by
    unfold Loader.recallResource
    rw [if_pos ((h.run.remembers_eq name).trans hremembers)]
    exact hheld
  rw [Visit.reply_of_asks h.found h.alone hasks, hrecall]
  rfl

theorem recalledAll (h : Moment place start before visit loader next) (hasks : visit.AsksAll name)
    (hremembers : start.remembersResource name = true) {held : List Location}
    (hheld : loader.atlas.lists.get? name = some held) : visit.reply place = .locations held := by
  have hrecall : loader.recallList name = some held := by
    unfold Loader.recallList
    rw [if_pos ((h.run.remembers_eq name).trans hremembers)]
    exact hheld
  rw [Visit.reply_of_asksAll h.found h.alone hasks, hrecall]
  rfl

/-- The reply is remembered, if the resource is not speculative. -/
theorem held (h : Moment place start before visit loader next) (hasks : visit.Asks name)
    (hremembers : start.remembersResource name = true) {answer : Option Location}
    (hreply : visit.reply place = .location answer) :
    next.atlas.resources.get? name = some answer := by
  obtain ⟨found, hfound, hheld⟩ := h.leaves.of_asks h.found h.alone hasks
    ((h.run.remembers_eq name).trans hremembers)
  obtain rfl : found = answer := Reply.location.inj (hfound.symm.trans hreply)
  exact hheld

theorem heldAll (h : Moment place start before visit loader next) (hasks : visit.AsksAll name)
    (hremembers : start.remembersResource name = true) {answer : List Location}
    (hreply : visit.reply place = .locations answer) :
    next.atlas.lists.get? name = some answer := by
  obtain ⟨found, hfound, hheld⟩ := h.leaves.of_asksAll h.found h.alone hasks
    ((h.run.remembers_eq name).trans hremembers)
  obtain rfl : found = answer := Reply.locations.inj (hfound.symm.trans hreply)
  exact hheld

/-- What comes after a visit is a run of the same loader. -/
theorem remembers_next (h : Moment place start before visit loader next) (name : String) :
    next.remembersResource name = start.remembersResource name :=
  (Run.visit h.run h.found h.alone h.left).remembers_eq name

theorem distinct_next (h : Moment place start before visit loader next)
    (hstart : start.atlas.resources.Distinct) : next.atlas.resources.Distinct :=
  h.leaves.distinct (h.run.distinct hstart)

end Moment

theorem remembered (h : Run place start visits last) (hstart : start.atlas = ⟨.empty, .empty⟩)
    (hremembers : start.remembersResource name = true) : Remembered place visits name := by
  have hdistinct : start.atlas.resources.Distinct := by
    rw [hstart]
    exact Table.distinct_empty
  constructor
  · -- Nothing is known of a name that has not been looked up, so it is searched for.
    rintro before other after rfl hasks hsought
    obtain ⟨loader, next, hother, -⟩ := h.moment
    exact hother.searched hasks (hother.run.unsought hdistinct hsought (by rw [hstart]; rfl))
  · -- A location stays, even over a clear.
    rintro before one between other after location rfl hone hother hreply
    obtain ⟨first, held, hfirst, hrest⟩ := h.moment
    obtain ⟨loader, next, hlast, -⟩ := hrest.moment
    have hheld := hlast.run.location_lasts (hfirst.distinct_next hdistinct)
      (hfirst.held hone hremembers hreply)
    exact hlast.recalled hother ((hfirst.remembers_next name).trans hremembers) hheld
  · -- That there is none stays up to a clear.
    rintro before one between other after rfl hone hother huncleared hreply
    obtain ⟨first, held, hfirst, hrest⟩ := h.moment
    obtain ⟨loader, next, hlast, -⟩ := hrest.moment
    have hheld := hlast.run.absence_lasts huncleared (hfirst.held hone hremembers hreply)
    exact hlast.recalled hother ((hfirst.remembers_next name).trans hremembers) hheld
  · -- After a clear a name that was not there is searched for again.
    rintro before one between clear recent other after rfl hone hother hreply huncleared hclear
      hsought
    obtain ⟨first, held, hfirst, hrest⟩ := h.moment
    obtain ⟨full, emptied, hcleared, hrest⟩ := hrest.moment
    obtain ⟨loader, next, hlast, -⟩ := hrest.moment
    have hheld := hcleared.run.absence_lasts huncleared (hfirst.held hone hremembers hreply)
    have hfull := hcleared.run.distinct (hfirst.distinct_next hdistinct)
    have hnone := (hcleared.leaves.clear hclear hfull name).1 hheld
    exact hlast.searched hother (hlast.run.unsought (hcleared.leaves.distinct hfull) hsought hnone)
  · -- A list stays up to a clear.
    rintro before one between other after locations rfl hone hother huncleared hreply
    obtain ⟨first, held, hfirst, hrest⟩ := h.moment
    obtain ⟨loader, next, hlast, -⟩ := hrest.moment
    have hheld := hlast.run.list_lasts huncleared (hfirst.heldAll hone hremembers hreply)
    exact hlast.recalledAll hother ((hfirst.remembers_next name).trans hremembers) hheld
  · -- After a clear all lists are made anew.
    rintro past recent other after rfl hcleared hother hasks
    obtain ⟨middle, hpast, hrest⟩ := h.split
    obtain ⟨loader, next, hlast, -⟩ := hrest.moment
    exact hlast.searchedAll hother
      (hlast.run.unlisted hasks (hpast.list_of_cleared hstart hcleared))
  · -- And neither memory is changed by what is done to the other.
    intro visit hvisit
    obtain ⟨before, after, rfl⟩ := List.append_of_mem hvisit
    obtain ⟨loader, next, hmoment, -⟩ := h.moment
    obtain ⟨hlists, hresources⟩ := @Visit.Leaves.apart visit place loader next.atlas name
      hmoment.leaves
    exact ⟨loader, next, hmoment.found, hmoment.left, hlists, hresources⟩

theorem unremembered (h : Run place start visits last) (hstart : start.atlas = ⟨.empty, .empty⟩)
    (hname : start.remembersResource name = false) : Unremembered place visits last name := by
  refine ⟨?_, ?_, h.speculative hstart hname⟩
  · intro other hmem hasks
    obtain ⟨before, after, rfl⟩ := List.append_of_mem hmem
    obtain ⟨loader, next, hother, -⟩ := h.moment
    exact hother.searched hasks (hother.run.speculative hstart hname).1
  · intro other hmem hasks
    obtain ⟨before, after, rfl⟩ := List.append_of_mem hmem
    obtain ⟨loader, next, hother, -⟩ := h.moment
    exact hother.searchedAll hasks (hother.run.speculative hstart hname).2

end Run

/-- What the lookups of a resource answer in a run of a loader that remembers of no resource at
first. A run goes on with any call, if the host of that time is an earlier loader or only
answers. -/
theorem resource_memory {place : Nat} {start last : Loader} {visits : List Visit}
    (hstart : start.atlas = ⟨.empty, .empty⟩) (hrun : Run place start visits last) (name : String) :
    (start.remembersResource name = true → Remembered place visits name) ∧
      (start.remembersResource name = false → Unremembered place visits last name) ∧
      ∀ visit : Visit, visit.layers.loaderAt? place = some last → visit.layers.KeepsOff place →
        ∃ next, (visit.step place).layers.loaderAt? place = some next ∧
          Run place start (visits ++ [visit]) next :=
  ⟨hrun.remembered hstart, hrun.unremembered hstart, fun _ => hrun.goes_on⟩

/-! ## A loader that stands alone -/

/-- What there is around a loader at the time of a visit, and what is asked of it. -/
structure Occasion where
  volume : Volume := {}
  host : Host := .none
  call : Call

/-- A visit to a loader that has no other loader beside it. Files and host are those of the
occasion. -/
def kiosk (loader : Loader) (occasion : Occasion) : Visit :=
  ⟨0, ⟨occasion.volume, [⟨loader, occasion.host⟩]⟩, occasion.call⟩

/-- The loader as the visit leaves it, ready for the next one. -/
def served (loader : Loader) (occasion : Occasion) : Loader :=
  (((kiosk loader occasion).step 0).layers.loaderAt? 0).getD loader

/-- Visits one after the other. Each finds the loader as the last one has left it. -/
def visitsTo (loader : Loader) : List Occasion → List Visit
  | [] => []
  | occasion :: rest => kiosk loader occasion :: visitsTo (served loader occasion) rest

theorem loaderAt?_kiosk (loader : Loader) (occasion : Occasion) :
    ((kiosk loader occasion).step 0).layers.loaderAt? 0 = some (served loader occasion) := by
  have hloader : (kiosk loader occasion).layers.loaderAt? 0 = some loader := rfl
  obtain ⟨next, hnext, -⟩ :=
    (callWithin_leads 1 0 (kiosk loader occasion).layers 0 occasion.call).history loader hloader
  have hstep : ((kiosk loader occasion).step 0).layers.loaderAt? 0 = some next := hnext
  rw [served, hstep]
  rfl

theorem Run.visitsTo {start loader : Loader} {occasions : List Occasion} {before : List Visit}
    (hrun : Run 0 start before loader) (hquiet : ∀ occasion ∈ occasions, occasion.host.IsQuiet) :
    Run 0 start (before ++ Layers.visitsTo loader occasions) (occasions.foldl served loader) := by
  induction occasions generalizing loader before with
  | nil =>
    rw [Layers.visitsTo, List.append_nil]
    exact hrun
  | cons occasion rest ih =>
    obtain ⟨hfirst, hrest⟩ := List.forall_mem_cons.mp hquiet
    obtain ⟨next, hnext, hrun⟩ :=
      @Run.goes_on _ _ _ _ (kiosk loader occasion) hrun rfl (.quiet rfl hfirst)
    obtain rfl : served loader occasion = next :=
      Option.some.inj ((loaderAt?_kiosk loader occasion).symm.trans hnext)
    have hall := ih hrun hrest
    rwa [List.append_assoc] at hall

/-- Visits on any occasions are a run, if the hosts only answer. -/
theorem run_visitsTo {loader : Loader} {occasions : List Occasion}
    (hquiet : ∀ occasion ∈ occasions, occasion.host.IsQuiet) :
    Run 0 loader (visitsTo loader occasions) (occasions.foldl served loader) := by
  have hrun := (@Run.start 0 loader).visitsTo hquiet
  rwa [List.nil_append] at hrun

/-- A program that has a text, and calls nobody. -/
def vendor : Host := .embedder { resources := [("r.txt", [.hosted "vendor"])] }

/-- An archive is registered that has one text, and another text is nowhere. That stays so when a
host comes that has it, until a clear, and after it the host is not needed any more. A unit is asked
for as a resource, before and after an archive that has it is registered. -/
def errands : List Occasion := [
  { call := .registerImage Scene.bundle "b" },
  { call := .resource "t.txt" },
  { call := .resource "r.txt" },
  { host := vendor, call := .resource "r.txt" },
  { host := vendor, call := .forgetMisses },
  { host := vendor, call := .resource "/r.txt" },
  { call := .resource "r.txt" },
  { call := .resource "a.unit" },
  { call := .registerImage parcel "parcel" },
  { call := .resource "a.unit" },
  { call := .resource "t.txt" }]

private theorem isQuiet_errands : ∀ occasion ∈ errands, occasion.host.IsQuiet := by
  have hvendor : vendor.IsQuiet := fun _ hhabit => absurd hhabit List.not_mem_nil
  intro occasion hoccasion
  fin_cases hoccasion <;> first | exact trivial | exact hvendor

/-- What the lookups of first locations answer among visits to a place. -/
def answersTo (place : Nat) (visits : List Visit) : List (Option Location) :=
  visits.filterMap fun visit =>
    match visit.reply place with
    | .location found => some found
    | _ => none

private theorem answers_errands : answersTo 0 (visitsTo (.create 0 {} {}) errands) = [
    some (.entry "b" "t.txt"),
    none,
    none,
    some (.hosted "vendor"),
    some (.hosted "vendor"),
    none,
    some (.entry "parcel" "a.unit"),
    some (.entry "b" "t.txt")] := by decide +kernel

/-- A text is asked for of a loader whose host is another loader, which has it. -/
def passedDown : Visit :=
  ⟨1, ⟨{}, [⟨served (.create 0 {} {}) { call := .registerImage Scene.bundle "b" }, .none⟩,
    ⟨.create 1 {} {}, .loader 0⟩]⟩, .resource "t.txt"⟩

private theorem keepsOff_passedDown : passedDown.layers.KeepsOff 1 := by
  refine @KeepsOff.parent _ _ 0 ?_ rfl
  intro place parent hhost
  match place with
  | 0 => cases hhost
  | 1 =>
    cases hhost
    exact Nat.zero_lt_one
  | place + 2 => cases hhost

/-- What the lookups on these errands answer. Both texts are remembered, and the unit is not. What
the loader below has is remembered too. -/
theorem resource_memory_kiosk :
    answersTo 0 (visitsTo (.create 0 {} {}) errands) = [
      some (.entry "b" "t.txt"),
      none,
      none,
      some (.hosted "vendor"),
      some (.hosted "vendor"),
      none,
      some (.entry "parcel" "a.unit"),
      some (.entry "b" "t.txt")] ∧
    Remembered 0 (visitsTo (.create 0 {} {}) errands) "t.txt" ∧
    Remembered 0 (visitsTo (.create 0 {} {}) errands) "r.txt" ∧
    Unremembered 0 (visitsTo (.create 0 {} {}) errands)
      (errands.foldl served (.create 0 {} {})) "a.unit" ∧
    answersTo 1 [passedDown] = [some (.entry "b" "t.txt")] ∧
    ∃ next, Run 1 (.create 1 {} {}) [passedDown] next ∧ Remembered 1 [passedDown] "t.txt" := by
  have hrun : Run 0 (.create 0 {} {}) (visitsTo (.create 0 {} {}) errands)
      (errands.foldl served (.create 0 {} {})) := run_visitsTo isQuiet_errands
  obtain ⟨next, -, hdown⟩ := (resource_memory rfl (@Run.start 1 (.create 1 {} {})) "t.txt").2.2
    passedDown rfl keepsOff_passedDown
  exact ⟨answers_errands, (resource_memory rfl hrun "t.txt").1 (by decide),
    (resource_memory rfl hrun "r.txt").1 (by decide),
    (resource_memory rfl hrun "a.unit").2.1 (by decide), by decide +kernel,
    next, hdown, (resource_memory rfl hdown "t.txt").1 (by decide)⟩

end Layers

end LayeredUnits
