import LayeredUnits.Proofs.Lookup
import LayeredUnits.Proofs.Scene

/-!
# What a happening writes about resources

A loader's `Atlas` is what it remembers of resources: first locations, or that
there is none, and lists of locations. A clear takes the lists and what says
that there is no location, but a location that was found stays. Everything else
that is written is the outcome of a lookup that ends.

* `step_marks` — what one happening makes of the atlas.
* `hit?_clear` — a clear leaves the locations that were found.
-/

namespace LayeredUnits

/-- What a loader remembers of resources: the first locations, and the lists. A loader does nothing
else with resources that lasts. -/
structure Atlas where
  /-- The first location of a resource, or that there is none. -/
  resources : Table (Option Location)
  lists : Table (List Location)

/-- What a loader remembers of resources. -/
def Loader.atlas (loader : Loader) : Atlas := ⟨loader.memo.resources, loader.memo.lists⟩

namespace Atlas

/-- What a clear leaves: the locations that were found. Lists go, whether they are empty or not. -/
def clear (atlas : Atlas) : Atlas := ⟨atlas.resources.retain Option.isSome, .empty⟩

/-- The atlas with the first location of one more resource, unless an outcome is there. -/
def located (atlas : Atlas) (name : String) (found : Option Location) : Atlas :=
  { atlas with resources := atlas.resources.insertNew name found }

/-- The atlas with the locations of one more resource, unless a list is there. -/
def listed (atlas : Atlas) (name : String) (found : List Location) : Atlas :=
  { atlas with lists := atlas.lists.insertNew name found }

/-- The first location that is remembered of a resource. That there is none does not count. -/
def hit? (atlas : Atlas) (name : String) : Option Location := (atlas.resources.get? name).join

theorem resources_clear {atlas : Atlas} (h : atlas.resources.Distinct) (name : String) :
    atlas.clear.resources.get? name = (atlas.hit? name).map some := by
  have hkept : atlas.clear.resources.get? name = (atlas.resources.get? name).filter Option.isSome :=
    Table.get?_retain h Option.isSome name
  unfold hit?
  rw [hkept]
  cases atlas.resources.get? name with
  | none => rfl
  | some found => cases found <;> rfl

/-- A clear does not take the locations that were found. It needs that no name has two entries, or a
found one could come up from below. -/
theorem hit?_clear {atlas : Atlas} (h : atlas.resources.Distinct) (name : String) :
    atlas.clear.hit? name = atlas.hit? name := by
  have hkept := resources_clear h name
  unfold hit? at hkept ⊢
  rw [hkept]
  cases (atlas.resources.get? name).join <;> rfl

/-- After a clear no resource is remembered as one that is nowhere. -/
theorem clear_ne_miss (atlas : Atlas) (name : String) :
    atlas.clear.resources.get? name ≠ some none := by
  intro hmiss
  cases Table.test_of_get?_retain hmiss

end Atlas

/-! ## The operations of a loader -/

namespace Loader

theorem atlas_beginLookup (loader : Loader) (name : String) :
    (loader.beginLookup name).loader.atlas = loader.atlas := by
  unfold beginLookup
  split
  · rfl
  · split <;> rfl

theorem atlas_finishLookup (loader : Loader) (volume : Volume) (ticket : Ticket)
    (answer : Option (Shared CodeUnit)) :
    (loader.finishLookup volume ticket answer).loader.atlas = loader.atlas := by
  rcases finishLookup_cases loader volume ticket answer with
    ⟨unit, -, -, hloader⟩ |
    ⟨-, failed, place, rest, bytes, unit, domains, packages, issued, -, -, -, -, -, -, -, hloader⟩ |
    ⟨-, -, searched, rfl, -, hloader⟩
  · rw [hloader]
    rfl
  · rw [hloader]
    rfl
  · rw [hloader]
    rcases recordMiss_cases (loader.searching.readTimes (ticket.sources.places ticket.name).length)
        ticket with ⟨-, -, hrecord⟩ | ⟨-, -, hrecord⟩ <;> rw [hrecord] <;> rfl

theorem atlas_preload (loader : Loader) (unit : Shared CodeUnit) :
    (loader.preload unit).loader.atlas = loader.atlas := by
  cases hbound : loader.isBound unit.value.name with
  | true => rw [preload_eq_of_bound hbound]; rfl
  | false => rw [preload_eq_of_free hbound]; rfl

theorem internAll_resources (memo : Memo) (names : List String) :
    (internAll memo names).resources = memo.resources ∧
      (internAll memo names).lists = memo.lists := by
  unfold internAll
  induction names generalizing memo with
  | nil => exact ⟨rfl, rfl⟩
  | cons name rest ih => exact ih (memo.intern name)

theorem atlas_addDirectory (loader : Loader) (directory : Directory) :
    (loader.addDirectory directory).loader.atlas = loader.atlas := by
  obtain ⟨hresources, hlists⟩ := internAll_resources loader.memo
    (loader.sources.addDirectory loader.isBound directory).2.1
  unfold addDirectory atlas
  simp only [hresources, hlists]

theorem atlas_addArchive (loader : Loader) (archive : Archive) :
    (loader.addArchive archive).loader.atlas = loader.atlas := by
  obtain ⟨hresources, hlists⟩ := internAll_resources loader.memo
    (loader.sources.addArchive loader.isBound archive).2.1
  unfold addArchive atlas
  simp only [hresources, hlists]

theorem atlas_register {α : Type} {loader : Loader} (opened : Except Fault α × List Event)
    {add : α → Turn Nat} (hadd : ∀ source, (add source).loader.atlas = loader.atlas) :
    (loader.register opened add).loader.atlas = loader.atlas := by
  obtain ⟨result, events⟩ := opened
  cases result with
  | error fault => rfl
  | ok source => exact hadd source

/-- A first location is remembered if the resource is none of the speculative ones. -/
theorem atlas_rememberResource (loader : Loader) (name : String) (found : Option Location) :
    (loader.rememberResource name found).loader.atlas =
      if loader.remembersResource name then loader.atlas.located name found
      else loader.atlas := by
  unfold rememberResource
  split <;> rfl

theorem atlas_rememberList (loader : Loader) (name : String) (found : List Location) :
    (loader.rememberList name found).loader.atlas =
      if loader.remembersResource name then loader.atlas.listed name found else loader.atlas := by
  unfold rememberList
  split <;> rfl

end Loader

/-! ## Happenings -/

namespace Scene

/-- What a happening can make of the atlas of this scene. The first case is that of everything that
writes nothing to it. -/
inductive Marks (scene : Scene) : Happening → Atlas → Prop
  | nothing {one : Happening} (hclear : one ≠ .forgetMisses) : Marks scene one scene.loader.atlas
  | cleared : Marks scene .forgetMisses scene.loader.atlas.clear
  /-- A lookup of the first location has ended. -/
  | located {number : Nat} {name : String} {own : Option Location} (found : Option Location)
      (hwaiting : scene.waiting.lookup number = some (.resource name own))
      (hremembers : scene.loader.remembersResource name = true) :
      Marks scene (.locate number found) (scene.loader.atlas.located name (own.or found))
  /-- A lookup of all locations has ended. -/
  | listed {number : Nat} {name : String} {own : List Location} (found : List Location)
      (hwaiting : scene.waiting.lookup number = some (.resources name own))
      (hremembers : scene.loader.remembersResource name = true) :
      Marks scene (.locateAll number found) (scene.loader.atlas.listed name (own ++ found))

theorem Marks.of_same {scene : Scene} {one : Happening} {atlas : Atlas}
    (hclear : one ≠ .forgetMisses) (hatlas : atlas = scene.loader.atlas) : Marks scene one atlas :=
  hatlas ▸ .nothing hclear

theorem locate_marks (scene : Scene) (number : Nat) (found : Option Location) :
    Marks scene (.locate number found) (scene.locate number found).scene.loader.atlas := by
  unfold locate
  split
  · next name own hwaiting =>
    have hatlas := scene.loader.atlas_rememberResource name (own <|> found)
    cases hremembers : scene.loader.remembersResource name with
    | true =>
      rw [if_pos hremembers] at hatlas
      have hmarks := Marks.located found hwaiting hremembers
      cases own <;> exact hatlas ▸ hmarks
    | false =>
      rw [if_neg (by rw [hremembers]; decide)] at hatlas
      exact .of_same (by simp) hatlas
  · exact .nothing (by simp)

theorem locateAll_marks (scene : Scene) (number : Nat) (found : List Location) :
    Marks scene (.locateAll number found) (scene.locateAll number found).scene.loader.atlas := by
  unfold locateAll
  split
  · next name own hwaiting =>
    have hatlas := scene.loader.atlas_rememberList name (own ++ found)
    cases hremembers : scene.loader.remembersResource name with
    | true =>
      rw [if_pos hremembers] at hatlas
      exact hatlas ▸ Marks.listed found hwaiting hremembers
    | false =>
      rw [if_neg (by rw [hremembers]; decide)] at hatlas
      exact .of_same (by simp) hatlas
  · exact .nothing (by simp)

theorem atlas_ask (scene : Scene) (name : String) :
    (scene.ask name).scene.loader.atlas = scene.loader.atlas := by
  have hkept := scene.loader.atlas_beginLookup name
  unfold ask
  split <;> rename_i hturn <;> rw [hturn] at hkept <;> exact hkept

theorem atlas_answer (scene : Scene) (number : Nat) (found : Option (Shared CodeUnit)) :
    (scene.answer number found).scene.loader.atlas = scene.loader.atlas := by
  unfold answer
  split
  · exact Loader.atlas_finishLookup ..
  · rfl

/-- The ends of lookups of resources write what they come to, a clear takes what may have become
wrong, and nothing else is written. -/
theorem step_marks (scene : Scene) (one : Happening) :
    Marks scene one (scene.next one).loader.atlas := by
  cases one with
  | ask name => exact .of_same (by simp) (atlas_ask scene name)
  | answer number found => exact .of_same (by simp) (atlas_answer scene number found)
  | seek name =>
    refine .of_same (by simp) ?_
    show (scene.seek _).scene.loader.atlas = _
    unfold seek
    split <;> rfl
  | locate number found => exact locate_marks scene number found
  | seekAll name =>
    refine .of_same (by simp) ?_
    show (scene.seekAll _).scene.loader.atlas = _
    unfold seekAll
    split <;> rfl
  | locateAll number found => exact locateAll_marks scene number found
  | preload unit => exact .of_same (by simp) (scene.loader.atlas_preload unit)
  | registerDirectory path =>
    exact .of_same (by simp) (Loader.atlas_register _ scene.loader.atlas_addDirectory)
  | registerArchive path =>
    exact .of_same (by simp) (Loader.atlas_register _ scene.loader.atlas_addArchive)
  | registerImage image origin =>
    exact .of_same (by simp) (Loader.atlas_register _ scene.loader.atlas_addArchive)
  | forgetMisses => exact .cleared
  | change volume => exact .nothing (by simp)

end Scene

end LayeredUnits
