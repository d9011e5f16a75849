import Mathlib
import LayeredUnits.Proofs.Atlas
import LayeredUnits.Proofs.Locations
import LayeredUnits.Proofs.Waiting

/-!
# What a clear does not reach

A lookup of a resource searches the sources when it begins, and what it comes to
is remembered when the host has answered. Nobody compares generations in
between, as is done for units. So a clear that comes while a lookup waits does
not reach it: the miss or the list of that lookup is remembered afterwards, and
a source that was registered for it stays hidden until the next clear.

* `charted_after` — every miss and every list that is remembered was left by a
  lookup that ended after the last clear. The induction is on the history, at
  its end.
* `Visible.next` — a location that a clear finds, and of which no waiting lookup
  is ignorant, stays in sight.
* `memory_after_clear` — so it is only the lookups that wait at a clear that can
  leave something out of date, and if there are none, nothing is.
* `cleared_source_may_stay_hidden` — a history in which one does.
-/

namespace LayeredUnits

namespace Scene

open ResourceName (normalize)

/-! ## Where a miss or a list comes from -/

/-- The lookup that left something behind: it began after `before`, and it ended after `during`.
There has been no clear since. If there was one `during` it, what it left is of sources from before
that clear. -/
structure LeftBy (start : Scene) (history : List Happening) (errand : Errand)
    (ends : Nat → Happening) (before : List Happening) (first : Happening)
    (during later : List Happening) : Prop where
  parts : history = before ++ first :: during ++ ends (start.after before).begun :: later
  /-- What the sources had when it began is part of the errand. -/
  began : BeganAt start (start.after before).begun errand before first
  waited : ((start.after before).begun, errand) ∈ (start.after (before ++ first :: during)).waiting
  uncleared : .forgetMisses ∉ later

/-- There is such a lookup: what is remembered has been left by it. -/
def Left (start : Scene) (history : List Happening) (errand : Errand) (ends : Nat → Happening) :
    Prop :=
  ∃ before first during later, LeftBy start history errand ends before first during later

theorem Left.concat {start : Scene} {history : List Happening} {errand : Errand}
    {ends : Nat → Happening} {one : Happening} (h : Left start history errand ends)
    (hone : one ≠ .forgetMisses) : Left start (history ++ [one]) errand ends := by
  obtain ⟨before, first, during, later, hleft⟩ := h
  refine ⟨before, first, during, later ++ [one], ?_, hleft.began, hleft.waited, ?_⟩
  · rw [hleft.parts]
    simp
  · intro hmem
    rcases List.mem_append.mp hmem with hmem | hmem
    · exact hleft.uncleared hmem
    · exact hone (List.mem_singleton.mp hmem).symm

/-- A lookup that ends now has begun at some point, since nothing waited at first. -/
theorem left_of_waiting {start : Scene} (hwaiting : start.waiting = []) {history : List Happening}
    {number : Nat} {errand : Errand} (ends : Nat → Happening)
    (h : (start.after history).waiting.lookup number = some errand) :
    Left start (history ++ [ends number]) errand ends := by
  have hmem := mem_of_lookup h
  rcases waiting_origin hmem with hwaited | ⟨before, first, during, rfl, hbegan⟩
  · rw [hwaiting] at hwaited
    exact absurd hwaited List.not_mem_nil
  · obtain rfl := hbegan.numbered
    exact ⟨before, first, during, [], rfl, hbegan, hmem, List.not_mem_nil⟩

/-- The invariant: where the misses and the lists that are remembered come from. -/
structure Charted (start : Scene) (history : List Happening) : Prop where
  /-- A lookup has left a miss if the sources had nothing when it began, and the host nothing. -/
  misses : ∀ name, (start.after history).loader.memo.resources.get? name = some none →
    Left start history (.resource name none) (.locate · none)
  /-- A list is what the sources had when the lookup began, and what the host had. -/
  lists : ∀ name list, (start.after history).loader.memo.lists.get? name = some list →
    ∃ own found, list = own ++ found ∧
      Left start history (.resources name own) (.locateAll · found)

theorem Charted.misses_concat {start : Scene} {history : List Happening}
    (hwaiting : start.waiting = []) (h : Charted start history) (one : Happening) :
    ∀ name, (start.after (history ++ [one])).loader.memo.resources.get? name = some none →
      Left start (history ++ [one]) (.resource name none) (.locate · none) := by
  intro name hmiss
  have hmarks := step_marks (start.after history) one
  rw [after_concat] at hmiss
  change ((start.after history).next one).loader.atlas.resources.get? name = some none at hmiss
  generalize ((start.after history).next one).loader.atlas = atlas at hmiss hmarks
  cases hmarks with
  | nothing hclear => exact (h.misses name hmiss).concat hclear
  | cleared => exact absurd hmiss (Atlas.clear_ne_miss _ name)
  | listed found => exact (h.misses name hmiss).concat (by simp)
  | @located number sought own found hwaits _ =>
    change ((start.after history).loader.memo.resources.insertNew sought (own.or found)).get? name =
      some none at hmiss
    by_cases hname : name = sought
    · subst hname
      rw [Table.get?_insertNew_self] at hmiss
      cases hheld : (start.after history).loader.memo.resources.get? name with
      | some held =>
        -- An outcome was there already, so the lookup has left nothing.
        rw [Table.kept_of_some _ hheld] at hmiss
        exact (h.misses name (hheld.trans hmiss)).concat (by simp)
      | none =>
        rw [Table.kept_of_none _ hheld] at hmiss
        obtain ⟨rfl, rfl⟩ := Option.or_eq_none_iff.mp (Option.some.inj hmiss)
        exact left_of_waiting hwaiting (.locate · none) hwaits
    · rw [Table.get?_insertNew_of_ne _ _ hname] at hmiss
      exact (h.misses name hmiss).concat (by simp)

theorem Charted.lists_concat {start : Scene} {history : List Happening}
    (hwaiting : start.waiting = []) (h : Charted start history) (one : Happening) :
    ∀ name list, (start.after (history ++ [one])).loader.memo.lists.get? name = some list →
      ∃ own found, list = own ++ found ∧
        Left start (history ++ [one]) (.resources name own) (.locateAll · found) := by
  intro name list hlist
  have hmarks := step_marks (start.after history) one
  -- A list that was there has been charted, and stays so unless this is a clear.
  have hold : one ≠ .forgetMisses →
      (start.after history).loader.memo.lists.get? name = some list →
      ∃ own found, list = own ++ found ∧
        Left start (history ++ [one]) (.resources name own) (.locateAll · found) := by
    intro hone hheld
    obtain ⟨own, found, hparts, hleft⟩ := h.lists name list hheld
    exact ⟨own, found, hparts, hleft.concat hone⟩
  rw [after_concat] at hlist
  change ((start.after history).next one).loader.atlas.lists.get? name = some list at hlist
  generalize ((start.after history).next one).loader.atlas = atlas at hlist hmarks
  cases hmarks with
  | nothing hclear => exact hold hclear hlist
  | cleared => cases (Table.get?_empty name).symm.trans hlist
  | located found => exact hold (by simp) hlist
  | @listed number sought own found hwaits _ =>
    change ((start.after history).loader.memo.lists.insertNew sought (own ++ found)).get? name =
      some list at hlist
    by_cases hname : name = sought
    · -- A list of this name is kept if there is one, and else the new one is stored,
      -- which this lookup leaves.
      subst hname
      rw [Table.get?_insertNew_self] at hlist
      cases hheld : (start.after history).loader.memo.lists.get? name with
      | some held =>
        rw [Table.kept_of_some _ hheld] at hlist
        exact hold (by simp) (hheld.trans hlist)
      | none =>
        rw [Table.kept_of_none _ hheld] at hlist
        exact ⟨own, found, (Option.some.inj hlist).symm,
          left_of_waiting hwaiting (.locateAll · found) hwaits⟩
    · rw [Table.get?_insertNew_of_ne _ _ hname] at hlist
      exact hold (by simp) hlist

/-- Every miss and every list that is remembered was left by a lookup that ended after the last
clear. -/
theorem charted_after {start : Scene} (hatlas : start.loader.atlas = ⟨.empty, .empty⟩)
    (hwaiting : start.waiting = []) (history : List Happening) : Charted start history := by
  induction history using List.reverseRecOn with
  | nil =>
    constructor
    · intro name hmiss
      change start.loader.atlas.resources.get? name = some none at hmiss
      rw [hatlas] at hmiss
      cases hmiss
    · intro name list hlist
      change start.loader.atlas.lists.get? name = some list at hlist
      rw [hatlas] at hlist
      cases hlist
  | append_singleton history one ih =>
    exact ⟨ih.misses_concat hwaiting one, ih.lists_concat hwaiting one⟩

/-- Every clear comes when no lookup of a resource waits. Without this a lookup may bring back what
a clear has swept away. -/
def ClearsAtRest (start : Scene) (history : List Happening) : Prop :=
  ∀ before later, history = before ++ .forgetMisses :: later →
    ∀ number errand, (number, errand) ∈ (start.after before).waiting →
      ∃ ticket, errand = .unit ticket

/-- If no clear comes while a lookup waits, what is left was computed after the last clear. -/
theorem LeftBy.uncleared_during {start : Scene} {history : List Happening} {errand : Errand}
    {ends : Nat → Happening} {before : List Happening} {first : Happening}
    {during later : List Happening} (h : LeftBy start history errand ends before first during later)
    (hrest : ClearsAtRest start history) (hresource : ∀ ticket, errand ≠ .unit ticket) :
    .forgetMisses ∉ during := by
  intro hmem
  obtain ⟨part, behind, rfl⟩ := List.append_of_mem hmem
  have hwaited := h.waited
  have hparts : history = (before ++ first :: part) ++ .forgetMisses ::
      (behind ++ ends (start.after before).begun :: later) := by
    rw [h.parts]
    simp
  -- The lookup waits at the end of `during`, and so it waits at the clear.
  have hsplit : before ++ first :: (part ++ .forgetMisses :: behind) =
      (before ++ first :: part) ++ .forgetMisses :: behind := by simp
  have hbegun : (start.after before).begun < (start.after (before ++ first :: part)).begun := by
    have hlater := begun_le_after (start.after (before ++ [first])) part
    rw [← after_append, h.began.counted, List.append_assoc, List.singleton_append] at hlater
    exact hlater
  rw [hsplit, after_append] at hwaited
  obtain ⟨ticket, hticket⟩ :=
    hrest _ _ hparts _ _ (waited_before (.forgetMisses :: behind) hbegun hwaited)
  exact hresource ticket hticket

/-! ## What stays in sight -/

/-- The sources of a loader only grow, so a location that they have stays. -/
theorem mem_locations_next {scene : Scene} {one : Happening} {name : String} {location : Location}
    (hone : ∀ volume, one ≠ .change volume)
    (h : location ∈ scene.loader.sources.locations scene.volume name) :
    location ∈ (scene.next one).loader.sources.locations (scene.next one).volume name := by
  obtain ⟨hdirectories, harchives⟩ := lists_next scene one
  have hvolume : (scene.next one).volume = scene.volume := (step_frame scene one).volume hone
  unfold Sources.locations at h ⊢
  rw [hvolume, hdirectories, harchives, List.filterMap_append, List.filterMap_append]
  rcases List.mem_append.mp h with h | h
  · exact List.mem_append_left _ (List.mem_append_left _ h)
  · exact List.mem_append_right _ (List.mem_append_left _ h)

/-- A location that the sources have is in sight: what is remembered does not hide it, and the
lookups that wait know of it. -/
structure Visible (name : String) (location : Location) (scene : Scene) : Prop where
  here : location ∈ scene.loader.sources.locations scene.volume name
  unmissed : scene.loader.atlas.resources.get? name ≠ some none
  listed : ∀ list, scene.loader.atlas.lists.get? name = some list → location ∈ list
  sought : ∀ number own, (number, .resource name own) ∈ scene.waiting → own ≠ none
  soughtAll : ∀ number own, (number, .resources name own) ∈ scene.waiting → location ∈ own

namespace Visible

variable {scene : Scene} {one : Happening} {name : String} {location : Location}

theorem unmissed_next (h : Visible name location scene) (one : Happening) :
    (scene.next one).loader.atlas.resources.get? name ≠ some none := by
  have hmarks := step_marks scene one
  generalize (scene.next one).loader.atlas = atlas at hmarks
  cases hmarks with
  | nothing => exact h.unmissed
  | cleared => exact Atlas.clear_ne_miss _ name
  | listed => exact h.unmissed
  | @located number sought own found hwaits _ =>
    show (scene.loader.atlas.resources.insertNew sought (own.or found)).get? name ≠ some none
    by_cases hname : name = sought
    · subst hname
      have hown : own ≠ none := h.sought number own (mem_of_lookup hwaits)
      have hunmissed := h.unmissed
      rw [Table.get?_insertNew_self]
      unfold Table.kept
      cases hheld : scene.loader.atlas.resources.get? name with
      | some held => rwa [hheld] at hunmissed
      | none =>
        -- A lookup that waits has seen the location among its own, so it comes to one.
        intro hnone
        exact hown (Option.or_eq_none_iff.mp (Option.some.inj hnone)).1
    · rw [Table.get?_insertNew_of_ne _ _ hname]
      exact h.unmissed

theorem listed_next (h : Visible name location scene) (one : Happening) :
    ∀ list, (scene.next one).loader.atlas.lists.get? name = some list → location ∈ list := by
  intro list hlist
  have hmarks := step_marks scene one
  generalize (scene.next one).loader.atlas = atlas at hmarks hlist
  cases hmarks with
  | nothing => exact h.listed list hlist
  | cleared => cases (Table.get?_empty name).symm.trans hlist
  | located => exact h.listed list hlist
  | @listed number sought own found hwaits _ =>
    change (scene.loader.atlas.lists.insertNew sought (own ++ found)).get? name = some list at hlist
    by_cases hname : name = sought
    · -- The list that is there has the location, and so has the new one, from the sources.
      subst hname
      have hown : location ∈ own := h.soughtAll number own (mem_of_lookup hwaits)
      rw [Table.get?_insertNew_self] at hlist
      unfold Table.kept at hlist
      cases hheld : scene.loader.atlas.lists.get? name with
      | some held =>
        rw [hheld] at hlist
        exact h.listed list (hheld.trans hlist)
      | none =>
        rw [hheld] at hlist
        rw [← Option.some.inj hlist]
        exact List.mem_append_left found hown
    · rw [Table.get?_insertNew_of_ne _ _ hname] at hlist
      exact h.listed list hlist

theorem next (h : Visible name location scene) (hone : ∀ volume, one ≠ .change volume) :
    Visible name location (scene.next one) where
  here := mem_locations_next hone h.here
  unmissed := h.unmissed_next one
  listed := h.listed_next one
  sought := by
    intro number own hmem
    rcases waiting_or_begun hmem with hwaited | ⟨-, hbegins, -⟩
    · exact h.sought number own hwaited
    · -- The lookup has just searched the sources, which have the location.
      have hfirst : own = (scene.loader.sources.locations scene.volume name).head? := by
        rw [← locate?_eq_head?]
        cases one with
        | seek sought =>
          cases hbegins
          rfl
        | _ => cases hbegins
      intro hnone
      have hempty := List.head?_eq_none_iff.mp (hfirst.symm.trans hnone)
      have hhere := h.here
      rw [hempty] at hhere
      exact List.not_mem_nil hhere
  soughtAll := by
    intro number own hmem
    rcases waiting_or_begun hmem with hwaited | ⟨-, hbegins, -⟩
    · exact h.soughtAll number own hwaited
    · cases one with
      | seekAll sought =>
        cases hbegins
        exact h.here
      | _ => cases hbegins

theorem after (h : Visible name location scene) {history : List Happening}
    (hfiles : ∀ volume, .change volume ∉ history) :
    Visible name location (scene.after history) := by
  induction history generalizing scene with
  | nil => exact h
  | cons one rest ih =>
    have hone : ∀ volume, one ≠ .change volume :=
      fun volume heq => hfiles volume (heq ▸ List.mem_cons_self)
    exact ih (h.next hone) fun volume hmem => hfiles volume (List.mem_cons_of_mem one hmem)

end Visible

/-- No lookup of the resource waits that is ignorant of this location. -/
structure Informed (name : String) (location : Location) (scene : Scene) : Prop where
  sought : ∀ number own, (number, .resource name own) ∈ scene.waiting → own ≠ none
  soughtAll : ∀ number own, (number, .resources name own) ∈ scene.waiting → location ∈ own

theorem visible_of_clear {scene : Scene} {name : String} {location : Location}
    (hhere : location ∈ scene.loader.sources.locations scene.volume name)
    (hinformed : Informed name location scene) :
    Visible name location (scene.next .forgetMisses) where
  here := hhere
  unmissed := Atlas.clear_ne_miss scene.loader.atlas name
  listed := by
    intro list hlist
    cases (Table.get?_empty name).symm.trans hlist
  sought := hinformed.sought
  soughtAll := hinformed.soughtAll

/-- A lookup of the first location that begins now finds one, at once or when the host has answered,
and a lookup of all locations finds this one. -/
structure Shows (scene : Scene) (name : String) (location : Location) : Prop where
  first : (∃ found, (scene.step (.seek name)).outcome = .location (normalize name) (some found)) ∨
    ((scene.step (.seek name)).outcome = .nothing ∧
      ∀ during answer, (∀ volume, .change volume ∉ during) →
        (∀ other, .locate scene.begun other ∉ during) →
          ∃ found, ((scene.after (.seek name :: during)).step
            (.locate scene.begun answer)).outcome = .location (normalize name) (some found))
  all : (∃ list, (scene.step (.seekAll name)).outcome = .locations (normalize name) list ∧
      location ∈ list) ∨
    ((scene.step (.seekAll name)).outcome = .nothing ∧
      ∀ during answer, (∀ volume, .change volume ∉ during) →
        (∀ other, .locateAll scene.begun other ∉ during) →
          ∃ list, ((scene.after (.seekAll name :: during)).step
            (.locateAll scene.begun answer)).outcome = .locations (normalize name) list ∧
              location ∈ list)

namespace Visible

variable {scene : Scene} {name : String} {location : Location}

theorem recallResource_ne (h : Visible name location scene) :
    scene.loader.recallResource name ≠ some none := by
  unfold Loader.recallResource
  split
  · exact h.unmissed
  · simp

theorem mem_of_recallList (h : Visible name location scene) {list : List Location}
    (hlist : scene.loader.recallList name = some list) : location ∈ list := by
  unfold Loader.recallList at hlist
  split at hlist
  · exact h.listed list hlist
  · cases hlist

/-- A lookup of the first location that begins now comes to one, be it from the memory, the sources
or the host. -/
theorem locates (h : Visible (normalize name) location scene)
    (hunrecalled : scene.loader.recallResource (normalize name) = none)
    {during : List Happening} (answer : Option Location)
    (hfiles : ∀ volume, .change volume ∉ during)
    (hopen : ∀ other, .locate scene.begun other ∉ during) :
    ∃ found, ((scene.after (.seek name :: during)).step (.locate scene.begun answer)).outcome =
      .location (normalize name) (some found) := by
  have hbegun : Visible (normalize name) location (scene.next (.seek name)) := h.next (by simp)
  have hlater : Visible (normalize name) location (scene.after (.seek name :: during)) :=
    hbegun.after hfiles
  have houtcome := locate_outcome hunrecalled answer hopen
  dsimp only at houtcome
  rw [houtcome]
  cases hrecall : (scene.after (.seek name :: during)).loader.recallResource (normalize name) with
  | some held =>
    -- A location that was remembered meanwhile is the outcome instead. No absence can have been.
    have hsome : held ≠ none := fun hnone => hlater.recallResource_ne (hnone ▸ hrecall)
    obtain ⟨found, rfl⟩ := Option.ne_none_iff_exists'.mp hsome
    exact ⟨found, rfl⟩
  | none =>
    obtain ⟨found, hfound⟩ := Option.isSome_iff_exists.mp
      (List.isSome_head?.mpr (List.ne_nil_of_mem h.here))
    rw [hfound]
    exact ⟨found, rfl⟩

/-- A lookup of all locations that begins now comes to a list with this one. -/
theorem lists (h : Visible (normalize name) location scene)
    (hunrecalled : scene.loader.recallList (normalize name) = none)
    {during : List Happening} (answer : List Location)
    (hfiles : ∀ volume, .change volume ∉ during)
    (hopen : ∀ other, .locateAll scene.begun other ∉ during) :
    ∃ list, ((scene.after (.seekAll name :: during)).step
      (.locateAll scene.begun answer)).outcome = .locations (normalize name) list ∧
        location ∈ list := by
  have hbegun : Visible (normalize name) location (scene.next (.seekAll name)) := h.next (by simp)
  have hlater : Visible (normalize name) location (scene.after (.seekAll name :: during)) :=
    hbegun.after hfiles
  refine ⟨_, locateAll_outcome hunrecalled answer hopen, ?_⟩
  cases hrecall : (scene.after (.seekAll name :: during)).loader.recallList (normalize name) with
  | some held => exact hlater.mem_of_recallList hrecall
  | none => exact List.mem_append_left answer h.here

theorem shows (h : Visible (normalize name) location scene) : Shows scene name location := by
  constructor
  · cases hrecall : scene.loader.recallResource (normalize name) with
    | some held =>
      have hsome : held ≠ none := fun hnone => h.recallResource_ne (hnone ▸ hrecall)
      obtain ⟨found, rfl⟩ := Option.ne_none_iff_exists'.mp hsome
      refine .inl ⟨found, ?_⟩
      simp only [step, seek, hrecall]
    | none =>
      exact .inr ⟨congrArg Step.outcome (seek_of_unrecalled hrecall),
        fun _ answer hfiles hopen => h.locates hrecall answer hfiles hopen⟩
  · cases hrecall : scene.loader.recallList (normalize name) with
    | some held =>
      refine .inl ⟨held, ?_, h.mem_of_recallList hrecall⟩
      simp only [step, seekAll, hrecall]
    | none =>
      exact .inr ⟨congrArg Step.outcome (seekAll_of_unrecalled hrecall),
        fun _ answer hfiles hopen => h.lists hrecall answer hfiles hopen⟩

end Visible

/-- Every miss and every list that is remembered was left by a lookup that ended after the last
clear, and if no clear has come while a lookup of a resource waited, it also began after that. A
location that a clear finds is shown by the next lookups, if no lookup that waits at the clear is
ignorant of it and the files have not changed since. -/
theorem memory_after_clear (start : Scene) (hatlas : start.loader.atlas = ⟨.empty, .empty⟩)
    (hwaiting : start.waiting = []) :
    (∀ history, Charted start history) ∧
    (∀ history errand ends before first during later,
      LeftBy start history errand ends before first during later → ClearsAtRest start history →
        (∀ ticket, errand ≠ .unit ticket) → .forgetMisses ∉ during ++ later) ∧
    (∀ before later name location,
      location ∈ (start.after before).loader.sources.locations (start.after before).volume
        (normalize name) →
      Informed (normalize name) location (start.after before) →
      (∀ volume, .change volume ∉ later) →
        Shows (start.after (before ++ .forgetMisses :: later)) name location) := by
  refine ⟨charted_after hatlas hwaiting, ?_, ?_⟩
  · intro history errand ends before first during later hleft hrest hresource hmem
    rcases List.mem_append.mp hmem with hmem | hmem
    · exact hleft.uncleared_during hrest hresource hmem
    · exact hleft.uncleared hmem
  · intro before later name location hhere hinformed hfiles
    rw [after_append, after_cons]
    exact ((visible_of_clear hhere hinformed).after hfiles).shows

/-- The lookup ends before the clear, so that its miss is taken out. -/
theorem memory_after_clear_in_time :
    Shows (desk.after ([.seek "t.txt", .registerDirectory "/lib", .locate 0 none] ++
      .forgetMisses :: [])) "t.txt" (.file "/lib/t.txt") ∧
    Left desk [.seek "t.txt", .locate 0 none] (.resource "t.txt" none) (.locate · none) := by
  obtain ⟨hcharted, -, hshows⟩ := memory_after_clear desk rfl rfl
  let before : List Happening := [.seek "t.txt", .registerDirectory "/lib", .locate 0 none]
  have hlocations : (desk.after before).loader.sources.locations (desk.after before).volume
      (normalize "t.txt") = [.file "/lib/t.txt"] := by cbv
  have hrest : (desk.after before).waiting = [] := by cbv
  refine ⟨hshows before [] "t.txt" (.file "/lib/t.txt") ?_ ⟨?_, ?_⟩ (by simp), ?_⟩
  · rw [hlocations]
    exact List.mem_singleton_self _
  · rw [hrest]
    exact fun _ _ hmem => absurd hmem List.not_mem_nil
  · rw [hrest]
    exact fun _ _ hmem => absurd hmem List.not_mem_nil
  · exact (hcharted [.seek "t.txt", .locate 0 none]).misses "t.txt" (by cbv)

/-- The directory is registered and the misses are cleared while the first lookup of its resource
waits. When the host has answered, nobody waits any more, but the resource is hidden. -/
theorem cleared_source_may_stay_hidden :
    ¬ ∀ (start : Scene) (before later : List Happening) (name : String) (location : Location),
      start.loader.atlas = ⟨.empty, .empty⟩ → start.waiting = [] →
      location ∈ (start.after before).loader.sources.locations (start.after before).volume name →
      (∀ volume, .change volume ∉ later) →
      (start.after (before ++ .forgetMisses :: later)).waiting = [] →
        ((start.after (before ++ .forgetMisses :: later)).step (.seek name)).outcome ≠
            .location name none ∧
          ((start.after (before ++ .forgetMisses :: later)).step (.seekAll name)).outcome ≠
            .locations name [] := by
  intro hevery
  let before : List Happening := [.seek "t.txt", .registerDirectory "/lib"]
  have hlocations : (desk.after before).loader.sources.locations (desk.after before).volume
      "t.txt" = [.file "/lib/t.txt"] := by cbv
  have hhidden : ((desk.after (before ++ .forgetMisses :: [.locate 0 none])).step
      (.seek "t.txt")).outcome = .location "t.txt" none := by cbv
  obtain ⟨hshown, -⟩ := hevery desk before [.locate 0 none] "t.txt" (.file "/lib/t.txt") rfl rfl
    (by rw [hlocations]; exact List.mem_singleton_self _) (by simp) (by cbv)
  exact hshown hhidden

end Scene

end LayeredUnits
