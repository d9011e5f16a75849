import Mathlib
import LayeredUnits.Proofs.Atlas
import LayeredUnits.Proofs.Locations

/-!
# Resources stay below the root

A directory answers for names that somebody else chose, and what it gives out is
the text of a path: its root and the name, put together. What decides whether it
does so is another thing, the components of the name, in which blank segments
are not to be seen and a slash in front is one of its own. Here both are the
same walk. Links are not looked at: what lies behind a link below the root may be
anywhere.

* `Path.lead_eq` — segments that never go up lead down the names among the
  components, and `Directory.staysBelow_iff` says that these are the names that
  pass the guard.
* `Path.pieces_join` — a joined path is walked like the root and then like the
  name.
* `Directory.liesBelow_resourcePath?` — so no step of the way to a resource is
  outside of the root.
* `Scene.Sourced` — what is remembered of resources, and what waits for the host,
  keeps where it came from. This is the invariant of a history.
* `resources_stay_below` — whatever is asked and whatever has happened, a file
  that the host has not given lies below the root of a registered directory.
-/

namespace LayeredUnits

/-- A separator starts a new piece, whatever is before it. So the pieces of a joined path are those
of both parts. -/
theorem Text.segments_append_cons (sep : Char) (text rest : List Char) :
    segments sep (text ++ sep :: rest) = segments sep text ++ segments sep rest := by
  induction text with
  | nil => simp [segments]
  | cons c more ih =>
    rw [List.cons_append, segments, segments, ih]
    by_cases hc : c = sep
    · rw [if_pos hc, if_pos hc, List.cons_append]
    · rw [if_neg hc, if_neg hc]
      cases hmore : segments sep more with
      | nil => exact absurd hmore (segments_ne_nil sep more)
      | cons first others => rfl

/-! ## Where a path leads as text -/

namespace Path

open Text (segments pieces)

/-- Where one segment leads: nowhere else, up, or down. Links are left out: this is about where a
path lies, and not about what is found there. -/
def along (here : List String) (segment : String) : List String :=
  if segment = "" ∨ segment = "." then here
  else if segment = ".." then here.dropLast
  else here ++ [segment]

/-- Where segments lead, one by one. -/
def lead (here segments : List String) : List String := segments.foldl along here

/-- A part of a path as a reader of paths takes it apart: the root, the place itself, the place
above, or a name. -/
inductive Component where
  /-- The slash that an absolute path starts with. -/
  | root
  /-- The dot that a relative path starts with. -/
  | current
  | parent
  | normal (name : String)
deriving DecidableEq

/-- The part that a segment is, if it is not blank. -/
def Component.ofSegment? (segment : String) : Option Component :=
  if segment = "" ∨ segment = "." then none
  else if segment = ".." then some .parent
  else some (.normal segment)

/-- The name that a part is. -/
def Component.name? : Component → Option String
  | .normal name => some name
  | _ => none

/-- The parts of a path. Blank segments are none of them, but for a slash or a dot in front. -/
def components (path : String) : List Component :=
  (if isAbsolute path then [.root]
    else if (pieces '/' path).head? = some "." then [.current] else []) ++
      (pieces '/' path).filterMap Component.ofSegment?

/-- The names among the parts of a path. If a path goes nowhere but down, these are its way. -/
def names (path : String) : List String := (components path).filterMap Component.name?

/-- A path lies below another as text: where it has come to the other one, no further step leads out
of that. -/
def LiesBelow (root path : String) : Prop :=
  ∃ front rest, pieces '/' path = front ++ rest ∧ ∀ start,
    lead start front = lead start (pieces '/' root) ∧
    ∀ walked, walked <+: rest → lead start (pieces '/' root) <+: lead start (front ++ walked)

/-- What goes up and down again to a neighbour does not lie below. -/
example : ¬ LiesBelow "/d" "/d/../e" := by
  rintro ⟨front, rest, hpieces, hlead⟩
  have hend := (hlead []).2 rest List.prefix_rfl
  rw [← hpieces] at hend
  exact absurd hend (by decide)

theorem lead_append (here first second : List String) :
    lead here (first ++ second) = lead (lead here first) second := List.foldl_append

/-- Segments that never go up lead down the names that they are. -/
theorem lead_eq {segments : List String} (h : ".." ∉ segments) (here : List String) :
    lead here segments =
      here ++ (segments.filterMap Component.ofSegment?).filterMap Component.name? := by
  unfold lead
  induction segments generalizing here with
  | nil => exact (List.append_nil here).symm
  | cons segment rest ih =>
    rw [List.mem_cons, not_or] at h
    rw [List.foldl_cons, ih h.2, along, List.filterMap_cons, Component.ofSegment?,
      if_neg (Ne.symm h.1), if_neg (Ne.symm h.1)]
    by_cases hblank : segment = "" ∨ segment = "."
    · rw [if_pos hblank, if_pos hblank]
    · rw [if_neg hblank, if_neg hblank, List.append_assoc]
      rfl

theorem names_eq (path : String) :
    names path =
      ((pieces '/' path).filterMap Component.ofSegment?).filterMap Component.name? := by
  unfold names components
  rw [List.filterMap_append]
  split
  · rfl
  · split <;> rfl

/-- A joined path is walked like its base, and then like the name. -/
theorem pieces_join {name : String} (h : isAbsolute name = false) (base : String) :
    ∃ front, pieces '/' (join base name) = front ++ pieces '/' name ∧
      ∀ start, lead start front = lead start (pieces '/' base) := by
  have hbetween (before : List Char) (path : String)
      (hpath : path.toList = before ++ '/' :: name.toList) :
      pieces '/' path = (segments '/' before).map String.ofList ++ pieces '/' name := by
    unfold pieces
    rw [hpath, Text.segments_append_cons, List.map_append]
  unfold join
  rw [h, Bool.false_or]
  by_cases hempty : base.isEmpty = true
  · rw [if_pos hempty, String.isEmpty_iff.mp hempty]
    exact ⟨[], rfl, fun start => rfl⟩
  · rw [if_neg hempty]
    by_cases hslash : Text.endsWith "/" base = true
    · -- The slash that the base ends with is one segment more, which is blank.
      rw [if_pos hslash]
      obtain ⟨before, hbefore⟩ := List.isSuffixOf_iff_suffix.mp hslash
      refine ⟨_, hbetween before _ ?_, fun start => ?_⟩
      · rw [String.toList_append, ← hbefore, List.append_assoc]
        rfl
      · have hbase : pieces '/' base = (segments '/' before).map String.ofList ++ [""] := by
          unfold pieces
          rw [← hbefore]
          exact (congrArg (List.map String.ofList) (Text.segments_append_cons '/' before [])).trans
            List.map_append
        rw [hbase, lead_append]
        rfl
    · rw [if_neg hslash]
      refine ⟨pieces '/' base, hbetween base.toList _ ?_, fun start => rfl⟩
      rw [String.toList_append, String.toList_append, List.append_assoc]
      rfl

end Path

namespace Directory

open LayeredUnits.Path (LiesBelow lead join)
open Text (pieces)

theorem staysBelow_iff {name : String} :
    staysBelow name = true ↔ Path.isAbsolute name = false ∧ ".." ∉ pieces '/' name := by
  unfold staysBelow
  rw [Bool.and_eq_true, Bool.not_eq_true', List.all_eq_true]
  refine and_congr_right fun _ => ⟨fun h hup => ?_, fun h segment hsegment => ?_⟩
  · exact absurd (h ".." hup) (by decide)
  · exact bne_iff_ne.mpr fun heq => h (heq ▸ hsegment)

/-- The names that a directory looks up are those whose parts are names, but for a dot in front. -/
theorem staysBelow_iff_components {name : String} : staysBelow name = true ↔
    ∀ component ∈ Path.components name,
      component = .current ∨ ∃ part, component = .normal part := by
  rw [staysBelow_iff]
  unfold Path.components
  constructor
  · rintro ⟨hrelative, hup⟩ component hmem
    rw [hrelative, if_neg Bool.false_ne_true, List.mem_append] at hmem
    rcases hmem with hfront | hsegment
    · -- A relative path has at most a dot in front.
      split at hfront
      · exact .inl (List.mem_singleton.mp hfront)
      · cases hfront
    · obtain ⟨segment, hsegment, hcomponent⟩ := List.mem_filterMap.mp hsegment
      have hne : segment ≠ ".." := fun heq => hup (heq ▸ hsegment)
      unfold Path.Component.ofSegment? at hcomponent
      rw [if_neg hne] at hcomponent
      split at hcomponent
      · cases hcomponent
      · exact .inr ⟨segment, (Option.some.inj hcomponent).symm⟩
  · intro h
    constructor
    · cases habsolute : Path.isAbsolute name with
      | false => rfl
      | true =>
        rw [habsolute, if_pos rfl] at h
        rcases h .root (by simp) with hroot | ⟨part, hroot⟩ <;> cases hroot
    · intro hup
      have hparent : Path.Component.parent ∈
          (pieces '/' name).filterMap Path.Component.ofSegment? :=
        List.mem_filterMap.mpr ⟨"..", hup, rfl⟩
      rcases h .parent (List.mem_append_right _ hparent) with hroot | ⟨part, hroot⟩ <;> cases hroot

/-- The walk along a joined path is that of the root, and then the names of the name. -/
theorem lead_join {name : String} (h : staysBelow name = true) (root : String)
    (start : List String) :
    lead start (pieces '/' (join root name)) = lead start (pieces '/' root) ++ Path.names name := by
  obtain ⟨hrelative, hup⟩ := staysBelow_iff.mp h
  obtain ⟨front, hpieces, hfront⟩ := Path.pieces_join hrelative root
  rw [hpieces, Path.lead_append, hfront, Path.lead_eq hup, Path.names_eq]

theorem liesBelow_join {name : String} (h : staysBelow name = true) (root : String) :
    LiesBelow root (join root name) := by
  obtain ⟨hrelative, hup⟩ := staysBelow_iff.mp h
  obtain ⟨front, hpieces, hfront⟩ := Path.pieces_join hrelative root
  refine ⟨front, pieces '/' name, hpieces, fun start => ⟨hfront start, fun walked hwalked => ?_⟩⟩
  -- A beginning of the name does not go up either, so it only adds names.
  rw [Path.lead_append, hfront, Path.lead_eq fun hmem => hup (hwalked.subset hmem)]
  exact List.prefix_append ..

theorem liesBelow_resourcePath? {directory : Directory} {volume : Volume} {name path : String}
    (h : directory.resourcePath? volume name = some path) : LiesBelow directory.root path := by
  obtain ⟨hstays, -, rfl⟩ := resourcePath?_eq_some_iff.mp h
  exact liesBelow_join hstays directory.root

end Directory

namespace Table

variable {α : Type} {table : Table α} {name : String} {value : α}

theorem mem_of_get? (h : table.get? name = some value) : (name, value) ∈ table.entries := by
  obtain ⟨before, behind, hentries, -⟩ := List.lookup_eq_some_iff.mp h
  rw [hentries]
  exact List.mem_append_right before List.mem_cons_self

theorem mem_of_mem_insertNew {entry : String × α}
    (h : entry ∈ (table.insertNew name value).entries) :
    entry ∈ table.entries ∨ entry = (name, value) := by
  unfold insertNew at h
  split at h
  · exact .inl h
  · exact (List.mem_cons.mp h).symm

end Table

/-! ## What a history keeps -/

/-- The path of a resource below the root of one of these sources. -/
def IsOwnFile (sources : List Source) (name path : String) : Prop :=
  ∃ directory, .directory directory ∈ sources ∧ Directory.staysBelow name = true ∧
    path = Path.join directory.root name ∧ Path.LiesBelow directory.root path

/-- The host has given the location when it was asked for a resource. -/
def IsGiven (history : List Happening) (location : Location) : Prop :=
  (∃ number, .locate number (some location) ∈ history) ∨
    ∃ number found, .locateAll number found ∈ history ∧ location ∈ found

/-- What the outcome of a lookup gives for the name of a resource: its first location, or one of its
locations. -/
inductive Outcome.Gives : Outcome → String → Location → Prop
  | first (name : String) (location : Location) : Gives (.location name (some location)) name location
  | listed {name : String} {found : List Location} {location : Location} (h : location ∈ found) :
      Gives (.locations name found) name location

namespace Scene

/-- A location is known: if it is a file, it lies below the root of a directory that the history has
registered, or the host has given it. -/
def Known (start : Scene) (history : List Happening) (name : String) (location : Location) : Prop :=
  ∀ path, location = .file path →
    IsOwnFile (start.registered history) name path ∨ IsGiven history location

/-- What is remembered of resources is known. This is the invariant: a memory holds nothing that no
lookup has found. -/
structure Sourced (start : Scene) (history : List Happening) : Prop where
  resources : ∀ name location,
    (name, some location) ∈ (start.after history).loader.atlas.resources.entries →
      start.Known history name location
  lists : ∀ name found, (name, found) ∈ (start.after history).loader.atlas.lists.entries →
    ∀ location ∈ found, start.Known history name location

variable {start : Scene} {history : List Happening} {name : String} {location : Location}

theorem registered_append (scene : Scene) (history more : List Happening) :
    scene.registered (history ++ more) =
      scene.registered history ++ (scene.after history).registered more := by
  induction history generalizing scene with
  | nil => rfl
  | cons one rest ih =>
    rw [List.cons_append, registered, registered, ih, List.append_assoc]
    rfl

/-- What is known stays known, because it is about what has happened and not about what there is. -/
theorem Known.append (h : start.Known history name location) (more : List Happening) :
    start.Known (history ++ more) name location := by
  intro path hpath
  rcases h path hpath with ⟨directory, hdirectory, hfile⟩ | hgiven
  · refine .inl ⟨directory, ?_, hfile⟩
    rw [registered_append]
    exact List.mem_append_left _ hdirectory
  · refine .inr ?_
    rcases hgiven with ⟨number, hmem⟩ | ⟨number, found, hmem, hlocation⟩
    · exact .inl ⟨number, List.mem_append_left more hmem⟩
    · exact .inr ⟨number, found, List.mem_append_left more hmem, hlocation⟩

/-- What the sources have is known, from the registration of the source on. -/
theorem known_of_locations (hsources : start.loader.sources = {})
    (h : location ∈ (start.after history).loader.sources.locations (start.after history).volume
      name) : start.Known history name location := by
  rintro path rfl
  obtain ⟨hdirectories, -⟩ := lists_after start history
  rw [hsources, List.nil_append] at hdirectories
  unfold Sources.locations at h
  rw [hdirectories] at h
  rcases List.mem_append.mp h with hfile | hentry
  · obtain ⟨directory, hmem, hfile⟩ := List.mem_filterMap.mp hfile
    obtain ⟨source, hsource, hdirectory⟩ := List.mem_filterMap.mp hmem
    obtain ⟨found, hfound, hpath⟩ := Option.map_eq_some_iff.mp hfile
    cases hpath
    cases source with
    | archive number archive => cases hdirectory
    | directory other =>
      cases hdirectory
      obtain ⟨hstays, -, hjoined⟩ := Directory.resourcePath?_eq_some_iff.mp hfound
      exact .inl ⟨directory, hsource, hstays, hjoined, Directory.liesBelow_resourcePath? hfound⟩
  · -- The entries of archives are no files.
    obtain ⟨archive, -, hentry⟩ := List.mem_filterMap.mp hentry
    unfold Sources.inArchive? at hentry
    split at hentry <;> cases hentry

/-- What a lookup that waits has found in the sources is known, although it has replied to nobody
yet. -/
theorem known_of_waiting (hsources : start.loader.sources = {}) (hwaiting : start.waiting = [])
    {number : Nat} {own : Option Location}
    (h : (start.after history).waiting.lookup number = some (.resource name own))
    (hown : own = some location) : start.Known history name location := by
  rcases waiting_origin (mem_of_lookup h) with hwaited | ⟨before, one, during, rfl, hbegan⟩
  · rw [hwaiting] at hwaited
    cases hwaited
  · have hbegins := hbegan.begins
    cases one with
    | seek sought =>
      cases hbegins
      rw [locate?_eq_head?] at hown
      exact (known_of_locations hsources (List.mem_of_mem_head? hown)).append _
    | _ => cases hbegins

theorem known_of_waitingAll (hsources : start.loader.sources = {}) (hwaiting : start.waiting = [])
    {number : Nat} {own : List Location}
    (h : (start.after history).waiting.lookup number = some (.resources name own))
    (hown : location ∈ own) : start.Known history name location := by
  rcases waiting_origin (mem_of_lookup h) with hwaited | ⟨before, one, during, rfl, hbegan⟩
  · rw [hwaiting] at hwaited
    cases hwaited
  · have hbegins := hbegan.begins
    cases one with
    | seekAll sought =>
      cases hbegins
      exact (known_of_locations hsources hown).append _
    | _ => cases hbegins

/-- The outcome of a lookup that ends now is known: it is what the sources had or what the host
gives. -/
theorem known_of_or (hsources : start.loader.sources = {}) (hwaiting : start.waiting = [])
    {number : Nat} {own found : Option Location}
    (h : (start.after history).waiting.lookup number = some (.resource name own))
    (hlocation : own.or found = some location) :
    start.Known (history ++ [.locate number found]) name location := by
  rcases Option.or_eq_some_iff.mp hlocation with hown | ⟨-, hfound⟩
  · exact (known_of_waiting hsources hwaiting h hown).append _
  · subst hfound
    exact fun path hpath => .inr (.inl ⟨number, List.mem_concat_self⟩)

theorem known_of_append (hsources : start.loader.sources = {}) (hwaiting : start.waiting = [])
    {number : Nat} {own found : List Location}
    (h : (start.after history).waiting.lookup number = some (.resources name own))
    (hlocation : location ∈ own ++ found) :
    start.Known (history ++ [.locateAll number found]) name location := by
  rcases List.mem_append.mp hlocation with hown | hfound
  · exact (known_of_waitingAll hsources hwaiting h hown).append _
  · exact fun path hpath => .inr (.inr ⟨number, found, List.mem_concat_self, hfound⟩)

/-- One happening more: what it adds to the memory is the outcome of a lookup. -/
theorem Sourced.concat (hsources : start.loader.sources = {}) (hwaiting : start.waiting = [])
    (h : Sourced start history) (one : Happening) : Sourced start (history ++ [one]) := by
  have hmarks := step_marks (start.after history) one
  constructor <;> rw [after_concat]
  all_goals generalize ((start.after history).next one).loader.atlas = atlas at hmarks ⊢
  · intro name location hmem
    cases hmarks with
    | nothing => exact (h.resources name location hmem).append _
    | cleared => exact (h.resources name location (List.mem_of_mem_filter hmem)).append _
    | listed => exact (h.resources name location hmem).append _
    | located found hwaits =>
      rcases Table.mem_of_mem_insertNew hmem with hmem | heq
      · exact (h.resources name location hmem).append _
      · obtain ⟨rfl, hlocation⟩ := Prod.mk.inj heq
        exact known_of_or hsources hwaiting hwaits hlocation.symm
  · intro name list hmem location hlocation
    cases hmarks with
    | nothing => exact (h.lists name list hmem location hlocation).append _
    | cleared => cases hmem
    | located => exact (h.lists name list hmem location hlocation).append _
    | listed found hwaits =>
      rcases Table.mem_of_mem_insertNew hmem with hmem | heq
      · exact (h.lists name list hmem location hlocation).append _
      · cases heq
        exact known_of_append hsources hwaiting hwaits hlocation

/-- What is remembered of resources is known, whatever has happened. -/
theorem sourced_after (hsources : start.loader.sources = {}) (hwaiting : start.waiting = [])
    (hatlas : start.loader.atlas = ⟨.empty, .empty⟩) (history : List Happening) :
    Sourced start history := by
  induction history using List.reverseRecOn with
  | nil =>
    rw [← after_nil start] at hatlas
    constructor <;> rw [hatlas]
    · exact fun name location hmem => nomatch hmem
    · exact fun name found hmem => nomatch hmem
  | append_singleton history one ih => exact ih.concat hsources hwaiting one

theorem known_of_recall (h : Sourced start history)
    (hrecall : (start.after history).loader.recallResource name = some (some location)) :
    start.Known history name location := by
  unfold Loader.recallResource at hrecall
  split at hrecall
  · exact h.resources name location (Table.mem_of_get? hrecall)
  · cases hrecall

theorem known_of_recallList {found : List Location} (h : Sourced start history)
    (hrecall : (start.after history).loader.recallList name = some found)
    (hlocation : location ∈ found) : start.Known history name location := by
  unfold Loader.recallList at hrecall
  split at hrecall
  · exact h.lists name found (Table.mem_of_get? hrecall) location hlocation
  · cases hrecall

/-- Where a lookup of the first location ends: its outcome may have been remembered meanwhile. -/
theorem known_of_located (hsources : start.loader.sources = {}) (hwaiting : start.waiting = [])
    (h : Sourced start history) {number : Nat} {found : Option Location}
    (hgives : ((start.after history).step (.locate number found)).outcome.Gives name location) :
    start.Known (history ++ [.locate number found]) name location := by
  cases hwaits : (start.after history).waiting.lookup number with
  | none =>
    simp only [step, locate, hwaits] at hgives
    cases hgives
  | some errand =>
    cases errand with
    | resource sought own =>
      rw [locate_of_waiting found hwaits] at hgives
      change (Outcome.location sought _).Gives _ _ at hgives
      rw [Loader.reply_rememberResource] at hgives
      generalize hreply : Option.getD _ _ = reply at hgives
      cases hgives
      -- What has been remembered while the lookup waited is the reply instead, and that was known.
      cases hrecall : (start.after history).loader.recallResource name with
      | some held =>
        rw [hrecall] at hreply
        exact (known_of_recall h (hrecall.trans (congrArg some hreply))).append _
      | none =>
        rw [hrecall] at hreply
        exact known_of_or hsources hwaiting hwaits hreply
    | _ =>
      simp only [step, locate, hwaits] at hgives
      cases hgives

theorem known_of_locatedAll (hsources : start.loader.sources = {}) (hwaiting : start.waiting = [])
    (h : Sourced start history) {number : Nat} {found : List Location}
    (hgives : ((start.after history).step (.locateAll number found)).outcome.Gives name location) :
    start.Known (history ++ [.locateAll number found]) name location := by
  cases hwaits : (start.after history).waiting.lookup number with
  | none =>
    simp only [step, locateAll, hwaits] at hgives
    cases hgives
  | some errand =>
    cases errand with
    | resources sought own =>
      rw [locateAll_of_waiting found hwaits] at hgives
      change (Outcome.locations sought _).Gives _ _ at hgives
      rw [Loader.reply_rememberList] at hgives
      obtain _ | hlocation := hgives
      cases hrecall : (start.after history).loader.recallList name with
      | some held =>
        rw [hrecall] at hlocation
        exact (known_of_recallList h hrecall hlocation).append _
      | none =>
        rw [hrecall] at hlocation
        exact known_of_append hsources hwaiting hwaits hlocation
    | _ =>
      simp only [step, locateAll, hwaits] at hgives
      cases hgives

/-- Whatever a lookup replies is known, be it when it begins or when it ends. -/
theorem known_of_gives (hsources : start.loader.sources = {}) (hwaiting : start.waiting = [])
    (h : Sourced start history) {one : Happening}
    (hgives : ((start.after history).step one).outcome.Gives name location) :
    start.Known (history ++ [one]) name location := by
  cases one with
  | seek sought =>
    -- A lookup that ends at once is answered from the memory.
    change ((start.after history).seek _).outcome.Gives _ _ at hgives
    unfold seek at hgives
    split at hgives
    · next hrecall =>
      cases hgives
      exact (known_of_recall h hrecall).append _
    · cases hgives
  | seekAll sought =>
    change ((start.after history).seekAll _).outcome.Gives _ _ at hgives
    unfold seekAll at hgives
    split at hgives
    · next hrecall =>
      obtain _ | hlocation := hgives
      exact (known_of_recallList h hrecall hlocation).append _
    · cases hgives
  | locate number found => exact known_of_located hsources hwaiting h hgives
  | locateAll number found => exact known_of_locatedAll hsources hwaiting h hgives
  | ask asked =>
    -- Lookups of units give no locations.
    change ((start.after history).ask asked).outcome.Gives _ _ at hgives
    unfold ask at hgives
    split at hgives <;> cases hgives
  | answer number found =>
    change ((start.after history).answer number found).outcome.Gives _ _ at hgives
    unfold answer at hgives
    split at hgives <;> cases hgives
  | _ => cases hgives

end Scene

/-- A directory has a resource exactly if the name does not start with a slash, does not go up, and
there is a file at the root and the name put together. The parts of such a name are names, but for a
dot in front, and the walk along the path is that of the root and then down these names, so that no
step of it is outside of the root. Whatever is asked and whatever has happened, a file that a lookup
replies lies in this way below the root of a directory that has been registered, unless it is the
host that has given it. -/
theorem resources_stay_below :
    (∀ (directory : Directory) (volume : Volume) (name path : String),
      directory.resourcePath? volume name = some path ↔
        Path.isAbsolute name = false ∧ ".." ∉ Text.pieces '/' name ∧
          volume.isFile (Path.join directory.root name) = true ∧
          path = Path.join directory.root name) ∧
    (∀ name, Path.isAbsolute name = false ∧ ".." ∉ Text.pieces '/' name ↔
      ∀ component ∈ Path.components name,
        component = .current ∨ ∃ part, component = .normal part) ∧
    (∀ (directory : Directory) (volume : Volume) (name path : String),
      directory.resourcePath? volume name = some path →
        Path.LiesBelow directory.root path ∧
        ∀ start, Path.lead start (Text.pieces '/' path) =
          Path.lead start (Text.pieces '/' directory.root) ++ Path.names name) ∧
    ∀ start : Scene, start.loader.sources = {} → start.waiting = [] →
      start.loader.atlas = ⟨.empty, .empty⟩ →
      ∀ (history : List Happening) (one : Happening) (name path : String),
        ((start.after history).step one).outcome.Gives name (.file path) →
          IsOwnFile (start.registered (history ++ [one])) name path ∨
            IsGiven (history ++ [one]) (.file path) := by
  refine ⟨?_, ?_, ?_, ?_⟩
  · intro directory volume name path
    rw [Directory.resourcePath?_eq_some_iff, Directory.staysBelow_iff, and_assoc]
    refine and_congr_right fun _ => and_congr_right fun _ => ?_
    constructor
    · rintro ⟨hfile, rfl⟩
      exact ⟨hfile, rfl⟩
    · rintro ⟨hfile, rfl⟩
      exact ⟨hfile, rfl⟩
  · intro name
    rw [← Directory.staysBelow_iff]
    exact Directory.staysBelow_iff_components
  · intro directory volume name path hpath
    refine ⟨Directory.liesBelow_resourcePath? hpath, fun start => ?_⟩
    obtain ⟨hstays, -, rfl⟩ := Directory.resourcePath?_eq_some_iff.mp hpath
    exact Directory.lead_join hstays directory.root start
  · -- A reply is known: it is a file of a directory that was registered, or the host has given it.
    intro start hsources hwaiting hatlas history one name path hgives
    have hsourced := Scene.sourced_after hsources hwaiting hatlas history
    exact Scene.known_of_gives hsources hwaiting hsourced hgives path rfl

/-- A directory is registered, and a name with slashes and a dot in front is looked up. -/
def dotted : List Happening := [.registerDirectory "/lib", .seek "//./t.txt"]

private theorem outcome_dotted : ((Scene.desk.after dotted).step (.locate 0 none)).outcome =
    .location "./t.txt" (some (.file "/lib/./t.txt")) := by cbv

/-- It is looked up below the root, dots and slashes and all, and the address that is told is the
one that was put together. -/
theorem resources_stay_below_dotted :
    IsOwnFile (Scene.desk.registered (dotted ++ [.locate 0 none])) "./t.txt" "/lib/./t.txt" := by
  obtain ⟨-, -, -, hreplies⟩ := resources_stay_below
  have hgives := hreplies Scene.desk rfl rfl rfl dotted (.locate 0 none) "./t.txt" "/lib/./t.txt"
    (outcome_dotted ▸ .first _ _)
  rcases hgives with hown | ⟨number, hmem⟩ | ⟨number, found, hmem, -⟩
  · exact hown
  · simp [dotted] at hmem
  · simp [dotted] at hmem

end LayeredUnits
