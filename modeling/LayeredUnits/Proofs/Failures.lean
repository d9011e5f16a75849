import Mathlib
import LayeredUnits.Proofs.Below
import LayeredUnits.Proofs.Events
import LayeredUnits.Proofs.StaleMiss
import LayeredUnits.Proofs.Tolerance

/-!
# How a lookup of a unit can fail

Much can go wrong while a unit is looked up: files that are gone or too large,
entries that contradict themselves, manifests that are none. All of that is
passed over, and what is left when nobody has the unit is the record of a failed
lookup. The record names the unit. It counts the sources that the lookup knew
which made it, and that may have been another lookup, long ago.

* `Loader.finishLookup_finish` — how the end of a lookup replies, and what the
  misses are then.
* `Scene.MadeSinceClear.built` — a record that is remembered was built by a lookup
  which has ended with it.
* `Scene.step_ends` — so a lookup ends with a unit or with such a record, in every
  history.
* `Layers.load_ends`, `Layers.find_succeeds` — the same for calls, nested in any
  way.
* `Layers.callWithin_unfailing` — so no loader ever tells that its host has
  failed. The induction is on how deep calls nest.
* `Layers.lookup_fails_with_record` — all of this together.
-/

namespace LayeredUnits

open ResourceName (normalize)

/-! ## The end of a lookup -/

namespace Loader

/-- How the end of a lookup replies to an answer of the host, and what the misses are then. -/
inductive Finish (loader : Loader) (ticket : Ticket) : Option (Shared CodeUnit) →
    Except Fault (Shared CodeUnit) → Table (Shared Miss) → Prop
  | loaded (found : Option (Shared CodeUnit)) (unit : Shared CodeUnit) :
      Finish loader ticket found (.ok unit) loader.memo.misses
  /-- A record that is remembered already is the reply. -/
  | recalled {held : Shared Miss} (hheld : loader.memo.misses.get? ticket.name = some held) :
      Finish loader ticket none (.error (.unitNotFound held)) loader.memo.misses
  | dropped :
      Finish loader ticket none (.error (.unitNotFound (loader.freshMiss ticket)))
        loader.memo.misses
  | kept (hnone : loader.memo.misses.get? ticket.name = none) :
      Finish loader ticket none (.error (.unitNotFound (loader.freshMiss ticket)))
        (loader.memo.misses.insertNew ticket.name (loader.freshMiss ticket))

theorem finishLookup_finish (loader : Loader) (volume : Volume) (ticket : Ticket)
    (found : Option (Shared CodeUnit)) :
    loader.Finish ticket found (loader.finishLookup volume ticket found).reply
      (loader.finishLookup volume ticket found).loader.memo.misses := by
  rcases finishLookup_cases loader volume ticket found with
    ⟨unit, -, hreply, hloader⟩ |
    ⟨-, failed, place, rest, bytes, unit, domains, packages, issued, -, -, -, -, -, -, hreply,
      hloader⟩ |
    ⟨rfl, -, searched, hsearched, hreply, hloader⟩
  · rw [hreply, hloader]
    exact .loaded found _
  · rw [hreply, hloader]
    exact .loaded found _
  · -- Nothing was found. Whether the record is kept, dropped or overtaken by a stored one is a
    -- matter of what the memory has, and the search has not touched that.
    have hmemo : searched.memo = loader.memo := by
      rw [hsearched]
      rfl
    have hfresh : searched.freshMiss ticket = loader.freshMiss ticket := by
      rw [hsearched]
      rfl
    rw [hreply, hloader]
    rcases recordMiss_cases searched ticket with ⟨-, hrecord, hkept⟩ | ⟨-, hrecord, hkept⟩
    · rw [hrecord, hkept, hmemo, hfresh]
      show loader.Finish ticket none
        (.error (.unitNotFound (loader.memo.misses.kept ticket.name (loader.freshMiss ticket))))
        (loader.memo.misses.insertNew ticket.name (loader.freshMiss ticket))
      cases hheld : loader.memo.misses.get? ticket.name with
      | some held =>
        rw [Table.kept_of_some _ hheld, Table.insertNew_of_some _ hheld]
        exact .recalled hheld
      | none =>
        rw [Table.kept_of_none _ hheld]
        exact .kept hheld
    · rw [hrecord, hkept, hfresh]
      show loader.Finish ticket none _ searched.memo.misses
      rw [hmemo]
      exact .dropped

theorem Finish.reply {loader : Loader} {ticket : Ticket} {found : Option (Shared CodeUnit)}
    {result : Except Fault (Shared CodeUnit)} {misses : Table (Shared Miss)}
    (h : loader.Finish ticket found result misses) :
    (∃ unit, result = .ok unit) ∨ ∃ miss, result = .error (.unitNotFound miss) := by
  cases h with
  | loaded _ unit => exact .inl ⟨unit, rfl⟩
  | _ => exact .inr ⟨_, rfl⟩

end Loader

namespace Scene

/-! ## Where a record comes from -/

/-- The lookup that built a record: it began after `before`, and after `during` it ended with this
record, which it had just made. -/
structure BuiltBy (start : Scene) (history : List Happening) (name : String) (miss : Shared Miss)
    (before during later : List Happening) : Prop where
  parts : history =
    before ++ .ask name :: during ++ .answer (start.after before).begun none :: later
  ended : ((start.after (before ++ .ask name :: during)).step
    (.answer (start.after before).begun none)).outcome = .unit name (.error (.unitNotFound miss))
  fresh : miss.token = (start.after (before ++ .ask name :: during)).loader.nextToken
  named : miss.value.name = name
  /-- What it has searched is what had been registered when it began. -/
  searched : miss.value.searched =
    .sources ((start.registered before).filterMap Source.directory?).length
      ((start.registered before).filterMap Source.archive?).length

/-- A lookup of the history has built the record: it ended without a unit, and the record counts the
sources that had been registered when it began. -/
def Built (start : Scene) (history : List Happening) (name : String) (miss : Shared Miss) : Prop :=
  ∃ before during later, BuiltBy start history name miss before during later

/-- How a lookup can end. A host that fails is not among it, because a failure of the host counts as
its having nothing. -/
inductive Ends (start : Scene) (history : List Happening) (name : String) :
    Except Fault (Shared CodeUnit) → Prop
  | loaded (unit : Shared CodeUnit) : Ends start history name (.ok unit)
  | failed {miss : Shared Miss} (hbuilt : Built start history name miss) :
      Ends start history name (.error (.unitNotFound miss))

variable {start scene : Scene} {history before during later : List Happening} {name : String}
  {miss : Shared Miss}

theorem Built.append (h : Built start history name miss) (more : List Happening) :
    Built start (history ++ more) name miss := by
  obtain ⟨before, during, later, hbuilt⟩ := h
  refine ⟨before, during, later ++ more, { hbuilt with parts := ?_ }⟩
  rw [hbuilt.parts]
  simp

/-- The record of a lookup counts what had been registered when it began. -/
theorem missOf_after (hsources : start.loader.sources = {}) (before : List Happening)
    (name : String) :
    Loader.missOf name (start.after before).loader.sources =
      ⟨name, .sources ((start.registered before).filterMap Source.directory?).length
        ((start.registered before).filterMap Source.archive?).length⟩ := by
  obtain ⟨hdirectories, harchives⟩ := lists_after start before
  unfold Loader.missOf
  rw [hdirectories, harchives, hsources]
  rfl

/-- An answer that stores a miss where none was ends a lookup with this miss. -/
theorem ended_of_stored {number : Nat} (hnone : scene.loader.memo.misses.get? name = none)
    (hstored : (scene.next (.answer number none)).loader.memo.misses.get? name = some miss) :
    (scene.step (.answer number none)).outcome = .unit name (.error (.unitNotFound miss)) := by
  unfold next at hstored
  cases hwaiting : scene.waiting.lookup number with
  | none =>
    simp only [step, answer, hwaiting] at hstored
    cases hnone.symm.trans hstored
  | some errand =>
    cases errand with
    | unit ticket =>
      rw [answer_of_waiting none hwaiting] at hstored ⊢
      have hfinish := scene.loader.finishLookup_finish scene.volume ticket none
      change (scene.loader.finishLookup scene.volume ticket none).loader.memo.misses.get? name =
        some miss at hstored
      show Outcome.unit ticket.name (scene.loader.finishLookup scene.volume ticket none).reply = _
      generalize (scene.loader.finishLookup scene.volume ticket none).loader.memo.misses = misses,
        (scene.loader.finishLookup scene.volume ticket none).reply = reply at hfinish hstored ⊢
      cases hfinish with
      | kept hfree =>
        -- The only end of a lookup that stores anything. The others leave the table,
        -- in which there was nothing.
        rw [Table.get?_insertNew, Table.kept_of_none _ hfree] at hstored
        split at hstored
        · next hname => rw [hname, Option.some.inj hstored]
        · cases hnone.symm.trans hstored
      | _ => cases hnone.symm.trans hstored
    | _ =>
      simp only [step, answer, hwaiting] at hstored
      cases hnone.symm.trans hstored

/-- A lookup that ends with a new record has built it. One that ends with an old record has been
given it by the memory. -/
theorem builtBy_of_ended (hsources : start.loader.sources = {})
    (hparts : history =
      before ++ .ask name :: during ++ .answer (start.after before).begun none :: later)
    (hended : ((start.after (before ++ .ask name :: during)).step
      (.answer (start.after before).begun none)).outcome = .unit name (.error (.unitNotFound miss)))
    (hmade : miss = (start.after (before ++ .ask name :: during)).loader.freshMiss
      ((start.after before).ticket name)) :
    BuiltBy start history name miss before during later := by
  have hvalue : miss.value = _ :=
    (congrArg Shared.value hmade).trans (missOf_after hsources before name)
  exact ⟨hparts, hended, congrArg Shared.token hmade, congrArg Miss.name hvalue,
    congrArg Miss.searched hvalue⟩

/-- What is remembered was built by a lookup of the history, which has ended with it. -/
theorem MadeSinceClear.built (h : MadeSinceClear start history name miss)
    (hsources : start.loader.sources = {}) : Built start history name miss := by
  obtain ⟨before, during, later, hmade⟩ := h
  exact ⟨before, during, later, builtBy_of_ended hsources hmade.parts
    (ended_of_stored hmade.unknown hmade.remembered) hmade.made⟩

/-- Every lookup of a history ends with a unit or with a record that was built in it. -/
theorem step_ends (hmisses : start.loader.memo.misses = .empty) (hwaiting : start.waiting = [])
    (hsources : start.loader.sources = {}) (history : List Happening) {one : Happening}
    {result : Except Fault (Shared CodeUnit)}
    (h : ((start.after history).step one).outcome = .unit name result) :
    Ends start (history ++ [one]) name result := by
  have htraced := (traced_nil hmisses hwaiting).append history
  rw [List.nil_append] at htraced
  have hremembered {held : Shared Miss}
      (hheld : (start.after history).loader.memo.misses.get? name = some held) :
      Ends start (history ++ [one]) name (.error (.unitNotFound held)) :=
    .failed (((htraced.misses name held hheld).built hsources).append [one])
  rcases unit_outcome h with rfl | ⟨number, ticket, found, rfl, hlookup, rfl⟩
  · -- A lookup that ends when it begins has a unit or a record that is remembered.
    cases hunit : (start.after history).loader.memo.units.get? name with
    | some unit =>
      rw [ask_of_bound hunit] at h
      cases h
      exact .loaded unit
    | none =>
      cases hmiss : (start.after history).recalledMiss name with
      | none =>
        rw [ask_of_unknown hunit hmiss] at h
        cases h
      | some miss =>
        rw [ask_of_missed hunit hmiss] at h
        cases h
        unfold recalledMiss at hmiss
        split at hmiss
        · exact hremembered hmiss
        · cases hmiss
  · -- A lookup that has waited. If it ends with a record of its own, this end is what built it, and
    -- the history is cut where the lookup began.
    obtain ⟨before, during, hparts, hnumber, hticket⟩ :=
      htraced.tickets number ticket (mem_of_lookup hlookup)
    have hbuilt (hended : ((start.after history).step (.answer number none)).outcome =
        .unit ticket.name (.error (.unitNotFound ((start.after history).loader.freshMiss ticket)))) :
        Built start (history ++ [.answer number none]) ticket.name
          ((start.after history).loader.freshMiss ticket) := by
      refine ⟨before, during, [], builtBy_of_ended hsources ?_ ?_ ?_⟩
      · rw [hparts, hnumber]
      · rwa [← hparts, ← hnumber]
      · rw [← hparts, ← hticket]
    have hanswer := answer_of_waiting found hlookup
    have hfinish := (start.after history).loader.finishLookup_finish (start.after history).volume
      ticket found
    have hresult : result = _ := (Outcome.unit.inj (h.symm.trans (congrArg Step.outcome hanswer))).2
    rw [← hresult] at hfinish
    generalize ((start.after history).loader.finishLookup _ ticket found).loader.memo.misses =
      misses at hfinish
    cases hfinish with
    | loaded found unit => exact .loaded unit
    | recalled hheld => exact hremembered hheld
    | dropped => exact .failed (hbuilt h)
    | kept => exact .failed (hbuilt h)

end Scene

/-! ## Calls -/

namespace Layers

variable {layers : Layers} {index : Nat}

/-- Whatever goes wrong, a lookup of a unit ends with a unit or with a record. -/
theorem lookUp_reply {layer : Layer} (depth : Nat) (name : String)
    (hlayer : layers.layers[index]? = some layer) :
    (∃ unit, (lookUp (callWithin depth) layers index name).reply = .ok unit) ∨
      ∃ miss, (lookUp (callWithin depth) layers index name).reply = .error (.unitNotFound miss) := by
  rcases lookUp_cases (callWithin_leads depth) name hlayer with
    ⟨result, loader, events, hbegin, hlooked⟩ |
    ⟨ticket, loader, events, answered, layer', -, -, -, hreply, -⟩
  · rw [hlooked]
    unfold Loader.beginLookup at hbegin
    split at hbegin
    · next unit _ =>
      cases hbegin
      exact .inl ⟨unit, rfl⟩
    · split at hbegin
      · next miss _ =>
        cases hbegin
        exact .inr ⟨miss, rfl⟩
      · cases hbegin
  · rw [hreply]
    exact (layer'.loader.finishLookup_finish ..).reply

/-- A lookup that may come to nothing never fails, because the only way in which a lookup fails is
that there is no unit. -/
theorem find_succeeds {layer : Layer} (depth : Nat) (name : String)
    (hlayer : layers.layers[index]? = some layer) :
    ∃ found, (callWithin (depth + 1) layers index (.find name)).reply = .found (.ok found) := by
  unfold callWithin
  rw [find_eq]
  rcases lookUp_reply depth name hlayer with ⟨unit, hreply⟩ | ⟨miss, hreply⟩
  · exact ⟨some unit, congrArg foundReply hreply⟩
  · exact ⟨none, congrArg foundReply hreply⟩

/-- A load ends with a unit, or with a record that was built in the history of the loader. -/
theorem load_ends {start : Scene} (hmisses : start.loader.memo.misses = .empty)
    (hwaiting : start.waiting = []) (hsources : start.loader.sources = {})
    (history : List Happening) (depth : Nat) (name : String) (wantsLink : Bool)
    (hloader : layers.loaderAt? index = some (start.after history).loader)
    (hvolume : layers.volume = (start.after history).volume) :
    let loaded := callWithin (depth + 1) layers index (.load name wantsLink)
    ∃ result more, loaded.reply = .unit result ∧ Scene.Ends start (history ++ more) name result ∧
      loaded.layers.loaderAt? index = some (start.after (history ++ more)).loader := by
  intro loaded
  obtain ⟨layer, hlayer, hsame⟩ := Option.map_eq_some_iff.mp hloader
  obtain ⟨later, begun, during, last, hlater, -, -, houtcome, hscene⟩ :=
    lookUp_replies (callWithin_leads depth) name hlayer (start.after history).waiting
      (start.after history).begun
  -- The lookup goes on where the history has come to, with the same lookups waiting around it.
  have hstart : (⟨layer.loader, layers.volume, (start.after history).waiting,
      (start.after history).begun⟩ : Scene) = start.after history := by
    rw [hsame, hvolume]
  rw [hstart, ← Scene.after_append] at houtcome hscene
  have hends := Scene.step_ends hmisses hwaiting hsources (history ++ during) houtcome
  rw [List.append_assoc] at hends
  have hreached : (start.after (history ++ (during ++ [last]))).loader = later := by
    rw [← List.append_assoc, Scene.after_concat]
    exact congrArg Scene.loader hscene
  have hwanted : wanted? (.load name wantsLink) = some name := rfl
  obtain ⟨-, hloaded, -⟩ := perform_of_wanted (callWithin depth) layers index index hwanted
  refine ⟨_, during ++ [last], load_reply .., hends, ?_⟩
  rw [hreached]
  exact hloaded.trans hlater

end Layers

/-! ## What is told on the way -/

/-- Nothing in the list tells that a host has failed. A chain of loaders never comes to such a
warning. -/
def Unfailing (events : List Event) : Prop := ∀ name fault, .hostFailed name fault ∉ events

namespace Unfailing

variable {events more : List Event}

theorem nil : Unfailing [] := fun _ _ => List.not_mem_nil

theorem append (h : Unfailing events) (hmore : Unfailing more) : Unfailing (events ++ more) := by
  intro name fault hmem
  rcases List.mem_append.mp hmem with hmem | hmem
  · exact h name fault hmem
  · exact hmore name fault hmem

theorem cons {event : Event} (hevent : ∀ name fault, .hostFailed name fault ≠ event)
    (h : Unfailing events) : Unfailing (event :: events) := by
  intro name fault hmem
  rcases List.mem_cons.mp hmem with heq | hmem
  · exact hevent name fault heq
  · exact h name fault hmem

end Unfailing

theorem Plain.unfailing {events : List Event} (h : Plain events) : Unfailing events :=
  fun _ _ hmem => absurd (h _ hmem) Bool.false_ne_true

namespace Loader

theorem tryPlaces_unfailing (volume : Volume) (name : String) (places : List Place) :
    ∀ loader : Loader, Unfailing (loader.tryPlaces volume name places).events := by
  induction places with
  | nil => exact fun _ => .nil
  | cons place rest ih =>
    intro loader
    unfold tryPlaces
    dsimp only
    split
    · exact (define_plain _ volume name _ place).unfailing
    · exact .cons nofun (ih _)

theorem finishLookup_unfailing (loader : Loader) (volume : Volume) (ticket : Ticket)
    (found : Option (Shared CodeUnit)) :
    Unfailing (loader.finishLookup volume ticket found).events := by
  cases found with
  | some unit => exact .nil
  | none =>
    have htried := tryPlaces_unfailing volume ticket.name (ticket.sources.places ticket.name)
      loader.searching
    unfold searching at htried
    dsimp only [finishLookup]
    generalize (count _ _).tryPlaces volume ticket.name _ = turn at htried ⊢
    obtain ⟨reply, searched, events⟩ := turn
    cases reply with
    | some unit => exact htried
    | none => exact htried.append (recordMiss_plain searched ticket).unfailing

end Loader

namespace Layers

/-- The host of a loader is another loader of the stack. -/
theorem Stacked.parent {layers : Layers} (h : layers.Stacked) {index parent : Nat}
    (hhost : layers.hostAt index = .loader parent) :
    ∃ layer, layers.layers[parent]? = some layer := by
  have hlt := h index parent hhost
  cases hlayer : layers.layers[index]? with
  | none =>
    unfold hostAt at hhost
    rw [hlayer] at hhost
    cases hhost
  | some layer =>
    obtain ⟨hindex, -⟩ := List.getElem?_eq_some_iff.mp hlayer
    exact ⟨_, List.getElem?_eq_getElem (Nat.lt_trans hlt hindex)⟩

theorem openLocation_events (location : Location) (fuel : Nat) (layers : Layers) :
    ∀ index, (layers.openLocation location fuel index).events = [] := by
  induction fuel with
  | zero => exact fun _ => rfl
  | succ fuel ih =>
    intro index
    unfold openLocation
    split
    · rfl
    · split
      · rfl
      · split
        · rfl
        · exact ih _
        · rfl

section

variable {depth : Nat} {layers : Layers} (hcall : ∀ layers index one, layers.Stacked →
  Unfailing (callWithin depth layers index one).events)

include hcall

theorem callAll_unfailing (index : Nat) (calls : List Call) :
    ∀ layers : Layers, layers.Stacked →
      Unfailing (callAll (callWithin depth) index calls layers).2 := by
  induction calls with
  | nil => exact fun _ _ => .nil
  | cons one rest ih =>
    intro layers h
    have hfirst := callWithin_below depth layers index one h
    exact (hcall layers index one h).append (ih _ hfirst.stacked)

/-- A parent that is asked for a unit is a loader, and its lookup does not fail. -/
theorem askUnit_unfailing (index : Nat) (name : String) (h : layers.Stacked) :
    Unfailing (askUnit (callWithin depth) layers index name).events := by
  unfold askUnit
  split
  · next parent hhost =>
    have hasked := hcall layers parent (.find name) h
    obtain ⟨layer, hlayer⟩ := h.parent hhost
    split
    · next heq =>
      rw [heq] at hasked
      exact hasked
    · next heq =>
      -- Only here would it be told that the host has failed.
      cases depth with
      | zero => cases heq
      | succ depth =>
        obtain ⟨found, hfound⟩ := find_succeeds depth name hlayer
        rw [heq] at hfound
        cases hfound
    · next heq =>
      rw [heq] at hasked
      exact hasked
  · next embedder hhost =>
    have hnoted : Below index layers (layers.setHost index (.embedder (embedder.askUnit name))) :=
      .of_setHost h hhost
    exact callAll_unfailing hcall index _ _ hnoted.stacked
  · exact .nil

theorem lookUp_unfailing (index : Nat) (name : String) (h : layers.Stacked) :
    Unfailing (lookUp (callWithin depth) layers index name).events := by
  unfold lookUp
  split
  · exact .nil
  · next layer hlayer =>
    have hbegun := (layer.loader.beginLookup_plain name).unfailing
    split
    · next heq =>
      rw [heq] at hbegun
      exact hbegun
    · next ticket loader events heq =>
      rw [heq] at hbegun
      have hasked := askUnit_unfailing hcall index name
        (@Below.of_setLoader index layers h loader).stacked
      dsimp only
      split
      · exact hbegun.append hasked
      · exact (hbegun.append hasked).append (Loader.finishLookup_unfailing _ _ ticket _)

theorem askResource_unfailing (index : Nat) (name : String) (h : layers.Stacked) :
    Unfailing (askResource (callWithin depth) layers index name).events := by
  unfold askResource
  split
  · next parent hhost =>
    have hasked := hcall layers parent (.resource name) h
    split <;> rename_i heq <;> rw [heq] at hasked <;> exact hasked
  · exact .nil
  · exact .nil

theorem askResources_unfailing (index : Nat) (name : String) (h : layers.Stacked) :
    Unfailing (askResources (callWithin depth) layers index name).events := by
  unfold askResources
  split
  · next parent hhost =>
    have hasked := hcall layers parent (.resources name) h
    split <;> rename_i heq <;> rw [heq] at hasked <;> exact hasked
  · exact .nil
  · exact .nil

theorem findResource_unfailing (index : Nat) (name : String) (h : layers.Stacked) :
    Unfailing (findResource (callWithin depth) layers index name).events := by
  have hasked := askResource_unfailing hcall index (normalize name) h
  unfold findResource
  cases hlayer : layers.layers[index]? with
  | none => exact .nil
  | some layer =>
    dsimp only
    split
    · exact .nil
    · cases layer.loader.sources.locate? layers.volume (normalize name) with
      | some location =>
        simp only [hlayer]
        exact .append .nil (layer.loader.rememberResource_plain _ _).unfailing
      | none =>
        dsimp only
        split
        · exact hasked
        · exact hasked.append (Loader.rememberResource_plain _ _ _).unfailing

theorem findResources_unfailing (index : Nat) (name : String) (h : layers.Stacked) :
    Unfailing (findResources (callWithin depth) layers index name).events := by
  have hasked := askResources_unfailing hcall index (normalize name) h
  unfold findResources
  dsimp only
  split
  · exact .nil
  · split
    · exact .nil
    · split
      · exact hasked
      · exact hasked.append (Loader.rememberList_plain _ _ _).unfailing

theorem perform_unfailing (index : Nat) (one : Call) (h : layers.Stacked) :
    Unfailing (perform (callWithin depth) layers index one).events := by
  cases one with
  | load name wantsLink =>
    have hlooked := lookUp_unfailing hcall index name h
    unfold perform
    dsimp only
    generalize lookUp (callWithin depth) layers index name = looked at hlooked ⊢
    obtain ⟨reply, layers', events⟩ := looked
    cases reply <;> exact hlooked
  | find name =>
    rw [find_eq]
    exact lookUp_unfailing hcall index name h
  | resource name => exact findResource_unfailing hcall index name h
  | resources name => exact findResources_unfailing hcall index name h
  | openResource name =>
    -- To open a location says nothing, so what is said is what finding it says.
    have hfound := findResource_unfailing hcall index name h
    unfold perform
    dsimp only
    generalize findResource (callWithin depth) layers index name = found at hfound ⊢
    obtain ⟨reply, layers', events⟩ := found
    cases reply with
    | none => exact hfound
    | some location =>
      refine hfound.append ?_
      rw [openLocation_events]
      exact .nil
  | preload unit =>
    unfold perform
    dsimp only
    split <;> exact .nil
  | registerDirectory path =>
    -- What goes wrong with a source is said of the source, never of a host.
    unfold perform
    dsimp only
    split
    · exact .nil
    · next layer hlayer =>
      exact (layer.loader.register_plain (Directory.scan_plain _ path _)
        layer.loader.addDirectory_plain).unfailing
  | registerArchive path =>
    unfold perform
    dsimp only
    split
    · exact .nil
    · next layer hlayer =>
      exact (layer.loader.register_plain (Archive.openPath_plain _ path _)
        layer.loader.addArchive_plain).unfailing
  | registerImage image origin =>
    unfold perform
    dsimp only
    split
    · exact .nil
    · next layer hlayer =>
      exact (layer.loader.register_plain (Archive.openImage_plain _ image origin _)
        layer.loader.addArchive_plain).unfailing
  | forgetMisses =>
    -- The one event says how many records were dropped.
    unfold perform
    dsimp only
    split
    · exact .nil
    · exact .cons nofun .nil
  | edit edit => exact .nil

end

/-- No call tells that a host has failed. The induction is on how deep calls nest. -/
theorem callWithin_unfailing (depth : Nat) : ∀ (layers : Layers) (index : Nat) (one : Call),
    layers.Stacked → Unfailing (callWithin depth layers index one).events := by
  induction depth with
  | zero => exact fun _ _ _ _ => .nil
  | succ depth ih => exact fun layers index one h => perform_unfailing ih index one h

/-! ## All of this together -/

/-- A lookup of a unit fails with a record only. It names the unit and counts the sources that were
registered when the lookup began which built it, be it this one or an earlier one. That is so for
the lookups of every history and for calls that are nested in any way, and a lookup that may come to
nothing does not fail. In stacked loaders no loader is told that its host has failed. -/
theorem lookup_fails_with_record {start : Scene} (hmisses : start.loader.memo.misses = .empty)
    (hwaiting : start.waiting = []) (hsources : start.loader.sources = {})
    (history : List Happening) :
    (∀ one name result, ((start.after history).step one).outcome = .unit name result →
      Scene.Ends start (history ++ [one]) name result) ∧
    (∀ (layers : Layers) (index depth : Nat) (name : String),
      layers.loaderAt? index = some (start.after history).loader →
      layers.volume = (start.after history).volume →
        (∀ wantsLink,
          let loaded := callWithin (depth + 1) layers index (.load name wantsLink)
          ∃ result more, loaded.reply = .unit result ∧
            Scene.Ends start (history ++ more) name result ∧
            loaded.layers.loaderAt? index = some (start.after (history ++ more)).loader) ∧
        ∃ found, (callWithin (depth + 1) layers index (.find name)).reply = .found (.ok found)) ∧
    ∀ (layers : Layers) (depth index : Nat) (one : Call), layers.Stacked →
      Unfailing (callWithin depth layers index one).events := by
  refine ⟨?_, ?_, ?_⟩
  · intro one name result houtcome
    exact Scene.step_ends hmisses hwaiting hsources history houtcome
  · intro layers index depth name hloader hvolume
    obtain ⟨layer, hlayer, -⟩ := Option.map_eq_some_iff.mp hloader
    refine ⟨?_, find_succeeds depth name hlayer⟩
    intro wantsLink
    exact load_ends hmisses hwaiting hsources history depth name wantsLink hloader hvolume
  · intro layers depth index one hstacked
    exact callWithin_unfailing depth layers index one hstacked

/-- The only copy of a unit is empty. A loader that has it is asked, and one above that loader. -/
theorem lookup_fails_with_record_empty :
    let registered : List Happening := [.registerDirectory "/one"]
    let stack : Layers := ⟨doubled.volume,
      [⟨(doubled.after registered).loader, .none⟩, ⟨.create 1 {} {}, .loader 0⟩]⟩
    (∃ miss, (stack.call 0 (.load "a" false)).reply = .unit (.error (.unitNotFound miss)) ∧
      ∃ more, Scene.Built doubled (registered ++ more) "a" miss) ∧
    (∃ miss, Scene.Built doubled [.registerDirectory "/one", .ask "a", .answer 0 none] "a" miss) ∧
    (∃ found, (stack.call 1 (.find "a")).reply = .found (.ok found)) ∧
    Unfailing (stack.call 1 (.find "a")).events := by
  intro registered stack
  obtain ⟨-, hcalls, hevents⟩ := @lookup_fails_with_record doubled rfl rfl rfl registered
  have hfails : (stack.call 0 (.load "a" false)).reply =
      .unit (.error (.unitNotFound ⟨⟨0, 1⟩, ⟨"a", .sources 1 0⟩⟩)) := by cbv
  refine ⟨⟨_, hfails, ?_⟩, ?_, ?_, hevents stack _ 1 _ ?_⟩
  · obtain ⟨result, more, hreply, hends, -⟩ := (hcalls stack 0 2 "a" rfl rfl).1 false
    have hresult : Except.error _ = result := Reply.unit.inj (hfails.symm.trans hreply)
    cases hresult
    cases hends with
    | failed hbuilt => exact ⟨more, hbuilt⟩
  · have hended : ((doubled.after [.registerDirectory "/one", .ask "a"]).step
        (.answer 0 none)).outcome =
          .unit "a" (.error (.unitNotFound ⟨⟨0, 1⟩, ⟨"a", .sources 1 0⟩⟩)) := by cbv
    cases (@lookup_fails_with_record doubled rfl rfl rfl
      [.registerDirectory "/one", .ask "a"]).1 _ _ _ hended with
    | failed hbuilt => exact ⟨_, hbuilt⟩
  · obtain ⟨-, hcalls, -⟩ :=
      @lookup_fails_with_record ⟨.create 1 {} {}, doubled.volume, [], 0⟩ rfl rfl rfl []
    exact (hcalls stack 1 2 "a" rfl rfl).2
  · -- The loaders are stacked: only the second one has a loader as its host, and that is the first.
    intro index parent hhost
    cases index with
    | zero => cases hhost
    | succ index =>
      cases index with
      | zero =>
        cases hhost
        exact Nat.zero_lt_one
      | succ index => cases hhost

end Layers

end LayeredUnits
