import LayeredUnits.Proofs.Ledger
import LayeredUnits.Proofs.Nesting
import LayeredUnits.Proofs.Waiting

/-!
# Bound units stay bound

A name is bound by the host's answer, by the bytes of a source or directly, and
a lookup may find that its name has been bound while it waited. Whichever comes
first wins: `Table.insertNew` keeps what is there, and a reply is always the
unit that is bound after it.

* `binding_next`, `binding_after` — what is bound stays bound to the same unit.
* `bound_of_outcome` — a lookup that succeeds gets the bound unit.
* `preload_outcome` — a unit can be bound directly if and only if its name is
  free.
* `first_binding_wins` — all of this for every history, and through
  `wanted_outcome` for every sequence of calls to loaders in layers.
-/

namespace LayeredUnits

/-- The unit that a name is bound to. Whatever a lookup of the name replies from now on is this
unit. -/
def Loader.binding? (loader : Loader) (name : String) : Option (Shared CodeUnit) :=
  loader.memo.units.get? name

/-- An entry never takes a unit away or puts another in its place. -/
theorem Ledger.units_write {ledger : Ledger} {name : String} {unit : Shared CodeUnit}
    (entry : Entry) (h : ledger.units.get? name = some unit) :
    (ledger.write entry).units.get? name = some unit := by
  cases entry with
  | bound other bound => exact Table.get?_insertNew_of_some bound h
  | _ => exact h

namespace Scene

theorem binding_next {scene : Scene} {name : String} {unit : Shared CodeUnit} (one : Happening)
    (h : scene.loader.binding? name = some unit) :
    (scene.next one).loader.binding? name = some unit := by
  obtain ⟨entry, -, hwrite⟩ := step_writes scene one
  have hunits : (scene.next one).loader.memo.units = (scene.loader.ledger.write entry).units :=
    congrArg Ledger.units hwrite
  unfold Loader.binding?
  rw [hunits]
  exact Ledger.units_write entry h

theorem binding_after {scene : Scene} {name : String} {unit : Shared CodeUnit}
    (history : List Happening) (h : scene.loader.binding? name = some unit) :
    (scene.after history).loader.binding? name = some unit :=
  after_induction (motive := fun s => s.loader.binding? name = some unit) history h
    fun _ one hbound => binding_next one hbound

/-- A lookup that succeeds gets the unit that is bound then. It does not matter who has bound
it: the lookup, or somebody else while it waited. -/
theorem bound_of_outcome {scene : Scene} {one : Happening} {name : String}
    {unit : Shared CodeUnit} (h : (scene.step one).outcome = .unit name (.ok unit)) :
    (scene.next one).loader.binding? name = some unit := by
  rcases unit_outcome h with rfl | ⟨number, ticket, found, rfl, hwaiting, rfl⟩
  · cases hunit : scene.loader.memo.units.get? name with
    | some held =>
      rw [ask_of_bound hunit] at h
      cases h
      exact binding_next _ hunit
    | none =>
      cases hmiss : scene.recalledMiss name with
      | some miss =>
        rw [ask_of_missed hunit hmiss] at h
        cases h
      | none =>
        rw [ask_of_unknown hunit hmiss] at h
        cases h
  · unfold next
    rw [answer_of_waiting found hwaiting] at h ⊢
    injection h with hname hreply
    -- However the unit was found, the reply is what the name is bound to after the insertion.
    have hkept : ∀ defined, scene.loader.memo.boundUnit ticket.name defined = unit →
        (scene.loader.memo.units.insertNew ticket.name defined).get? ticket.name = some unit := by
      intro defined hdefined
      rw [Table.get?_insertNew_self]
      exact congrArg some hdefined
    show (scene.loader.finishLookup scene.volume ticket found).loader.binding? ticket.name = _
    rcases Loader.finishLookup_cases scene.loader scene.volume ticket found with
      ⟨hosted, -, hfinish, hloader⟩ |
      ⟨-, failed, place, rest, bytes, copied, domains, packages, issued, -, -, -, -, -, -, hfinish,
        hloader⟩ |
      ⟨-, -, searched, -, hfinish, -⟩
    · rw [hloader]
      exact hkept hosted (Except.ok.inj (hfinish.symm.trans hreply))
    · rw [hloader]
      exact hkept copied (Except.ok.inj (hfinish.symm.trans hreply))
    · cases hfinish.symm.trans hreply

/-- A unit can be bound directly if and only if its name is free. If it is not, nothing is
bound. -/
theorem preload_outcome (scene : Scene) (unit : Shared CodeUnit) :
    (scene.loader.binding? unit.value.name = none →
      (scene.step (.preload unit)).outcome = .defined (.ok unit)) ∧
    (scene.loader.binding? unit.value.name ≠ none →
      (scene.step (.preload unit)).outcome =
        .defined (.error (.duplicateDefinition unit.value.name)) ∧
      ∀ name, (scene.next (.preload unit)).loader.binding? name = scene.loader.binding? name) := by
  refine ⟨?_, ?_⟩
  · intro hfree
    have hfree : scene.loader.isBound unit.value.name = false :=
      Table.contains_eq_false_iff.mpr hfree
    exact congrArg Outcome.defined (Loader.preload_of_free hfree).1
  · intro hbound
    have hbound : scene.loader.isBound unit.value.name = true := by
      rw [← Bool.not_eq_false]
      exact mt Table.contains_eq_false_iff.mp hbound
    obtain ⟨hreply, hledger⟩ := Loader.preload_of_bound hbound
    refine ⟨congrArg Outcome.defined hreply, ?_⟩
    intro name
    exact congrArg (fun ledger : Ledger => ledger.units.get? name) hledger

end Scene

namespace Layers

/-- The unit that a name is bound to in the loader at a place, if there is a loader there. -/
def bindingAt? (layers : Layers) (place : Nat) (name : String) : Option (Shared CodeUnit) :=
  (layers.loaderAt? place).bind (·.binding? name)

theorem bindingAt?_of_leads {quiet : Prop} {place : Nat} {first second : Layers} {name : String}
    {unit : Shared CodeUnit} (hleads : LeadsTo quiet place first second)
    (h : first.bindingAt? place name = some unit) : second.bindingAt? place name = some unit := by
  obtain ⟨loader, hloader, hbound⟩ := Option.bind_eq_some_iff.mp h
  obtain ⟨loader', hloader', hhistory⟩ := hleads.history loader hloader
  obtain ⟨history, begun, hafter, -⟩ := hhistory [] 0
  have hkept := @Scene.binding_after ⟨loader, first.volume, [], 0⟩ name unit history hbound
  rw [hafter] at hkept
  unfold bindingAt?
  rw [hloader']
  exact hkept

/-- A unit that a call got is the bound one, whoever bound it: the call itself, a nested one or one
long before. -/
theorem bindingAt?_of_loaded {depth : Nat} {layers : Layers} {index : Nat} {one : Call}
    {name : String} {unit : Shared CodeUnit} (hwanted : wanted? one = some name)
    (hloaded : loaded? (callWithin depth layers index one).reply = some unit) :
    (callWithin depth layers index one).layers.bindingAt? index name = some unit := by
  obtain ⟨layer, hlayer⟩ := layer_of_loaded hwanted hloaded
  cases depth with
  | zero => cases hloaded
  | succ depth =>
    obtain ⟨loader', begun, during, last, result, hloader', -, -, hresult, houtcome, hscene⟩ :=
      wanted_outcome depth hlayer hwanted [] 0
    rw [(hresult unit).mp hloaded] at houtcome
    have hbound := Scene.bound_of_outcome houtcome
    unfold Scene.next at hbound
    rw [hscene] at hbound
    unfold bindingAt?
    rw [hloader']
    exact hbound

/-- Whoever asks for a unit that is bound gets it, and neither the host nor a source is asked. -/
theorem loaded_of_bindingAt? {depth : Nat} {layers : Layers} {index : Nat} {one : Call}
    {name : String} {unit : Shared CodeUnit} (hwanted : wanted? one = some name)
    (h : layers.bindingAt? index name = some unit) :
    loaded? (callWithin (depth + 1) layers index one).reply = some unit := by
  obtain ⟨loader, hloader, hbound⟩ := Option.bind_eq_some_iff.mp h
  obtain ⟨layer, hlayer, rfl⟩ := Option.map_eq_some_iff.mp hloader
  have hreply : (lookUp (callWithin depth) layers index name).reply = .ok unit := by
    have hunit : layer.loader.memo.units.get? name = some unit := hbound
    unfold lookUp
    simp only [hlayer, Loader.beginLookup, hunit]
  -- The lookup ends where it begins, so it does not matter what nested calls would do.
  exact ((perform_of_wanted (callWithin depth) layers index index hwanted).1 unit).mpr hreply

end Layers

/-! ## The first binding wins -/

/-- What is bound stays bound to the same unit, and every later lookup gets it. A lookup that
succeeds gets the unit that is bound when it returns. A unit is bound directly if and only if
its name is free, and otherwise nothing is bound. So it is for one loader, whatever happens to it
while its lookups wait, and for loaders in layers, with hosts that call them. -/
theorem first_binding_wins :
    (∀ (scene : Scene) (history : List Happening) (name : String) (unit : Shared CodeUnit),
      scene.loader.binding? name = some unit →
        (scene.after history).loader.binding? name = some unit ∧
        ((scene.after history).step (.ask name)).outcome = .unit name (.ok unit)) ∧
    (∀ (scene : Scene) (one : Happening) (name : String) (unit : Shared CodeUnit),
      (scene.step one).outcome = .unit name (.ok unit) →
        (scene.next one).loader.binding? name = some unit) ∧
    (∀ (scene : Scene) (unit : Shared CodeUnit),
      ((scene.step (.preload unit)).outcome = .defined (.ok unit) ↔
        scene.loader.binding? unit.value.name = none) ∧
      (scene.loader.binding? unit.value.name ≠ none →
        (scene.step (.preload unit)).outcome =
          .defined (.error (.duplicateDefinition unit.value.name)) ∧
        ∀ name, (scene.next (.preload unit)).loader.binding? name =
          scene.loader.binding? name)) ∧
    (∀ (layers : Layers) (calls : List (Nat × Call)) (place : Nat) (name : String)
        (unit : Shared CodeUnit), layers.bindingAt? place name = some unit →
      (layers.after calls).bindingAt? place name = some unit ∧
      ∀ one, Layers.wanted? one = some name →
        Layers.loaded? ((layers.after calls).call place one).reply = some unit) ∧
    (∀ (depth : Nat) (layers : Layers) (place : Nat) (one : Call) (name : String)
        (unit : Shared CodeUnit), Layers.wanted? one = some name →
      Layers.loaded? (Layers.callWithin depth layers place one).reply = some unit →
        (Layers.callWithin depth layers place one).layers.bindingAt? place name = some unit) := by
  refine ⟨?_, ?_, ?_, ?_, ?_⟩
  · intro scene history name unit h
    have hbound := Scene.binding_after history h
    exact ⟨hbound, congrArg Scene.Step.outcome (Scene.ask_of_bound hbound)⟩
  · intro scene one name unit h
    exact Scene.bound_of_outcome h
  · intro scene unit
    obtain ⟨hfree, hbound⟩ := Scene.preload_outcome scene unit
    refine ⟨⟨?_, hfree⟩, hbound⟩
    -- A unit that is bound makes the outcome an error, so an outcome without one
    -- means that the name was free.
    intro hok
    cases h : scene.loader.binding? unit.value.name with
    | none => rfl
    | some held =>
      rw [(hbound (by rw [h]; exact Option.some_ne_none held)).1] at hok
      cases hok
  · -- For the loader at the place, calls to any loader are a history of its own.
    intro layers calls place name unit h
    have hbound := Layers.bindingAt?_of_leads (Layers.after_leads place layers calls) h
    refine ⟨hbound, ?_⟩
    intro one hwanted
    obtain ⟨depth, hdepth⟩ := (layers.after calls).exists_depth
    rw [hdepth]
    exact Layers.loaded_of_bindingAt? hwanted hbound
  · intro depth layers place one name unit hwanted hloaded
    exact Layers.bindingAt?_of_loaded hwanted hloaded

/-- Two units of one name. -/
def rival (serial : Nat) : Shared CodeUnit := ⟨⟨7, serial⟩, .hosted "a" .empty ⟨⟨8, 0⟩, .default⟩⟩

/-- A lookup waits, and the unit has been bound directly in the meantime. -/
def overtaken : Scene :=
  Scene.after ⟨.create 0 {} {}, {}, [], 0⟩ [.ask "a", .preload (rival 0)]

/-- The same with a host that does this while it is asked: it binds the name that is looked up, and
then answers with another unit. -/
def intruding : Layers :=
  ⟨{}, [⟨.create 0 {} {}, .embedder
    { units := [("a", rival 1)], habits := [(1, [.preload (rival 0)])] }⟩]⟩

theorem first_binding_wins_overtaken :
    (overtaken.next (.answer 0 (some (rival 1)))).loader.binding? "a" = some (rival 0) ∧
    ((overtaken.after [.answer 0 (some (rival 1))]).step (.ask "a")).outcome =
      .unit "a" (.ok (rival 0)) ∧
    (overtaken.step (.preload (rival 1))).outcome = .defined (.error (.duplicateDefinition "a")) ∧
    (intruding.call 0 (.load "a" false)).layers.bindingAt? 0 "a" = some (rival 0) ∧
    Layers.loaded? ((intruding.after [(0, .load "a" false), (0, .forgetMisses)]).call 0
      (.find "a")).reply = some (rival 0) := by
  obtain ⟨hkept, hreply, hpreload, hcalls, hcall⟩ := first_binding_wins
  have hbound : overtaken.loader.binding? "a" = some (rival 0) := rfl
  have htaken : overtaken.loader.binding? (rival 1).value.name ≠ none :=
    fun hfree => Option.some_ne_none _ (hbound.symm.trans hfree)
  have hloaded : (intruding.call 0 (.load "a" false)).layers.bindingAt? 0 "a" = some (rival 0) :=
    hcall _ intruding 0 (.load "a" false) "a" (rival 0) rfl rfl
  refine ⟨?_, ?_, ?_, hloaded, ?_⟩
  · exact hreply overtaken (.answer 0 (some (rival 1))) "a" (rival 0) rfl
  · exact (hkept overtaken [.answer 0 (some (rival 1))] "a" (rival 0) hbound).2
  · exact ((hpreload overtaken (rival 1)).2 htaken).1
  · exact (hcalls _ [(0, .forgetMisses)] 0 "a" (rival 0) hloaded).2 (.find "a") rfl

end LayeredUnits
