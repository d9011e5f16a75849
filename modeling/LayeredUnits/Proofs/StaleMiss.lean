import Mathlib
import LayeredUnits.Proofs.Ledger
import LayeredUnits.Proofs.Nesting
import LayeredUnits.Proofs.Waiting

/-!
# No miss survives a clear

A lookup takes its ticket, which holds the generation and the sources of that
moment, and then waits for the host. Until it fails, sources may have been
registered and misses may have been cleared, and its own miss is already out
of date. The generation keeps it from being remembered: a clear moves the
generation on, so a ticket of the current generation was given after the last
clear.

* `made_since_clear` — every remembered miss was made by a lookup that began
  after the last clear. The induction is on the history, at its end, and it
  carries along where the tickets that wait were given (`Traced`).
* `Findable.next` — once a clear has come after a registration, no happening
  makes the loader miss what was registered.
* `loaded_after_clear` — after a call that clears, a call that asks for the unit
  gets it, in stacked loaders too.
* `no_stale_miss` — all of this for all histories. Nothing is asked of the host,
  and the lookups may be nested in any way.
-/

namespace LayeredUnits

namespace Scene

/-! ## Generations -/

/-- Only a clear moves the generation on, and it empties the memory of misses in the same step. -/
theorem generation_next (scene : Scene) (one : Happening) :
    (one = .forgetMisses ∧ (scene.next one).loader.generation = scene.loader.generation + 1 ∧
      (scene.next one).loader.memo.misses = .empty) ∨
    (one ≠ .forgetMisses ∧ (scene.next one).loader.generation = scene.loader.generation) := by
  obtain ⟨entry, hwrites, hledger⟩ := step_writes scene one
  have hgeneration : (scene.next one).loader.generation =
      (scene.loader.ledger.write entry).generation := congrArg Ledger.generation hledger
  cases hwrites with
  | cleared => exact .inl ⟨rfl, hgeneration, congrArg Ledger.misses hledger⟩
  | nothing hone => exact .inr ⟨hone, hgeneration⟩
  | registered hsource =>
    refine .inr ⟨?_, hgeneration⟩
    rintro rfl
    cases hsource
  | _ => exact .inr ⟨by simp, hgeneration⟩

theorem generation_le_after (scene : Scene) (history : List Happening) :
    scene.loader.generation ≤ (scene.after history).loader.generation := by
  induction history generalizing scene with
  | nil => exact Nat.le_refl _
  | cons one rest ih =>
    refine Nat.le_trans ?_ (ih (scene.next one))
    rcases generation_next scene one with ⟨-, hnext, -⟩ | ⟨-, hnext⟩ <;> omega

/-- If the generation is the same, no clear came. -/
theorem not_mem_of_generation {scene : Scene} {history : List Happening}
    (h : (scene.after history).loader.generation = scene.loader.generation) :
    .forgetMisses ∉ history := by
  induction history generalizing scene with
  | nil => exact List.not_mem_nil
  | cons one rest ih =>
    have hrest := generation_le_after (scene.next one) rest
    rw [after_cons] at h
    rcases generation_next scene one with ⟨-, hnext, -⟩ | ⟨hone, hnext⟩
    · omega
    · intro hmem
      rcases List.mem_cons.mp hmem with rfl | hmem
      · exact hone rfl
      · exact ih (h.trans hnext.symm) hmem

/-! ## Where a remembered miss comes from -/

/-- The lookup that made a remembered miss: it began after `before`, it ended after `during`,
and there has been no clear since it began. -/
structure MadeBy (start : Scene) (history : List Happening) (name : String)
    (miss : Shared Miss) (before during later : List Happening) : Prop where
  parts : history =
    before ++ .ask name :: during ++ .answer (start.after before).begun none :: later
  uncleared_during : .forgetMisses ∉ during
  uncleared_later : .forgetMisses ∉ later
  /-- The miss was made when the lookup ended, of the sources there were when it began. -/
  made : miss = (start.after (before ++ .ask name :: during)).loader.freshMiss
    ((start.after before).ticket name)
  unknown : (start.after (before ++ .ask name :: during)).loader.memo.misses.get? name = none
  remembered : ((start.after (before ++ .ask name :: during)).next
    (.answer (start.after before).begun none)).loader.memo.misses.get? name = some miss

/-- A remembered miss was made by a lookup that began after the last clear. -/
def MadeSinceClear (start : Scene) (history : List Happening) (name : String)
    (miss : Shared Miss) : Prop :=
  ∃ before during later, MadeBy start history name miss before during later

theorem MadeSinceClear.concat {start : Scene} {history : List Happening} {name : String}
    {miss : Shared Miss} {one : Happening} (h : MadeSinceClear start history name miss)
    (hone : one ≠ .forgetMisses) : MadeSinceClear start (history ++ [one]) name miss := by
  obtain ⟨before, during, later, hmade⟩ := h
  refine ⟨before, during, later ++ [one], ?_, hmade.uncleared_during, ?_, hmade.made,
    hmade.unknown, hmade.remembered⟩
  · rw [hmade.parts]
    simp
  · intro hmem
    rcases List.mem_append.mp hmem with hmem | hmem
    · exact hmade.uncleared_later hmem
    · exact hone (List.mem_singleton.mp hmem).symm

/-- The invariant: where the tickets that wait were given, and where the misses come from. -/
structure Traced (start : Scene) (history : List Happening) : Prop where
  tickets : ∀ number ticket, (number, .unit ticket) ∈ (start.after history).waiting →
    ∃ before during, history = before ++ .ask ticket.name :: during ∧
      number = (start.after before).begun ∧ ticket = (start.after before).ticket ticket.name
  misses : ∀ name miss, (start.after history).loader.memo.misses.get? name = some miss →
    MadeSinceClear start history name miss

theorem traced_nil {start : Scene} (hmisses : start.loader.memo.misses = .empty)
    (hwaiting : start.waiting = []) : Traced start [] := by
  constructor
  · intro number ticket hmem
    rw [after_nil, hwaiting] at hmem
    exact absurd hmem List.not_mem_nil
  · intro name miss hget
    rw [after_nil, hmisses] at hget
    cases hget

/-- The tickets after one more happening: the old ones, and the one that has just been given if a
lookup has begun. -/
theorem Traced.tickets_concat {start : Scene} {history : List Happening}
    (h : Traced start history) (one : Happening) :
    ∀ number ticket, (number, .unit ticket) ∈ (start.after (history ++ [one])).waiting →
      ∃ before during, history ++ [one] = before ++ .ask ticket.name :: during ∧
        number = (start.after before).begun ∧
        ticket = (start.after before).ticket ticket.name := by
  intro number ticket hmem
  rw [after_concat] at hmem
  rcases waiting_next hmem with hmem | ⟨hone, hnumber, hticket⟩
  · obtain ⟨before, during, hparts, hnumber, hticket⟩ := h.tickets number ticket hmem
    exact ⟨before, during ++ [one], by rw [hparts]; simp, hnumber, hticket⟩
  · exact ⟨history, [], by rw [hone], hnumber, hticket⟩

/-- The end of a lookup that makes a miss: its ticket is of the current generation. -/
theorem Traced.made_now {start : Scene} {history : List Happening} {number : Nat}
    {ticket : Ticket} (h : Traced start history)
    (hwaiting : (start.after history).waiting.lookup number = some (.unit ticket))
    (hallowed : (start.after history).loader.mayRemember ticket = true)
    (hunknown : (start.after history).loader.memo.misses.get? ticket.name = none)
    (hremembered : ((start.after history).next (.answer number none)).loader.memo.misses.get?
      ticket.name = some ((start.after history).loader.freshMiss ticket)) :
    MadeSinceClear start (history ++ [.answer number none]) ticket.name
      ((start.after history).loader.freshMiss ticket) := by
  obtain ⟨before, during, hparts, hnumber, hticket⟩ :=
    h.tickets number ticket (mem_of_lookup hwaiting)
  have hsame : (start.after history).loader.generation = ticket.generation :=
    (Loader.mayRemember_iff.mp hallowed).2.2
  -- The ticket has the generation of now, so the generation has not moved since it was given.
  have huncleared : .forgetMisses ∉ Happening.ask ticket.name :: during := by
    refine @not_mem_of_generation (start.after before) _ ?_
    rw [← after_append, ← hparts, hsame, hticket]
    rfl
  refine ⟨before, during, [], ?_, ?_, List.not_mem_nil, ?_, ?_, ?_⟩
  · rw [hparts, hnumber]
  · exact fun hmem => huncleared (List.mem_cons_of_mem _ hmem)
  · rw [← hparts, ← hticket]
  · rw [← hparts]
    exact hunknown
  · rw [← hparts, ← hnumber]
    exact hremembered

theorem Traced.misses_concat {start : Scene} {history : List Happening}
    (h : Traced start history) (one : Happening) :
    ∀ name miss, (start.after (history ++ [one])).loader.memo.misses.get? name = some miss →
      MadeSinceClear start (history ++ [one]) name miss := by
  intro name miss hget
  rw [after_concat] at hget
  obtain ⟨entry, hwrites, hledger⟩ := step_writes (start.after history) one
  have hmisses : ((start.after history).next one).loader.memo.misses =
      ((start.after history).loader.ledger.write entry).misses := congrArg Ledger.misses hledger
  have hold : ∀ held, one ≠ .forgetMisses →
      (start.after history).loader.memo.misses.get? name = some held →
        MadeSinceClear start (history ++ [one]) name held :=
    fun held hone hheld => (h.misses name held hheld).concat hone
  rw [hmisses] at hget
  cases hwrites with
  | cleared => cases hget
  | nothing hone => exact hold miss hone hget
  | registered hsource =>
    refine hold miss ?_ hget
    rintro rfl
    cases hsource
  | @missed number ticket made hwaiting unread hallowed fresh =>
    change ((start.after history).loader.memo.misses.insertNew ticket.name made).get? name =
      some miss at hget
    rw [Table.get?_insertNew] at hget
    split at hget
    · next hname =>
      subst hname fresh
      cases hheld : (start.after history).loader.memo.misses.get? ticket.name with
      | some held =>
        -- The lookup lost: the miss of another one is there already.
        rw [Table.kept_of_some _ hheld] at hget
        exact hold miss (by simp) (hheld.trans hget)
      | none =>
        rw [Table.kept_of_none _ hheld] at hget
        cases hget
        refine h.made_now hwaiting hallowed hheld ?_
        rw [hmisses]
        exact (Table.get?_insertNew_self ..).trans (congrArg some (Table.kept_of_none _ hheld))
    · exact hold miss (by simp) hget
  | _ => exact hold miss (by simp) hget

theorem Traced.concat {start : Scene} {history : List Happening} (h : Traced start history)
    (one : Happening) : Traced start (history ++ [one]) :=
  ⟨h.tickets_concat one, h.misses_concat one⟩

theorem Traced.append {start : Scene} {history : List Happening} (h : Traced start history)
    (more : List Happening) : Traced start (history ++ more) := by
  induction more generalizing history with
  | nil => rwa [List.append_nil]
  | cons one rest ih =>
    rw [List.append_cons]
    exact ih (h.concat one)

/-- Every remembered miss was made by a lookup that began after the last clear. -/
theorem made_since_clear {start : Scene} (history : List Happening)
    (hmisses : start.loader.memo.misses = .empty) (hwaiting : start.waiting = []) {name : String}
    {miss : Shared Miss}
    (h : (start.after history).loader.memo.misses.get? name = some miss) :
    MadeSinceClear start history name miss :=
  ((traced_nil hmisses hwaiting).append history).misses name miss h

/-! ## What was registered before a clear -/

/-- No ticket is of a later generation than the present one. So a clear makes every ticket that
waits an old one. -/
def Dated (scene : Scene) : Prop :=
  ∀ number ticket, (number, .unit ticket) ∈ scene.waiting →
    ticket.generation ≤ scene.loader.generation

theorem dated_next {scene : Scene} (h : Dated scene) (one : Happening) : Dated (scene.next one) := by
  intro number ticket hmem
  have hgrows : scene.loader.generation ≤ (scene.next one).loader.generation :=
    generation_le_after scene [one]
  rcases waiting_next hmem with hmem | ⟨-, -, hticket⟩
  · exact Nat.le_trans (h number ticket hmem) hgrows
  · rw [hticket]
    exact hgrows

/-- The unit of this name has a place that can be read, and nothing stands in the way: there
is no miss, and a ticket that does not know the place is too old to leave one. -/
structure Findable (name : String) (place : Place) (bytes : ByteArray) (scene : Scene) : Prop where
  indexed : place ∈ scene.loader.sources.places name
  readable : place.read scene.volume scene.loader.options.maxUnitSize = .ok bytes
  unmissed : scene.loader.memo.misses.get? name = none
  dated : Dated scene
  known : ∀ number ticket, (number, .unit ticket) ∈ scene.waiting → ticket.name = name →
    ticket.generation = scene.loader.generation → place ∈ ticket.sources.places name

/-- A clear sweeps the misses away and makes all tickets old. -/
theorem findable_of_clear {scene : Scene} {name : String} {place : Place} {bytes : ByteArray}
    (hdated : Dated scene) (hindexed : place ∈ scene.loader.sources.places name)
    (hreadable : place.read scene.volume scene.loader.options.maxUnitSize = .ok bytes) :
    Findable name place bytes (scene.next .forgetMisses) where
  indexed := hindexed
  readable := hreadable
  unmissed := rfl
  dated := dated_next hdated .forgetMisses
  known := by
    intro number ticket hmem hname hgeneration
    have hold : ticket.generation ≤ scene.loader.generation := hdated number ticket hmem
    have hnew : ticket.generation = scene.loader.generation + 1 := hgeneration
    omega

theorem mem_places_write {ledger : Ledger} {name : String} {place : Place} (entry : Entry)
    (h : place ∈ ledger.sources.places name) : place ∈ (ledger.write entry).sources.places name := by
  cases entry with
  | registered source =>
    cases source with
    | directory directory => exact Sources.mem_places_addDirectory _ directory h
    | archive number archive => exact Sources.mem_places_addArchive _ archive h
  | _ => exact h

/-- A lookup that fails does not know the place, and so it is too old to leave a miss. -/
theorem Findable.unmissed_next {scene : Scene} {name : String} {place : Place}
    {bytes : ByteArray} (h : Findable name place bytes scene) (one : Happening) :
    (scene.next one).loader.memo.misses.get? name = none := by
  obtain ⟨entry, hwrites, hledger⟩ := step_writes scene one
  have hmisses : (scene.next one).loader.memo.misses = (scene.loader.ledger.write entry).misses :=
    congrArg Ledger.misses hledger
  rw [hmisses]
  cases hwrites with
  | cleared => rfl
  | @missed number ticket miss hwaiting hunread hallowed fresh =>
    show (scene.loader.memo.misses.insertNew ticket.name miss).get? name = none
    rw [Table.get?_insertNew]
    split
    · next hname =>
      have hsame : scene.loader.generation = ticket.generation :=
        (Loader.mayRemember_iff.mp hallowed).2.2
      have hknown : place ∈ ticket.sources.places ticket.name :=
        hname ▸ h.known number ticket (mem_of_lookup hwaiting) hname.symm hsame.symm
      obtain ⟨fault, hfault⟩ := hunread place hknown
      rw [h.readable] at hfault
      cases hfault
    · exact h.unmissed
  | _ => exact h.unmissed

theorem Findable.next {scene : Scene} {name : String} {place : Place} {bytes : ByteArray}
    {one : Happening} (h : Findable name place bytes scene)
    (hone : ∀ volume, one ≠ .change volume) : Findable name place bytes (scene.next one) := by
  obtain ⟨entry, hwrites, hledger⟩ := step_writes scene one
  have hsources : (scene.next one).loader.sources = (scene.loader.ledger.write entry).sources :=
    congrArg Ledger.sources hledger
  have hoptions : (scene.next one).loader.options = scene.loader.options := options_next scene one
  constructor
  · rw [hsources]
    exact mem_places_write entry h.indexed
  · rw [(step_frame scene one).volume hone, hoptions]
    exact h.readable
  · exact h.unmissed_next one
  · exact dated_next h.dated one
  · intro number ticket hmem hname hgeneration
    rcases waiting_next hmem with hmem | ⟨-, -, hticket⟩
    · -- A ticket of the current generation was one before: it cannot have been waiting when a
      -- clear moves the generation on.
      refine h.known number ticket hmem hname ?_
      have hdated := h.dated number ticket hmem
      rcases generation_next scene one with ⟨-, hnext, -⟩ | ⟨-, hnext⟩ <;> omega
    · rw [hticket]
      exact h.indexed

theorem Findable.after {scene : Scene} {name : String} {place : Place} {bytes : ByteArray}
    {history : List Happening} (h : Findable name place bytes scene)
    (hhistory : ∀ volume, .change volume ∉ history) :
    Findable name place bytes (scene.after history) := by
  induction history generalizing scene with
  | nil => exact h
  | cons one rest ih =>
    have hone : ∀ volume, one ≠ .change volume :=
      fun volume heq => hhistory volume (heq ▸ List.mem_cons_self)
    exact ih (h.next hone) fun volume hmem => hhistory volume (List.mem_cons_of_mem one hmem)

/-- A lookup of the name that begins now succeeds: at once, or when it is answered, whatever has
happened by then and whatever the answer is. Only the files have to stay as they are. -/
def Finds (scene : Scene) (name : String) : Prop :=
  (∃ unit, (scene.step (.ask name)).outcome = .unit name (.ok unit)) ∨
  ((scene.step (.ask name)).outcome = .nothing ∧
    ∀ during found, (∀ volume, .change volume ∉ during) →
      (∀ other, .answer scene.begun other ∉ during) →
        ∃ unit, ((scene.after (.ask name :: during)).step (.answer scene.begun found)).outcome =
          .unit name (.ok unit))

/-- A lookup that knows the place finds the unit, if the host does not have it. Whether clears have
come meanwhile makes no difference. -/
theorem Findable.answer_outcome {scene : Scene} {place : Place} {bytes : ByteArray}
    {number : Nat} {ticket : Ticket} (found : Option (Shared CodeUnit))
    (h : Findable ticket.name place bytes scene) (hknown : place ∈ ticket.sources.places ticket.name)
    (hwaiting : scene.waiting.lookup number = some (.unit ticket)) :
    ∃ unit, (scene.step (.answer number found)).outcome = .unit ticket.name (.ok unit) := by
  rw [answer_of_waiting found hwaiting]
  rcases Loader.finishLookup_cases scene.loader scene.volume ticket found with
    ⟨hosted, -, hreply, -⟩ |
    ⟨-, failed, place, rest, bytes, copied, domains, packages, issued, -, -, -, -, -, -, hreply,
      -⟩ |
    ⟨-, hunread, -⟩
  · exact ⟨_, congrArg (Outcome.unit ticket.name) hreply⟩
  · exact ⟨_, congrArg (Outcome.unit ticket.name) hreply⟩
  · obtain ⟨fault, hfault⟩ := hunread place hknown
    rw [h.readable] at hfault
    cases hfault

theorem Findable.finds {scene : Scene} {name : String} {place : Place} {bytes : ByteArray}
    (h : Findable name place bytes scene) : Finds scene name := by
  cases hunit : scene.loader.memo.units.get? name with
  | some unit => exact .inl ⟨unit, congrArg Step.outcome (ask_of_bound hunit)⟩
  | none =>
    have hmiss : scene.recalledMiss name = none := by
      unfold recalledMiss
      rw [h.unmissed]
      exact ite_self none
    have hask := ask_of_unknown hunit hmiss
    refine .inr ⟨congrArg Step.outcome hask, ?_⟩
    intro during found hfiles hopen
    -- Clears may come while it waits, but the ticket knows the place and that is enough.
    have hwaiting : (scene.next (.ask name)).waiting.lookup scene.begun =
        some (.unit (scene.ticket name)) := by
      unfold Scene.next
      rw [hask]
      exact List.lookup_cons_self
    have hbegun : scene.begun < (scene.next (.ask name)).begun := by
      unfold Scene.next
      rw [hask]
      exact Nat.lt_succ_self scene.begun
    have hlater : Findable name place bytes ((scene.next (.ask name)).after during) :=
      (h.next (by simp)).after hfiles
    exact @Findable.answer_outcome _ _ _ _ (scene.ticket name) found hlater h.indexed
      (waiting_until during hwaiting hbegun hopen)

/-! ## The same for calls -/

/-- However a lookup comes to its end, it succeeds. -/
theorem Findable.result_of_lasts {scene : Scene} {name : String} {place : Place}
    {bytes : ByteArray} {during : List Happening} {last : Happening}
    {result : Except Fault (Shared CodeUnit)} (h : Findable name place bytes scene)
    (hlasts : Layers.Lasts scene name during last) (hfiles : ∀ volume, .change volume ∉ during)
    (houtcome : ((scene.after during).step last).outcome = .unit name result) :
    ∃ unit, result = .ok unit := by
  cases hlasts with
  | atOnce =>
    rw [after_nil] at houtcome
    rcases h.finds with ⟨unit, hok⟩ | ⟨hnothing, -⟩
    · exact ⟨unit, (Outcome.unit.inj (houtcome.symm.trans hok)).2⟩
    · cases houtcome.symm.trans hnothing
  | waits nested found hwaiting =>
    obtain ⟨unit, hok⟩ :=
      @Findable.answer_outcome _ _ _ _ (scene.ticket name) found (h.after hfiles) h.indexed hwaiting
    exact ⟨unit, (Outcome.unit.inj (houtcome.symm.trans hok)).2⟩

/-- A call that asks for the unit gets it, whatever the host does in between. -/
theorem Findable.loaded {layers : Layers} {index : Nat} {loader : Loader} {name : String}
    {place : Place} {bytes : ByteArray} {waiting : List (Nat × Errand)} {begun : Nat}
    (h : Findable name place bytes ⟨loader, layers.volume, waiting, begun⟩)
    (hloader : layers.loaderAt? index = some loader) (hstill : layers.Still) {one : Call}
    (hone : Layers.wanted? one = some name) :
    ∃ unit, Layers.loaded? (layers.call index one).reply = some unit := by
  obtain ⟨layer, hlayer, rfl⟩ := Option.map_eq_some_iff.mp hloader
  obtain ⟨depth, hdepth⟩ := layers.exists_depth
  obtain ⟨-, -, during, last, result, -, hlasts, hfiles, hresult, houtcome, -⟩ :=
    Layers.wanted_outcome depth hlayer hone waiting begun
  obtain ⟨unit, hok⟩ := h.result_of_lasts hlasts (hfiles hstill) houtcome
  rw [hdepth]
  exact ⟨unit, (hresult unit).mpr hok⟩

end Scene

namespace Layers

/-- A clear that is not nested in another call. It changes one loader and calls nobody. -/
theorem call_forgetMisses {layers : Layers} {index : Nat} {layer : Layer}
    (hlayer : layers.layers[index]? = some layer) :
    (layers.call index .forgetMisses).layers =
      layers.setLoader index layer.loader.forgetMisses.loader := by
  obtain ⟨depth, hdepth⟩ := layers.exists_depth
  rw [hdepth]
  unfold callWithin perform
  simp only [hlayer]
  rfl

/-- If a unit is indexed and its place can be read, then after a clear every call that asks for it
gets it, unless files are changed. -/
theorem loaded_after_clear {layers : Layers} {index : Nat} {loader : Loader} {name : String}
    {place : Place} {bytes : ByteArray} (later : List (Nat × Call))
    (hloader : layers.loaderAt? index = some loader)
    (hindexed : place ∈ loader.sources.places name)
    (hreadable : place.read layers.volume loader.options.maxUnitSize = .ok bytes)
    (hstill : layers.Still) (hlater : ∀ one ∈ later, edits one.2 = false) {one : Call}
    (hone : wanted? one = some name) :
    ∃ unit, loaded?
      ((layers.after ((index, .forgetMisses) :: later)).call index one).reply = some unit := by
  obtain ⟨layer, hlayer, rfl⟩ := Option.map_eq_some_iff.mp hloader
  have hclear := call_forgetMisses hlayer
  -- No lookup waits at the clear, so there are no tickets to speak of.
  have hfindable : Scene.Findable name place bytes
      (Scene.next ⟨layer.loader, layers.volume, [], 0⟩ .forgetMisses) :=
    Scene.findable_of_clear (fun _ _ hmem => absurd hmem List.not_mem_nil) hindexed hreadable
  generalize hcleared : layers.setLoader index layer.loader.forgetMisses.loader = cleared at hclear
  have hcalm : cleared.Still := hcleared ▸ hstill.setLoader index _
  have hleads := cleared.after_leads index later
  obtain ⟨loader', hloader', hhistory⟩ :=
    hleads.history _ (hcleared ▸ loaderAt?_setLoader_self _ hlayer)
  obtain ⟨history, begun, hafter, hfiles⟩ := hhistory [] 0
  have hfound : Scene.Findable name place bytes
      ⟨loader', (cleared.after later).volume, [], begun⟩ := by
    subst hcleared
    exact hafter ▸ hfindable.after (hfiles hlater hcalm)
  rw [after_cons, hclear]
  exact hfound.loaded hloader' (hleads.still hcalm) hone

end Layers

namespace Scene

/-! ## Both for all histories -/

/-- Every remembered miss was made by a lookup that took its ticket after the last clear. So if a
unit was indexed before a clear, and its place can be read and the files have not changed since,
every later lookup of it succeeds, whatever was asked before the clear and answered after it, and
every call that asks for it gets it. The same holds in a stack of loaders in which the misses of
one are cleared by a call, whatever calls to any of the loaders come after it. -/
theorem no_stale_miss (start : Scene) (hmisses : start.loader.memo.misses = .empty)
    (hwaiting : start.waiting = []) :
    (∀ history name miss,
      (start.after history).loader.memo.misses.get? name = some miss →
        MadeSinceClear start history name miss) ∧
    (∀ before later name place bytes,
      place ∈ (start.after before).loader.sources.places name →
      place.read (start.after before).volume
        (start.after before).loader.options.maxUnitSize = .ok bytes →
      (∀ volume, .change volume ∉ later) →
        Finds (start.after (before ++ .forgetMisses :: later)) name ∧
        ∀ (layers : Layers) (index : Nat),
          layers.loaderAt? index =
            some (start.after (before ++ .forgetMisses :: later)).loader →
          layers.volume = (start.after (before ++ .forgetMisses :: later)).volume →
          layers.Still → ∀ one, Layers.wanted? one = some name →
            ∃ unit, Layers.loaded? (layers.call index one).reply = some unit) ∧
    (∀ history name place bytes,
      place ∈ (start.after history).loader.sources.places name →
      place.read (start.after history).volume
        (start.after history).loader.options.maxUnitSize = .ok bytes →
      ∀ (layers : Layers) (index : Nat) (later : List (Nat × Call)),
        layers.loaderAt? index = some (start.after history).loader →
        layers.volume = (start.after history).volume → layers.Still →
        (∀ one ∈ later, Layers.edits one.2 = false) → ∀ one, Layers.wanted? one = some name →
          ∃ unit, Layers.loaded?
            ((layers.after ((index, .forgetMisses) :: later)).call index one).reply =
              some unit) := by
  refine ⟨?_, ?_, ?_⟩
  · intro history name miss h
    exact made_since_clear history hmisses hwaiting h
  · -- No ticket is of a generation that is still to come, since nothing waits at the start. So a
    -- lookup that was begun before the clear stores nothing after it.
    intro before later name place bytes hindexed hreadable hfiles
    have hdated : Dated (start.after before) := by
      refine after_induction (motive := Dated) before ?_ fun _ one h => dated_next h one
      intro number ticket hmem
      rw [hwaiting] at hmem
      exact absurd hmem List.not_mem_nil
    have hfindable : Findable name place bytes
        (start.after (before ++ .forgetMisses :: later)) := by
      rw [after_append]
      exact (findable_of_clear hdated hindexed hreadable).after hfiles
    refine ⟨hfindable.finds, ?_⟩
    intro layers index hloader hvolume hstill one hone
    generalize start.after (before ++ .forgetMisses :: later) = scene at hfindable hloader hvolume
    obtain ⟨loader, volume, waiting, begun⟩ := scene
    subst hvolume
    exact hfindable.loaded hloader hstill hone
  · intro history name place bytes hindexed hreadable layers index later hloader hvolume hstill
      hlater one hone
    exact Layers.loaded_after_clear later hloader hindexed (hvolume ▸ hreadable) hstill hlater hone

/-- A directory with one unit. -/
def shelf : Volume :=
  { root := .directory [("lib", .directory [("a.unit", .file 0)])], contents := #[⟨#[1]⟩] }

/-- A loader that has no sources and remembers nothing, over the shelf. -/
def blank : Scene := ⟨.create 0 {} {}, shelf, [], 0⟩

/-- The directory is registered and the misses are cleared while the first lookup of its unit
waits. -/
def late : Scene :=
  blank.after ([.ask "a", .registerDirectory "/lib"] ++ .forgetMisses :: [.answer 0 none])

/-- The unit is missed before its directory is registered, and the miss is still there. -/
def missedEarly : Scene := blank.after [.ask "a", .answer 0 none, .registerDirectory "/lib"]

/-- The loader of a scene with no host, in a stack of its own. -/
def alone (scene : Scene) : Layers := ⟨scene.volume, [⟨scene.loader, .none⟩]⟩

theorem still_alone (scene : Scene) : scene.alone.Still := by
  intro index embedder hhost
  cases index <;> cases hhost

/-- The first lookup fails on its old sources and leaves no miss, and the next one succeeds. Where a
miss was left earlier, the unit is found after a clear. -/
theorem no_stale_miss_late :
    Finds late "a" ∧
    (∃ unit, Layers.loaded? (late.alone.call 0 (.load "a" false)).reply = some unit) ∧
    MadeSinceClear blank [.ask "b", .answer 0 none] "b" ⟨⟨0, 1⟩, Loader.missOf "b" {}⟩ ∧
    Layers.loaded? (missedEarly.alone.call 0 (.find "a")).reply = none ∧
    ∃ unit, Layers.loaded? ((missedEarly.alone.after [(0, .forgetMisses), (0, .find "b")]).call 0
      (.find "a")).reply = some unit := by
  obtain ⟨hmade, hfinds, hclears⟩ := no_stale_miss blank rfl rfl
  have hplaces : (blank.after [.ask "a", .registerDirectory "/lib"]).loader.sources.places
      "a" = [.file "/lib" "/lib/a.unit"] := by cbv
  obtain ⟨hlookups, hcalls⟩ := hfinds [.ask "a", .registerDirectory "/lib"] [.answer 0 none] "a"
    (.file "/lib" "/lib/a.unit") ⟨#[1]⟩ (by rw [hplaces]; exact List.mem_singleton_self _) (by cbv)
    (by simp)
  have hplacesEarly : missedEarly.loader.sources.places "a" = [.file "/lib" "/lib/a.unit"] := by cbv
  refine ⟨hlookups, hcalls late.alone 0 rfl rfl late.still_alone (.load "a" false) rfl,
    hmade _ "b" _ (by cbv), by cbv, ?_⟩
  exact hclears [.ask "a", .answer 0 none, .registerDirectory "/lib"] "a"
    (.file "/lib" "/lib/a.unit") ⟨#[1]⟩ (hplacesEarly ▸ List.mem_singleton_self _) (by cbv)
    missedEarly.alone 0 [(0, .find "b")] rfl rfl missedEarly.still_alone (by simp [Layers.edits])
    (.find "a") rfl

end Scene

end LayeredUnits
