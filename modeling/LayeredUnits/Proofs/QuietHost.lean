import LayeredUnits.Proofs.Binding

/-!
# Lookups over a host that only answers

A host is quiet if it does nothing but answer: it is no loader, and it makes no
calls while it is asked. Over a quiet host a lookup runs straight through from
its beginning to its end, and `Loader.resolve` is that run as one function of
the loader and the host's answer.

* `lookUp_of_quiet`, `load_of_quiet`, `find_of_quiet` — over a quiet host a call
  for a unit is `resolve`, and the host stays quiet and has the same units.
* `tryPlaces_append` — places that cannot be read are skipped with a warning
  each.
* `resolve_of_answer`, `resolve_of_own`, `resolve_of_nothing` — what a lookup
  comes to for a name that is not bound and whose miss is not remembered.
-/

namespace LayeredUnits

namespace Host

/-- The host answers and does nothing else. Then a call can be described by a function of the
loader, with no history in between. -/
def IsQuiet : Host → Prop
  | .none => True
  | .loader _ => False
  | .embedder program => ∀ habit ∈ program.habits, habit.2 = []

/-- The unit that a quiet host has. It does not depend on how often it was asked. -/
def unit? (host : Host) (name : String) : Option (Shared CodeUnit) :=
  match host with
  | .embedder program => program.units.lookup name
  | _ => Option.none

/-- The locations that a quiet host has of a resource. -/
def locations (host : Host) (name : String) : List Location :=
  match host with
  | .embedder program => program.locations name
  | _ => []

/-- The location that a quiet host answers for a resource: the first that it has. -/
def location? (host : Host) (name : String) : Option Location := (host.locations name).head?

/-- A quiet host that has what another one has. A host that has taken a note is such a one. -/
structure Succeeds (host old : Host) : Prop where
  quiet : host.IsQuiet
  units : ∀ name, host.unit? name = old.unit? name
  locations : ∀ name, host.locations name = old.locations name

theorem IsQuiet.succeeds {host : Host} (h : host.IsQuiet) : host.Succeeds host :=
  ⟨h, fun _ => rfl, fun _ => rfl⟩

theorem Succeeds.trans {first second third : Host} (h₁ : second.Succeeds first)
    (h₂ : third.Succeeds second) : third.Succeeds first :=
  ⟨h₂.quiet, fun name => (h₂.units name).trans (h₁.units name),
    fun name => (h₂.locations name).trans (h₁.locations name)⟩

end Host

theorem Embedder.currentHabit_of_quiet {embedder : Embedder}
    (h : ∀ habit ∈ embedder.habits, habit.2 = []) : embedder.currentHabit = [] := by
  unfold Embedder.currentHabit
  rw [List.flatMap_eq_nil_iff]
  intro habit hhabit
  exact h habit (List.mem_filter.mp hhabit).1

/-! ## A lookup from its beginning to its end -/

namespace Loader

/-- A lookup whose host gives this answer if it is asked. Both parts of the lookup are run at the
same loader. -/
def resolve (loader : Loader) (volume : Volume) (name : String)
    (answer : Option (Shared CodeUnit)) : Turn (Except Fault (Shared CodeUnit)) :=
  match loader.beginLookup name with
  | ⟨.answered result, loader, events⟩ => ⟨result, loader, events⟩
  | ⟨.waiting ticket, loader, events⟩ =>
    let ⟨result, loader, more⟩ := loader.finishLookup volume ticket answer
    ⟨result, loader, events ++ more⟩

/-- The loader when a lookup has turned to the host. Only a counter tells it from the one before. -/
def asking (loader : Loader) : Loader :=
  loader.count fun c => { c with hostLookups := c.hostLookups + 1 }

/-- Neither a unit nor a miss is known for the name, whether or not misses count. -/
structure Unknown (loader : Loader) (name : String) : Prop where
  unbound : loader.binding? name = none
  unmissed : loader.memo.misses.get? name = none

/-- No lookup of the name is answered from what is remembered. A stored miss does no harm where
misses do not count. -/
structure Unrecalled (loader : Loader) (name : String) : Prop where
  unbound : loader.binding? name = none
  unmissed : (if loader.options.remembersMisses then loader.memo.misses.get? name else none) = none

theorem Unknown.unrecalled {loader : Loader} {name : String} (h : loader.Unknown name) :
    loader.Unrecalled name := by
  refine ⟨h.unbound, ?_⟩
  rw [h.unmissed]
  exact ite_self none

/-- The ticket of a lookup that begins now, with the sources and the generation of this moment. -/
def ticketFor (loader : Loader) (name : String) : Ticket :=
  ⟨name, loader.generation, loader.sources⟩

theorem beginLookup_of_unrecalled {loader : Loader} {name : String} (h : loader.Unrecalled name) :
    loader.beginLookup name = ⟨.waiting (loader.ticketFor name), loader.asking, []⟩ := by
  have hunit : loader.memo.units.get? name = none := h.unbound
  simp only [beginLookup, hunit, h.unmissed]
  rfl

theorem resolve_of_unrecalled {loader : Loader} {name : String} (volume : Volume)
    (answer : Option (Shared CodeUnit)) (h : loader.Unrecalled name) :
    loader.resolve volume name answer =
      loader.asking.finishLookup volume (loader.ticketFor name) answer := by
  unfold resolve
  rw [beginLookup_of_unrecalled h]
  rfl

end Loader

namespace Layers

/-- The layers with another one at a place. -/
def setLayer (layers : Layers) (index : Nat) (layer : Layer) : Layers :=
  { layers with layers := layers.layers.set index layer }

@[simp] theorem volume_setLayer (layers : Layers) (index : Nat) (layer : Layer) :
    (layers.setLayer index layer).volume = layers.volume := rfl

@[simp] theorem setLayer_setLayer (layers : Layers) (index : Nat) (first second : Layer) :
    (layers.setLayer index first).setLayer index second = layers.setLayer index second := by
  unfold setLayer
  simp

theorem layer_setLayer_self {layers : Layers} {index : Nat} {old : Layer} (layer : Layer)
    (h : layers.layers[index]? = some old) :
    (layers.setLayer index layer).layers[index]? = some layer := by
  unfold setLayer
  rw [List.getElem?_set_self (List.getElem?_eq_some_iff.mp h).1]

theorem layer_setLayer_of_ne (layers : Layers) {index place : Nat} (layer : Layer)
    (h : place ≠ index) : (layers.setLayer index layer).layers[place]? = layers.layers[place]? := by
  unfold setLayer
  rw [List.getElem?_set_ne h.symm]

theorem setLayer_same {layers : Layers} {index : Nat} {layer : Layer}
    (h : layers.layers[index]? = some layer) : layers.setLayer index layer = layers := by
  obtain ⟨hlt, rfl⟩ := List.getElem?_eq_some_iff.mp h
  unfold setLayer
  rw [List.set_getElem_self]

private theorem modify_of_some {α : Type} {list : List α} {index : Nat} {held : α} (change : α → α)
    (h : list[index]? = some held) : list.modify index change = list.set index (change held) := by
  have : Inhabited α := ⟨held⟩
  rw [List.modify_eq_set, h]
  rfl

/-- To change the loader of a layer is to put another layer there. -/
theorem setLoader_eq {layers : Layers} {index : Nat} {layer : Layer} (loader : Loader)
    (h : layers.layers[index]? = some layer) :
    layers.setLoader index loader = layers.setLayer index { layer with loader := loader } := by
  unfold setLoader setLayer
  rw [modify_of_some _ h]

theorem setHost_eq {layers : Layers} {index : Nat} {layer : Layer} (host : Host)
    (h : layers.layers[index]? = some layer) :
    layers.setHost index host = layers.setLayer index { layer with host := host } := by
  unfold setHost setLayer
  rw [modify_of_some _ h]

theorem hostAt_of_some {layers : Layers} {index : Nat} {layer : Layer}
    (h : layers.layers[index]? = some layer) : layers.hostAt index = layer.host := by
  unfold hostAt
  rw [h]

/-! ## Quiet hosts -/

/-- A quiet host that is asked for a unit answers, and at most takes a note. -/
theorem askUnit_of_quiet (call : Caller) {layers : Layers} {index : Nat} {layer : Layer}
    (name : String) (hlayer : layers.layers[index]? = some layer) (hquiet : layer.host.IsQuiet) :
    ∃ host : Host, host.Succeeds layer.host ∧
      askUnit call layers index name =
        ⟨layer.host.unit? name, layers.setLayer index { layer with host := host }, []⟩ := by
  obtain ⟨loader, host⟩ := layer
  unfold askUnit
  rw [hostAt_of_some hlayer]
  cases host with
  | none => exact ⟨.none, hquiet.succeeds, by rw [setLayer_same hlayer]; rfl⟩
  | loader parent => exact absurd hquiet id
  | embedder embedder =>
    refine ⟨.embedder (embedder.askUnit name), ⟨hquiet, fun _ => rfl, fun _ => rfl⟩, ?_⟩
    have hidle : (embedder.askUnit name).currentHabit = [] :=
      Embedder.currentHabit_of_quiet hquiet
    dsimp only
    rw [hidle, setHost_eq _ hlayer]
    rfl

/-- A quiet host that is not asked is as it was. -/
theorem kept_of_quiet {layers : Layers} {index : Nat} {layer : Layer}
    (hlayer : layers.layers[index]? = some layer) (hquiet : layer.host.IsQuiet) :
    ∃ host : Host, host.Succeeds layer.host ∧
      layers = layers.setLayer index { layer with host := host } :=
  ⟨layer.host, hquiet.succeeds, (setLayer_same hlayer).symm⟩

/-- Linking makes a quiet host at most take a note, and no loader changes. -/
theorem link_of_quiet {layers : Layers} {index : Nat} {layer : Layer} (name : String)
    (fuel : Nat) (hlayer : layers.layers[index]? = some layer) (hquiet : layer.host.IsQuiet) :
    ∃ host : Host, host.Succeeds layer.host ∧
      layers.link name fuel index = layers.setLayer index { layer with host := host } := by
  have hkept := kept_of_quiet hlayer hquiet
  cases fuel with
  | zero => exact hkept
  | succ fuel =>
    obtain ⟨loader, host⟩ := layer
    unfold link
    rw [hostAt_of_some hlayer]
    cases host with
    | none => exact hkept
    | loader parent => exact absurd hquiet id
    | embedder embedder =>
      refine ⟨.embedder (embedder.link name), ?_, setHost_eq _ hlayer⟩
      unfold Embedder.link
      split
      · exact hquiet.succeeds
      · exact ⟨hquiet, fun _ => rfl, fun _ => rfl⟩

/-- Over a quiet host a lookup runs straight through: its second part finds the loader that its
first part has left. -/
theorem lookUp_of_quiet (call : Caller) {layers : Layers} {index : Nat} {layer : Layer}
    (name : String) (hlayer : layers.layers[index]? = some layer) (hquiet : layer.host.IsQuiet) :
    ∃ host : Host, host.Succeeds layer.host ∧
      let turn := layer.loader.resolve layers.volume name (layer.host.unit? name)
      lookUp call layers index name =
        ⟨turn.reply, layers.setLayer index ⟨turn.loader, host⟩, turn.events⟩ := by
  unfold lookUp Loader.resolve
  simp only [hlayer]
  obtain ⟨beginning, loader, events⟩ := layer.loader.beginLookup name
  cases beginning with
  | answered result =>
    exact ⟨layer.host, hquiet.succeeds, by dsimp only; rw [setLoader_eq loader hlayer]⟩
  | waiting ticket =>
    have hasking := layer_setLayer_self { layer with loader := loader } hlayer
    obtain ⟨host, hhost, hasked⟩ := askUnit_of_quiet call name hasking hquiet
    refine ⟨host, hhost, ?_⟩
    have hwaiting : (layers.setLayer index ⟨loader, host⟩).layers[index]? = some ⟨loader, host⟩ :=
      layer_setLayer_self _ hlayer
    dsimp only
    rw [setLoader_eq loader hlayer, hasked]
    simp only [setLayer_setLayer, hwaiting, settle, setLoader_eq _ hwaiting, List.append_nil,
      volume_setLayer]

/-- So does a load, whether or not the host has to link the unit. -/
theorem load_of_quiet {layers : Layers} {index : Nat} {layer : Layer} (name : String)
    (wantsLink : Bool) (hlayer : layers.layers[index]? = some layer)
    (hquiet : layer.host.IsQuiet) :
    ∃ host : Host, host.Succeeds layer.host ∧
      let turn := layer.loader.resolve layers.volume name (layer.host.unit? name)
      layers.call index (.load name wantsLink) =
        ⟨.unit turn.reply, layers.setLayer index ⟨turn.loader, host⟩, turn.events⟩ := by
  obtain ⟨depth, hdepth⟩ := layers.exists_depth
  obtain ⟨host, hhost, hlooked⟩ := lookUp_of_quiet (callWithin depth) name hlayer hquiet
  rw [hdepth]
  unfold callWithin perform
  dsimp only at hlooked ⊢
  rw [hlooked]
  generalize layer.loader.resolve layers.volume name (layer.host.unit? name) = turn
  obtain ⟨reply, loader, events⟩ := turn
  cases reply with
  | error fault => exact ⟨host, hhost, rfl⟩
  | ok unit =>
    cases wantsLink with
    | false => exact ⟨host, hhost, rfl⟩
    | true =>
      -- The host that has answered is asked once more, to link.
      obtain ⟨linked, hlinked, heq⟩ := link_of_quiet unit.value.name
        (layers.setLayer index ⟨loader, host⟩).layers.length
        (layer_setLayer_self ⟨loader, host⟩ hlayer) hhost.quiet
      refine ⟨linked, hhost.trans hlinked, ?_⟩
      dsimp only at heq ⊢
      rw [if_pos rfl, heq, setLayer_setLayer]

/-- What a call replies that asks for a unit which need not exist. -/
def foundReply : Except Fault (Shared CodeUnit) → Reply
  | .ok unit => .found (.ok (some unit))
  | .error fault => .found (if fault.isNotFound then .ok none else .error fault)

theorem find_eq (call : Caller) (layers : Layers) (index : Nat) (name : String) :
    perform call layers index (.find name) =
      ⟨foundReply (lookUp call layers index name).reply, (lookUp call layers index name).layers,
        (lookUp call layers index name).events⟩ := by
  unfold perform
  dsimp only
  obtain ⟨reply, looked, events⟩ := lookUp call layers index name
  cases reply <;> rfl

theorem find_of_quiet {layers : Layers} {index : Nat} {layer : Layer} (name : String)
    (hlayer : layers.layers[index]? = some layer) (hquiet : layer.host.IsQuiet) :
    ∃ host : Host, host.Succeeds layer.host ∧
      let turn := layer.loader.resolve layers.volume name (layer.host.unit? name)
      layers.call index (.find name) =
        ⟨foundReply turn.reply, layers.setLayer index ⟨turn.loader, host⟩, turn.events⟩ := by
  obtain ⟨depth, hdepth⟩ := layers.exists_depth
  obtain ⟨host, hhost, hlooked⟩ := lookUp_of_quiet (callWithin depth) name hlayer hquiet
  refine ⟨host, hhost, ?_⟩
  rw [hdepth]
  unfold callWithin
  rw [find_eq, hlooked]

end Layers

/-! ## What a lookup comes to -/

namespace Loader

/-- The warnings for copies that cannot be read. -/
def skips (volume : Volume) (limit : Nat) (name : String) (places : List Place) : List Event :=
  places.filterMap fun place =>
    match place.read volume limit with
    | .ok _ => none
    | .error fault => some (.copySkipped place.text name fault)

/-- Places that cannot be read are skipped with a warning each, and the search goes on. -/
theorem tryPlaces_append {volume : Volume} {failed : List Place} (name : String)
    (rest : List Place) : ∀ loader : Loader,
    Unreadable volume loader.options.maxUnitSize failed →
      loader.tryPlaces volume name (failed ++ rest) =
        let turn := (loader.readTimes failed.length).tryPlaces volume name rest
        ⟨turn.reply, turn.loader,
          skips volume loader.options.maxUnitSize name failed ++ turn.events⟩ := by
  induction failed with
  | nil =>
    intro loader _
    rfl
  | cons place failed ih =>
    intro loader hunread
    obtain ⟨fault, hfault⟩ := hunread place List.mem_cons_self
    have hrest : Unreadable volume (loader.readTimes 1).options.maxUnitSize failed :=
      fun other hother => hunread other (List.mem_cons_of_mem place hother)
    have hsearch := ih (loader.readTimes 1) hrest
    rw [readTimes_succ] at hsearch
    unfold readTimes at hsearch
    rw [List.cons_append]
    simp only [tryPlaces, count, hfault, skips, List.filterMap_cons, List.length_cons] at hsearch ⊢
    rw [hsearch]
    rfl

/-! ### The search of the sources

What a search finds does not depend on what has been counted before.
-/

theorem package_counters (loader : Loader) (counters : Counters) (volume : Volume) (number : Nat)
    (archive : Archive) :
    ({ loader with counters := counters } : Loader).package volume number archive =
      let turn := loader.package volume number archive
      ⟨turn.reply, { turn.loader with counters := counters }, turn.events⟩ := by
  unfold package
  cases loader.packages.lookup number <;> rfl

theorem domainAt_counters (loader : Loader) (counters : Counters) (volume : Volume)
    (place : Place) :
    ({ loader with counters := counters } : Loader).domainAt volume place =
      let turn := loader.domainAt volume place
      ⟨turn.reply, { turn.loader with counters := counters }, turn.events⟩ := by
  cases place with
  | file root path => rfl
  | entry number archive name =>
    unfold domainAt domainOf
    dsimp only
    cases loader.domains.get? archive.origin with
    | some domain => rfl
    | none =>
      dsimp only
      rw [package_counters]
      rfl

theorem define_counters (loader : Loader) (counters : Counters) (volume : Volume) (name : String)
    (bytes : ByteArray) (place : Place) :
    (({ loader with counters := counters } : Loader).define volume name bytes place).reply =
      (loader.define volume name bytes place).reply := by
  unfold define
  rw [domainAt_counters]
  rfl

theorem tryPlaces_counters (volume : Volume) (name : String) (places : List Place) :
    ∀ (loader : Loader) (counters : Counters),
      (({ loader with counters := counters } : Loader).tryPlaces volume name places).reply =
        (loader.tryPlaces volume name places).reply := by
  induction places with
  | nil =>
    intro loader counters
    rfl
  | cons place rest ih =>
    intro loader counters
    cases hread : place.read volume loader.options.maxUnitSize with
    | ok bytes =>
      have hother := @tryPlaces_of_ok { loader with counters := counters } _ _ _ name rest hread
      rw [hother.1, (tryPlaces_of_ok name rest hread).1]
      refine congrArg some ?_
      exact (define_counters loader ..).trans (define_counters loader ..).symm
    | error fault =>
      have hother := @tryPlaces_of_error { loader with counters := counters } _ _ _ name rest hread
      rw [hother.1, (tryPlaces_of_error name rest hread).1]
      exact (ih loader _).trans (ih loader _).symm

/-- The unit that a loader finds in its own sources, if it has to define it now. -/
def ownUnit? (loader : Loader) (volume : Volume) (name : String) : Option (Shared CodeUnit) :=
  (loader.tryPlaces volume name (loader.sources.places name)).reply

/-- A unit that is found is bound, unless another one was bound before. -/
theorem binding_of_tryPlaces {loader : Loader} {volume : Volume} {name : String}
    {places : List Place} {unit : Shared CodeUnit}
    (h : (loader.tryPlaces volume name places).reply = some unit) :
    (loader.tryPlaces volume name places).loader.binding? name = some unit := by
  rcases tryPlaces_cases volume name places loader with
    ⟨-, hnone, -⟩ | ⟨failed, place, rest, bytes, -, -, -, hreply, hloader⟩
  · cases hnone.symm.trans h
  · -- The reply of a definition is the unit that is bound after it.
    obtain ⟨defined, domains, packages, issued, -, -, -, hkept, hdefined⟩ :=
      define_eq (loader.readTimes (failed.length + 1)) volume name bytes place
    have hunit : (loader.readTimes (failed.length + 1)).memo.boundUnit name defined = unit :=
      hkept.symm.trans (Option.some.inj (hreply.symm.trans h))
    rw [hloader, hdefined, ← hunit]
    exact Table.get?_insertNew_self ..

/-! ### The three ends -/

/-- The host has the unit: it is bound, and the sources are not searched. -/
theorem resolve_of_answer {loader : Loader} {name : String} (volume : Volume)
    (unit : Shared CodeUnit) (h : loader.Unrecalled name) :
    loader.resolve volume name (some unit) =
      ⟨.ok unit, { loader.asking with memo := (loader.memo.intern name).insertUnit name unit }, []⟩ := by
  have hkept : loader.memo.boundUnit name unit = unit := Table.kept_of_none unit h.unbound
  rw [resolve_of_unrecalled volume (some unit) h]
  unfold finishLookup
  dsimp only
  rw [show loader.asking.memo = loader.memo from rfl]
  exact congrArg (fun kept => Turn.mk (Except.ok kept) _ []) hkept

/-- The host does not have the unit, and the search finds it. The unit that is defined is bound and
replied. -/
theorem resolve_of_found {loader : Loader} {volume : Volume} {name : String}
    {unit : Shared CodeUnit} (h : loader.Unrecalled name)
    (hfound : (loader.asking.searching.tryPlaces volume name (loader.sources.places name)).reply =
      some unit) :
    (loader.resolve volume name none).reply = .ok unit ∧
      (loader.resolve volume name none).loader =
        (loader.asking.searching.tryPlaces volume name (loader.sources.places name)).loader := by
  rw [resolve_of_unrecalled volume none h]
  exact @finishLookup_of_found loader.asking volume (loader.ticketFor name) _ unit hfound rfl

/-- The host does not have the unit, but a source does. -/
theorem resolve_of_own {loader : Loader} {volume : Volume} {name : String}
    {unit : Shared CodeUnit} (h : loader.Unrecalled name)
    (hown : loader.ownUnit? volume name = some unit) :
    (loader.resolve volume name none).reply = .ok unit ∧
      (loader.resolve volume name none).loader.binding? name = some unit := by
  have hfound : (loader.asking.searching.tryPlaces volume name (loader.sources.places name)).reply =
      some unit := (tryPlaces_counters volume name _ loader _).trans hown
  obtain ⟨hreply, hloader⟩ := resolve_of_found h hfound
  refine ⟨hreply, ?_⟩
  rw [hloader]
  exact binding_of_tryPlaces hfound

/-- Places none of which can be read have no unit. Each is tried, counted and told of. -/
theorem tryPlaces_of_unreadable {loader : Loader} {volume : Volume} {places : List Place}
    (name : String) (h : Unreadable volume loader.options.maxUnitSize places) :
    (loader.tryPlaces volume name places).reply = none ∧
      (loader.tryPlaces volume name places).loader = loader.readTimes places.length := by
  have hsearch := tryPlaces_append name [] loader h
  rw [List.append_nil] at hsearch
  rw [hsearch]
  exact ⟨rfl, rfl⟩

theorem unreadable_of_tryPlaces {loader : Loader} {volume : Volume} {name : String}
    {places : List Place} (h : (loader.tryPlaces volume name places).reply = none) :
    Unreadable volume loader.options.maxUnitSize places := by
  rcases tryPlaces_cases volume name places loader with
    ⟨hall, -, -⟩ | ⟨failed, place, rest, bytes, -, -, -, hsome, -⟩
  · exact hall
  · cases hsome.symm.trans h

/-- The loader when a search has read every copy of a unit in vain. -/
def searched (loader : Loader) (name : String) : Loader :=
  loader.asking.searching.readTimes (loader.sources.places name).length

/-- Nobody has the unit. The record says so, and it may be remembered. -/
theorem resolve_of_unreadable {loader : Loader} {volume : Volume} {name : String}
    (h : loader.Unrecalled name)
    (hunread : Unreadable volume loader.options.maxUnitSize (loader.sources.places name)) :
    (loader.resolve volume name none).reply =
        .error (.unitNotFound ((loader.searched name).recordMiss (loader.ticketFor name)).reply) ∧
      (loader.resolve volume name none).loader =
        ((loader.searched name).recordMiss (loader.ticketFor name)).loader := by
  obtain ⟨hnone, hsearched⟩ :=
    @tryPlaces_of_unreadable loader.asking.searching volume _ name hunread
  rw [resolve_of_unrecalled volume none h]
  exact @finishLookup_of_missing loader.asking volume (loader.ticketFor name) _ hnone hsearched

/-- The miss is remembered if the options allow it. Over a quiet host no clear can come
in between. -/
theorem resolve_of_nothing {loader : Loader} {volume : Volume} {name : String}
    (h : loader.Unknown name) (hown : loader.ownUnit? volume name = none) :
    ∃ miss : Shared Miss, miss.value = missOf name loader.sources ∧
      (loader.resolve volume name none).reply = .error (.unitNotFound miss) ∧
      (loader.resolve volume name none).loader.binding? name = none ∧
      (loader.resolve volume name none).loader.memo.misses.get? name =
        if loader.options.remembersMisses && loader.options.probes.remembersMiss name then
          some miss
        else none := by
  obtain ⟨hreply, hloader⟩ := resolve_of_unreadable h.unrecalled (unreadable_of_tryPlaces hown)
  have hallowed : (loader.searched name).mayRemember (loader.ticketFor name) =
      (loader.options.remembersMisses && loader.options.probes.remembersMiss name) := by
    unfold mayRemember
    exact (congrArg _ (beq_self_eq_true loader.generation)).trans (Bool.and_true _)
  rw [hreply, hloader, ← hallowed]
  refine ⟨_, ?_, rfl, ?_⟩
  all_goals
    rcases recordMiss_cases (loader.searched name) (loader.ticketFor name) with
      ⟨hmay, hkept, hstored⟩ | ⟨hmay, hfresh, hissued⟩
  · rw [hkept]
    exact congrArg Shared.value (Table.kept_of_none _ h.unmissed)
  · rw [hfresh]
    rfl
  · -- No record was there, so the one that is stored is the reply.
    rw [hstored, hkept, hmay]
    exact ⟨h.unbound, Table.get?_insertNew_self ..⟩
  · rw [hissued, hmay]
    exact ⟨h.unbound, h.unmissed⟩

end Loader

end LayeredUnits
