import LayeredUnits.Proofs.Locations

/-!
# The units that a loader defines

A loader defines a unit in one way only: a lookup waits, the host answers that
it has no such unit, and a copy among the sources of the ticket can be read.
`Scene.definitions` lists what a history defines, in order, also the units that
lose against one that is bound already. So a later module can say something
about every unit that has come from a source.

* `domainAt_finds` — how the domain of a place is found.
* `answered_without` — what comes of an answer that the host has nothing: one
  definition, or none.
* `next_of_definition`, `next_of_undefined` — a happening that defines a unit is
  such an answer, and one that does not leaves the domains as they are.
* `bound_from` — where a bound unit has come from.
* `numbered_next` — an entry among the places of a unit is in the archive that
  was registered under its number.
-/

namespace LayeredUnits

namespace Loader

/-! ## Finding the domain of a place -/

/-- How the domain of a place is found, and the loader afterwards. -/
inductive FindsDomain (loader : Loader) (volume : Volume) : Place → Shared Domain → Loader → Prop
  | home (root path : String) : FindsDomain loader volume (.file root path) loader.home loader
  /-- The origin has a domain. -/
  | held {number : Nat} {archive : Archive} {entry : String} {domain : Shared Domain}
      (hheld : loader.domains.get? archive.origin = some domain) :
      FindsDomain loader volume (.entry number archive entry) domain loader
  /-- The origin gets a domain, and the manifest has been read before. -/
  | recalled {number : Nat} {archive : Archive} {entry : String} {package : Package}
      {domain : Shared Domain} (hnew : loader.domains.get? archive.origin = none)
      (hknown : loader.packages.lookup number = some package)
      (hdomain : domain = ⟨loader.nextToken, .archive archive.origin package⟩) :
      FindsDomain loader volume (.entry number archive entry) domain
        { loader.issue with domains := loader.domains.insertNew archive.origin domain }
  /-- The origin gets a domain, and the manifest is read for it. -/
  | read {number : Nat} {archive : Archive} {entry : String} {package : Package}
      {domain : Shared Domain} (hnew : loader.domains.get? archive.origin = none)
      (hunread : loader.packages.lookup number = none)
      (hpackage : package = (archive.package volume).1)
      (hdomain : domain = ⟨loader.nextToken, .archive archive.origin package⟩) :
      FindsDomain loader volume (.entry number archive entry) domain
        { loader.issue with
          packages := (number, package) :: loader.packages
          domains := loader.domains.insertNew archive.origin domain }

theorem domainAt_finds (loader : Loader) (volume : Volume) (place : Place) :
    FindsDomain loader volume place (loader.domainAt volume place).reply
      (loader.domainAt volume place).loader := by
  cases place with
  | file root path => exact .home root path
  | entry number archive entry =>
    cases hdomain : loader.domains.get? archive.origin with
    | some domain =>
      simp only [domainAt, domainOf, hdomain]
      exact .held hdomain
    | none =>
      cases hpackage : loader.packages.lookup number with
      | some package =>
        simp only [domainAt, domainOf, hdomain, Loader.package, hpackage]
        exact .recalled hdomain hpackage rfl
      | none =>
        simp only [domainAt, domainOf, hdomain, Loader.package, hpackage]
        exact .read hdomain hpackage rfl rfl

/-! ## What a definition changes -/

/-- What a loader has of domains, and how many units it has defined. -/
structure Holdings where
  tag : Nat
  home : Shared Domain
  domains : Table (Shared Domain)
  packages : List (Nat × Package)
  definitions : Nat

/-- What a loader has of domains, and how many units it has defined. -/
def holdings (loader : Loader) : Holdings :=
  ⟨loader.tag, loader.home, loader.domains, loader.packages, loader.counters.definitions⟩

/-- Nothing is defined from one loader to the other, though other instances may be made. -/
structure DefinesNothing (loader later : Loader) : Prop where
  holdings : later.holdings = loader.holdings
  issued : loader.issued ≤ later.issued

theorem DefinesNothing.refl (loader : Loader) : loader.DefinesNothing loader :=
  ⟨rfl, Nat.le_refl _⟩

theorem recordMiss_definesNothing (loader : Loader) (ticket : Ticket) :
    loader.DefinesNothing (loader.recordMiss ticket).loader ∧
      (loader.recordMiss ticket).loader.memo.units = loader.memo.units := by
  rcases recordMiss_cases loader ticket with ⟨-, -, hrecord⟩ | ⟨-, -, hrecord⟩
  · rw [hrecord]
    exact ⟨⟨rfl, Nat.le_succ _⟩, rfl⟩
  · rw [hrecord]
    exact ⟨⟨rfl, Nat.le_succ _⟩, rfl⟩

theorem register_definesNothing {α : Type} {loader : Loader} (opened : Except Fault α × List Event)
    {add : α → Turn Nat} (hadd : ∀ source, loader.DefinesNothing (add source).loader) :
    loader.DefinesNothing (loader.register opened add).loader := by
  rw [ledger_register]
  split
  · exact .refl loader
  · exact hadd _

theorem rememberResource_definesNothing (loader : Loader) (name : String)
    (found : Option Location) :
    loader.DefinesNothing (loader.rememberResource name found).loader := by
  unfold rememberResource
  split <;> exact ⟨rfl, Nat.le_refl _⟩

theorem rememberList_definesNothing (loader : Loader) (name : String) (found : List Location) :
    loader.DefinesNothing (loader.rememberList name found).loader := by
  unfold rememberList
  split <;> exact ⟨rfl, Nat.le_refl _⟩

theorem beginLookup_definesNothing (loader : Loader) (name : String) :
    loader.DefinesNothing (loader.beginLookup name).loader := by
  unfold beginLookup
  split
  · exact ⟨rfl, Nat.le_refl _⟩
  · split <;> exact ⟨rfl, Nat.le_refl _⟩

theorem preload_definesNothing (loader : Loader) (unit : Shared CodeUnit) :
    loader.DefinesNothing (loader.preload unit).loader := ⟨rfl, Nat.le_refl _⟩

end Loader

/-- A definition: the copy of a unit that was read, and the loader and the files as they were. -/
structure Definition where
  loader : Loader
  volume : Volume
  name : String
  bytes : ByteArray
  place : Place

namespace Definition

/-- The domain that the unit gets, be it one that is there or one that is made for it. -/
def domain (one : Definition) : Shared Domain := (one.loader.domainAt one.volume one.place).reply

/-- The loader when the domain has been found. A manifest may have been read on the way. -/
def found (one : Definition) : Loader := (one.loader.domainAt one.volume one.place).loader

/-- The unit that is made. -/
def unit (one : Definition) : Shared CodeUnit :=
  ⟨one.found.nextToken, ⟨one.name, one.bytes, one.place.origin, one.domain⟩⟩

/-- The loader in the end, but for its counters, which no domain depends on. -/
def finished (one : Definition) (counters : Counters) : Loader :=
  { one.found.issue with
    memo := one.loader.memo.insertUnit one.name one.unit
    counters := counters }

theorem finds (one : Definition) :
    one.loader.FindsDomain one.volume one.place one.domain one.found :=
  Loader.domainAt_finds ..

end Definition

namespace Loader

/-- The definition that a search of these places ends with. There is none if no copy can be read. -/
def copy? (loader : Loader) (volume : Volume) (name : String) (places : List Place) :
    Option Definition :=
  places.findSome? fun place =>
    (place.read volume loader.options.maxUnitSize).toOption.map fun bytes =>
      ⟨loader, volume, name, bytes, place⟩

theorem copy?_of_unreadable {loader : Loader} {volume : Volume} {places : List Place}
    (name : String) (h : Unreadable volume loader.options.maxUnitSize places) :
    loader.copy? volume name places = none := by
  unfold copy?
  rw [List.findSome?_eq_none_iff]
  intro place hplace
  obtain ⟨fault, hread⟩ := h place hplace
  rw [hread]
  rfl

theorem copy?_of_first {loader : Loader} {volume : Volume} {failed : List Place} {place : Place}
    {bytes : ByteArray} (name : String) (rest : List Place)
    (hfailed : Unreadable volume loader.options.maxUnitSize failed)
    (hread : place.read volume loader.options.maxUnitSize = .ok bytes) :
    loader.copy? volume name (failed ++ place :: rest) =
      some ⟨loader, volume, name, bytes, place⟩ := by
  have hnone := copy?_of_unreadable name hfailed
  unfold copy? at hnone ⊢
  rw [List.findSome?_append, hnone, List.findSome?_cons, hread]
  rfl

/-- What `define` does is the definition with these arguments, whatever has been counted
before. -/
theorem define_finished (loader : Loader) (counters : Counters) (volume : Volume) (name : String)
    (bytes : ByteArray) (place : Place) :
    let one : Definition := ⟨loader, volume, name, bytes, place⟩
    let turn := ({ loader with counters := counters } : Loader).define volume name bytes place
    turn.reply = loader.memo.boundUnit name one.unit ∧
      turn.loader = one.finished { counters with definitions := counters.definitions + 1 } := by
  intro one turn
  have hmemo : one.found.memo = loader.memo := by
    obtain ⟨domains, packages, issued, hfound⟩ := domainAt_loader loader volume place
    unfold Definition.found
    rw [hfound]
  show turn.reply = loader.memo.boundUnit name one.unit ∧ _
  unfold turn define Definition.finished
  rw [domainAt_counters, ← hmemo]
  exact ⟨rfl, rfl⟩

end Loader

namespace Scene

/-! ## The definitions of a history -/

/-- What a happening defines, if it does. Only the end of a lookup can, and only if the host does
not have the unit. -/
def definition? (scene : Scene) : Happening → Option Definition
  | .answer number none =>
    match scene.waiting.lookup number with
    | some (.unit ticket) =>
      scene.loader.copy? scene.volume ticket.name (ticket.sources.places ticket.name)
    | _ => none
  | _ => none

/-- What a history defines, in order. A name may be among them twice, since a definition can come
too late. -/
def definitions (scene : Scene) : List Happening → List Definition
  | [] => []
  | one :: rest => (scene.definition? one).toList ++ (scene.next one).definitions rest

theorem definitions_concat (scene : Scene) (history : List Happening) (one : Happening) :
    scene.definitions (history ++ [one]) =
      scene.definitions history ++ ((scene.after history).definition? one).toList := by
  induction history generalizing scene with
  | nil => exact List.append_nil _
  | cons first rest ih =>
    rw [List.cons_append, definitions, definitions, ih, after_cons, List.append_assoc]

/-- What it is for an answer to define a unit: what was read, what was made of it, and what becomes
of the loader. -/
structure Defines (scene : Scene) (ticket : Ticket) (one : Definition) (done : Step) : Prop where
  loader : one.loader = scene.loader
  volume : one.volume = scene.volume
  name : one.name = ticket.name
  offered : one.place ∈ ticket.sources.places ticket.name
  read : one.place.read scene.volume scene.loader.options.maxUnitSize = .ok one.bytes
  outcome : done.outcome =
    .unit one.name (.ok (scene.loader.memo.boundUnit one.name one.unit))
  finished : ∃ counters, counters.definitions = scene.loader.counters.definitions + 1 ∧
    done.scene.loader = one.finished counters

/-- The host has nothing. Either a copy can be read, and the unit is defined and is the outcome
unless another is bound, or none can be read, and nothing is defined. -/
theorem answered_without {scene : Scene} {number : Nat} {ticket : Ticket}
    (h : scene.waiting.lookup number = some (.unit ticket)) :
    (∃ one, scene.definition? (.answer number none) = some one ∧
      Defines scene ticket one (scene.step (.answer number none))) ∨
    (scene.definition? (.answer number none) = none ∧
      (∃ miss, (scene.step (.answer number none)).outcome =
        .unit ticket.name (.error (.unitNotFound miss))) ∧
      scene.loader.DefinesNothing (scene.next (.answer number none)).loader ∧
      (scene.next (.answer number none)).loader.memo.units = scene.loader.memo.units) := by
  have hdefinition : scene.definition? (.answer number none) =
      scene.loader.copy? scene.volume ticket.name (ticket.sources.places ticket.name) := by
    simp only [definition?, h]
  unfold next
  rw [hdefinition, answer_of_waiting none h]
  rcases Loader.tryPlaces_cases scene.volume ticket.name (ticket.sources.places ticket.name)
      scene.loader.searching with
    ⟨hall, hreply, hloader⟩ | ⟨failed, place, rest, bytes, hplaces, hfailed, hread, hreply, hloader⟩
  · -- No copy can be read, and a record of that makes no domain.
    refine .inr ⟨Loader.copy?_of_unreadable _ hall, ?_⟩
    obtain ⟨hreply, hloader⟩ := Loader.finishLookup_of_missing hreply hloader
    obtain ⟨⟨hholdings, hissued⟩, hunits⟩ := Loader.recordMiss_definesNothing
      (scene.loader.searching.readTimes (ticket.sources.places ticket.name).length) ticket
    rw [settle, hreply, hloader]
    exact ⟨⟨_, rfl⟩, ⟨hholdings, hissued⟩, hunits⟩
  · -- A copy can be read. The places before it have been tried in vain, which only counts them.
    obtain ⟨hreply, hloader⟩ := Loader.finishLookup_of_found hreply hloader
    obtain ⟨hkept, hfinished⟩ := Loader.define_finished scene.loader
      (scene.loader.searching.readTimes (failed.length + 1)).counters scene.volume ticket.name
      bytes place
    refine .inl ⟨⟨scene.loader, scene.volume, ticket.name, bytes, place⟩, ?_, rfl, rfl, rfl, ?_,
      hread, ?_, _, ?_, hloader.trans hfinished⟩
    · rw [hplaces]
      exact Loader.copy?_of_first ticket.name rest hfailed hread
    · rw [hplaces]
      exact List.mem_append_right failed List.mem_cons_self
    · rw [settle, hreply]
      exact congrArg (fun unit => Outcome.unit ticket.name (.ok unit)) hkept
    · rfl

/-- The definition with which a lookup ends, if the host has nothing and a copy can be read. -/
theorem defines_of_waiting {scene : Scene} {number : Nat} {ticket : Ticket} {made : Definition}
    (h : scene.waiting.lookup number = some (.unit ticket))
    (hmade : scene.definition? (.answer number none) = some made) :
    Defines scene ticket made (scene.step (.answer number none)) := by
  rcases answered_without h with ⟨other, hother, hdefines⟩ | ⟨hnone, -⟩
  · cases hother.symm.trans hmade
    exact hdefines
  · cases hnone.symm.trans hmade

/-- A unit is defined only when a lookup waits, and the host has nothing. -/
theorem next_of_definition {scene : Scene} {one : Happening} {made : Definition}
    (h : scene.definition? one = some made) :
    ∃ number ticket, one = .answer number none ∧
      scene.waiting.lookup number = some (.unit ticket) ∧
      Defines scene ticket made (scene.step one) := by
  have hanswer : ∃ number ticket, one = .answer number none ∧
      scene.waiting.lookup number = some (.unit ticket) := by
    unfold definition? at h
    split at h
    · split at h
      · next ticket hwaiting => exact ⟨_, ticket, rfl, hwaiting⟩
      · cases h
    · cases h
  obtain ⟨number, ticket, rfl, hwaiting⟩ := hanswer
  exact ⟨number, ticket, rfl, hwaiting, defines_of_waiting hwaiting h⟩

/-- Any other happening leaves the domains as they are. So domains can be traced through definitions
alone. -/
theorem next_of_undefined {scene : Scene} {one : Happening} (h : scene.definition? one = none) :
    scene.loader.DefinesNothing (scene.next one).loader := by
  cases one with
  | ask name =>
    have hbegun := scene.loader.beginLookup_definesNothing name
    show scene.loader.DefinesNothing (scene.ask name).scene.loader
    unfold ask
    split <;> rename_i heq <;> rw [heq] at hbegun <;> exact hbegun
  | answer number found =>
    -- The one happening that may define. Either nothing waits under the number, or something else
    -- than a unit is looked up, or the host has one, or no copy can be read.
    cases hwaiting : scene.waiting.lookup number with
    | none =>
      show scene.loader.DefinesNothing (scene.answer number found).scene.loader
      simp only [answer, hwaiting]
      exact .refl _
    | some errand =>
      cases errand with
      | unit ticket =>
        cases found with
        | some unit =>
          unfold next
          rw [answer_of_waiting (some unit) hwaiting]
          exact ⟨rfl, Nat.le_refl _⟩
        | none =>
          rcases answered_without hwaiting with ⟨made, hmade, -⟩ | ⟨-, -, hnothing, -⟩
          · cases hmade.symm.trans h
          · exact hnothing
      | _ =>
        show scene.loader.DefinesNothing (scene.answer number found).scene.loader
        simp only [answer, hwaiting]
        exact .refl _
  | seek name =>
    -- Resources are remembered in tables of their own.
    show scene.loader.DefinesNothing (scene.seek _).scene.loader
    unfold seek
    split <;> exact .refl _
  | locate number found =>
    show scene.loader.DefinesNothing (scene.locate number found).scene.loader
    unfold locate
    split
    · exact scene.loader.rememberResource_definesNothing ..
    · exact .refl _
  | seekAll name =>
    show scene.loader.DefinesNothing (scene.seekAll _).scene.loader
    unfold seekAll
    split <;> exact .refl _
  | locateAll number found =>
    show scene.loader.DefinesNothing (scene.locateAll number found).scene.loader
    unfold locateAll
    split
    · exact scene.loader.rememberList_definesNothing ..
    · exact .refl _
  | preload unit => exact scene.loader.preload_definesNothing unit
  | registerDirectory path =>
    -- A source is registered without a look at its domain, which is made when it is needed.
    exact Loader.register_definesNothing _ fun source => ⟨rfl, Nat.le_refl _⟩
  | registerArchive path =>
    exact Loader.register_definesNothing _ fun source => ⟨rfl, Nat.le_refl _⟩
  | registerImage image origin =>
    exact Loader.register_definesNothing _ fun source => ⟨rfl, Nat.le_refl _⟩
  | forgetMisses => exact ⟨rfl, Nat.le_refl _⟩
  | change volume => exact .refl _

/-- Nothing takes the domain of the files away. It is made with the loader, once. -/
theorem home_next (scene : Scene) (one : Happening) :
    (scene.next one).loader.home = scene.loader.home := by
  cases hmade : scene.definition? one with
  | none => exact congrArg Loader.Holdings.home (next_of_undefined hmade).holdings
  | some made =>
    obtain ⟨number, ticket, -, -, hdefines⟩ := next_of_definition hmade
    obtain ⟨counters, -, hfinished⟩ := hdefines.finished
    obtain ⟨domains, packages, issued, hfound⟩ :=
      Loader.domainAt_loader made.loader made.volume made.place
    have hhome : made.found.home = made.loader.home := by
      unfold Definition.found
      rw [hfound]
    unfold next
    rw [hfinished]
    exact hhome.trans (congrArg Loader.home hdefines.loader)

theorem home_after (scene : Scene) (history : List Happening) :
    (scene.after history).loader.home = scene.loader.home :=
  after_induction (motive := fun s => s.loader.home = scene.loader.home) history rfl
    fun s one h => (home_next s one).trans h

/-! ## Where bound units come from -/

/-- A unit that is bound was bound before, or it is bound directly, or the host has it, or it is
defined. -/
theorem bound_next {scene : Scene} {one : Happening} {name : String} {unit : Shared CodeUnit}
    (h : (scene.next one).loader.binding? name = some unit) :
    scene.loader.binding? name = some unit ∨ one = .preload unit ∨
      (∃ number, one = .answer number (some unit)) ∨
      ∃ made, scene.definition? one = some made ∧ made.unit = unit := by
  have hinserted : ∀ (key : String) (added : Shared CodeUnit),
      (scene.loader.memo.units.insertNew key added).get? name = some unit →
        scene.loader.binding? name = some unit ∨ added = unit := by
    intro key added hget
    rw [Table.get?_insertNew] at hget
    split at hget
    · next hname =>
      subst hname
      cases hheld : scene.loader.memo.units.get? name with
      | some held =>
        rw [Table.kept_of_some _ hheld] at hget
        exact .inl (hheld.trans hget)
      | none =>
        rw [Table.kept_of_none _ hheld] at hget
        exact .inr (Option.some.inj hget)
    · exact .inl hget
  obtain ⟨entry, hwrites, hledger⟩ := step_writes scene one
  have hunits : (scene.next one).loader.memo.units = (scene.loader.ledger.write entry).units :=
    congrArg Ledger.units hledger
  unfold Loader.binding? at h
  rw [hunits] at h
  cases hwrites with
  | preloaded added =>
    rcases hinserted _ _ h with hheld | rfl
    · exact .inl hheld
    · exact .inr (.inl rfl)
  | @hosted number ticket added =>
    rcases hinserted _ _ h with hheld | rfl
    · exact .inl hheld
    · exact .inr (.inr (.inl ⟨number, rfl⟩))
  | @copied number ticket added hwaiting =>
    -- The ledger does not say which copy this is, so the definition is looked at itself.
    rw [← hunits] at h
    rcases answered_without hwaiting with ⟨made, hmade, hdefines⟩ | ⟨-, -, -, hsame⟩
    · obtain ⟨counters, -, hfinished⟩ := hdefines.finished
      have hinsert : (scene.next (.answer number none)).loader.memo.units =
          scene.loader.memo.units.insertNew made.name made.unit := by
        unfold next
        rw [hfinished, Definition.finished, hdefines.loader]
        rfl
      rw [hinsert] at h
      rcases hinserted _ _ h with hheld | rfl
      · exact .inl hheld
      · exact .inr (.inr (.inr ⟨made, hmade, rfl⟩))
    · rw [hsame] at h
      exact .inl h
  | _ => exact .inl h

/-- A bound unit was there from the start, or it was bound directly, or the host had it, or it was
defined. -/
theorem bound_from {start : Scene} {history : List Happening} {name : String}
    {unit : Shared CodeUnit} (h : (start.after history).loader.binding? name = some unit) :
    start.loader.binding? name = some unit ∨ .preload unit ∈ history ∨
      (∃ number, .answer number (some unit) ∈ history) ∨
      ∃ made ∈ start.definitions history, made.unit = unit := by
  induction history using List.reverseRecOn with
  | nil => exact .inl h
  | append_singleton history one ih =>
    rw [after_concat] at h
    rw [definitions_concat]
    rcases bound_next h with hbefore | rfl | ⟨number, rfl⟩ | ⟨made, hmade, hunit⟩
    · rcases ih hbefore with hstart | hpreload | ⟨number, hanswer⟩ | ⟨made, hmade, hunit⟩
      · exact .inl hstart
      · exact .inr (.inl (List.mem_append_left _ hpreload))
      · exact .inr (.inr (.inl ⟨number, List.mem_append_left _ hanswer⟩))
      · exact .inr (.inr (.inr ⟨made, List.mem_append_left _ hmade, hunit⟩))
    · exact .inr (.inl (List.mem_append_right _ List.mem_cons_self))
    · exact .inr (.inr (.inl ⟨number, List.mem_append_right _ List.mem_cons_self⟩))
    · rw [hmade]
      exact .inr (.inr (.inr ⟨made, List.mem_append_right _ List.mem_cons_self, hunit⟩))

end Scene

/-! ## The numbers of archives -/

/-- An entry is in the archive with its number. Of a file nothing is asked. -/
def Place.NumberedIn (archives : List Archive) : Place → Prop
  | .file .. => True
  | .entry number archive _ => archives[number]? = some archive

theorem Place.NumberedIn.append {archives : List Archive} {place : Place}
    (h : place.NumberedIn archives) (more : List Archive) :
    place.NumberedIn (archives ++ more) := by
  cases place with
  | file root path => trivial
  | entry number archive entry =>
    have hlt : number < archives.length := (List.getElem?_eq_some_iff.mp h).1
    exact (List.getElem?_append_left hlt).trans h

/-- So it is with each place that these sources have for a unit. -/
def Sources.Numbered (sources : Sources) (archives : List Archive) : Prop :=
  ∀ name, ∀ place ∈ sources.places name, place.NumberedIn archives

theorem Sources.numbered_addTo {sources : Sources} {source : Source}
    (h : sources.Numbered sources.archives)
    (hnumber : ∀ number archive, source = .archive number archive →
      number = sources.archives.length) (bound : String → Bool) :
    (source.addTo sources bound).Numbered (source.addTo sources bound).archives := by
  intro name place hplace
  rw [mem_places] at hplace
  cases source with
  | directory added =>
    unfold Source.addTo at hplace ⊢
    rcases hplace with hfile | hentry
    · rw [directoryUnits_addDirectory, Option.or_eq_some_iff] at hfile
      rcases hfile with hold | ⟨-, hnew⟩
      · exact h name place (mem_places.mpr (.inl hold))
      · -- A directory adds files only.
        split at hnew
        · cases hnew
        · obtain ⟨path, -, rfl⟩ := Option.map_eq_some_iff.mp hnew
          trivial
    · exact h name place (mem_places.mpr (.inr hentry))
  | archive number added =>
    unfold Source.addTo at hplace ⊢
    rcases hplace with hfile | hentry
    · exact (h name place (mem_places.mpr (.inl hfile))).append [added]
    · rw [archiveUnits_addArchive, Option.or_eq_some_iff] at hentry
      rcases hentry with hold | ⟨-, hnew⟩
      · exact (h name place (mem_places.mpr (.inr hold))).append [added]
      · split at hnew
        · cases hnew
        · obtain ⟨entry, -, rfl⟩ := Option.map_eq_some_iff.mp hnew
          exact List.getElem?_concat_length

namespace Scene

/-- The places that can be tried are numbered as the archives are registered now. -/
structure Numbered (scene : Scene) : Prop where
  indexed : scene.loader.sources.Numbered scene.loader.sources.archives
  waiting : ∀ number ticket, (number, .unit ticket) ∈ scene.waiting →
    ticket.sources.Numbered scene.loader.sources.archives

theorem numbered_next {scene : Scene} (h : scene.Numbered) (one : Happening) :
    (scene.next one).Numbered := by
  obtain ⟨-, harchives⟩ := lists_next scene one
  constructor
  · rw [sources_next]
    split
    · exact h.indexed
    · next source hsource =>
      refine Sources.numbered_addTo h.indexed ?_ _
      rintro number archive rfl
      exact number_of_registration hsource
  · intro number ticket hmem name place hplace
    rw [harchives]
    rcases waiting_next hmem with hwaited | ⟨-, -, hticket⟩
    · exact (h.waiting number ticket hwaited name place hplace).append _
    · rw [hticket] at hplace
      exact (h.indexed name place hplace).append _

/-- Whatever is defined comes from a source that is registered. So the number of an archive leads to
the archive that a unit is from. -/
theorem numbered_definition {scene : Scene} (h : scene.Numbered) {one : Happening}
    {made : Definition} (hmade : scene.definition? one = some made) :
    made.place.NumberedIn scene.loader.sources.archives := by
  obtain ⟨number, ticket, -, hwaiting, hdefines⟩ := next_of_definition hmade
  exact h.waiting number ticket (mem_of_lookup hwaiting) ticket.name made.place hdefines.offered

end Scene

end LayeredUnits
