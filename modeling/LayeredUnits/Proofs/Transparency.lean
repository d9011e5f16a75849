import Mathlib
import LayeredUnits.Proofs.QuietHost

/-!
# The memory of misses cannot be seen

A loader that remembers failed lookups gives the same answers as one that
searches again each time, as long as whoever registers a source clears the
misses before the next lookup. Two loaders never hand out the same instances,
so what is compared is everything else (`Reply.bare`).

* `Alike` — the two loaders have the same sources, and what they have bound is
  the same but for identities. Every operation keeps this (`tryPlaces_alike`,
  `preload_alike`, `register_alike`).
* `MissesHold` — every miss that is remembered is what a search would come to
  now. Only a registration that succeeds breaks this, and a clear mends it.
* `resolve_alike` — loaders that are alike and whose misses hold come to the
  same for every name.
* `memory_of_misses_is_transparent` — the same for every run.
-/

namespace LayeredUnits

/-! ## What can be seen of a reply -/

/-- The value without its identity, which two loaders never agree on. -/
def Shared.bare {α : Type} (shared : Shared α) : Shared α := ⟨⟨0, 0⟩, shared.value⟩

/-- The unit without its identity and that of its domain. -/
def Shared.bareUnit (unit : Shared CodeUnit) : Shared CodeUnit :=
  ⟨⟨0, 0⟩, { unit.value with domain := unit.value.domain.bare }⟩

/-- The fault without the identity of its record. What the record says stays. -/
def Fault.bare : Fault → Fault
  | .unitNotFound miss => .unitNotFound miss.bare
  | fault => fault

/-- What can be seen of the result of a lookup, up to who made the instances in it. -/
def bareResult : Except Fault (Shared CodeUnit) → Except Fault (Shared CodeUnit)
  | .ok unit => .ok unit.bareUnit
  | .error fault => .error fault.bare

/-- The reply without identities: what a caller can tell apart who compares no instances. -/
def Reply.bare : Reply → Reply
  | .unit result => .unit (bareResult result)
  | .found (.ok held) => .found (.ok (held.map Shared.bareUnit))
  | .found (.error fault) => .found (.error fault.bare)
  | reply => reply

theorem bare_foundReply (result : Except Fault (Shared CodeUnit)) :
    (Layers.foundReply result).bare = Layers.foundReply (bareResult result) := by
  cases result with
  | ok unit => rfl
  | error fault => cases fault <;> rfl

namespace Table

variable {α β : Type} {view : α → β} {a b : Table α}

theorem view_kept (h : ∀ name, (a.get? name).map view = (b.get? name).map view) (name : String)
    {x y : α} (hnew : view x = view y) : view (a.kept name x) = view (b.kept name y) := by
  have hheld := h name
  unfold kept
  cases ha : a.get? name <;> cases hb : b.get? name <;> rw [ha, hb] at hheld
  · exact hnew
  · cases hheld
  · cases hheld
  · exact Option.some.inj hheld

/-- Tables that look the same still do so after a write of what looks the same. -/
theorem view_insertNew (h : ∀ name, (a.get? name).map view = (b.get? name).map view)
    (name : String) {x y : α} (hnew : view x = view y) (other : String) :
    ((a.insertNew name x).get? other).map view = ((b.insertNew name y).get? other).map view := by
  rw [get?_insertNew, get?_insertNew]
  split
  · exact congrArg some (view_kept h name hnew)
  · exact h other

end Table

namespace Loader

/-! ## Loaders that look alike -/

/-- Two loaders search in the same way, and know the same but for identities and misses. -/
structure Alike (a b : Loader) : Prop where
  unitSuffix : a.options.unitSuffix = b.options.unitSuffix
  maxUnitSize : a.options.maxUnitSize = b.options.maxUnitSize
  sources : a.sources = b.sources
  units : ∀ name, (a.binding? name).map Shared.bareUnit = (b.binding? name).map Shared.bareUnit
  home : a.home.bare = b.home.bare
  domains : ∀ origin,
    (a.domains.get? origin).map Shared.bare = (b.domains.get? origin).map Shared.bare
  packages : a.packages = b.packages

namespace Alike

variable {a b c : Loader}

theorem refl (loader : Loader) : loader.Alike loader :=
  ⟨rfl, rfl, rfl, fun _ => rfl, rfl, fun _ => rfl, rfl⟩

theorem symm (h : a.Alike b) : b.Alike a :=
  ⟨h.unitSuffix.symm, h.maxUnitSize.symm, h.sources.symm, fun name => (h.units name).symm,
    h.home.symm, fun origin => (h.domains origin).symm, h.packages.symm⟩

theorem trans (h : a.Alike b) (h' : b.Alike c) : a.Alike c :=
  ⟨h.unitSuffix.trans h'.unitSuffix, h.maxUnitSize.trans h'.maxUnitSize,
    h.sources.trans h'.sources, fun name => (h.units name).trans (h'.units name),
    h.home.trans h'.home, fun origin => (h.domains origin).trans (h'.domains origin),
    h.packages.trans h'.packages⟩

/-- What is counted does not show in any reply. -/
theorem count (h : a.Alike b) (change change' : Counters → Counters) :
    (a.count change).Alike (b.count change') := { h with }

theorem isBound (h : a.Alike b) : a.isBound = b.isBound := by
  funext name
  have hsome := congrArg Option.isSome (h.units name)
  rwa [Option.isSome_map, Option.isSome_map] at hsome

/-- Which names are kept does not show. Lookups that fail keep names in one loader and not in the
other. -/
theorem intern (h : a.Alike b) (name : String) :
    ({ a with memo := a.memo.intern name } : Loader).Alike
      { b with memo := b.memo.intern name } := { h with }

/-- Units that look the same are bound. From then on both loaders reply them. -/
theorem insertUnit (h : a.Alike b) (name : String) {unit other : Shared CodeUnit}
    (hunit : unit.bareUnit = other.bareUnit) :
    ({ a with memo := a.memo.insertUnit name unit } : Loader).Alike
      { b with memo := b.memo.insertUnit name other } :=
  { h with units := Table.view_insertNew h.units name hunit }

end Alike

theorem package_alike {a b : Loader} (h : a.Alike b) (volume : Volume) (number : Nat)
    (archive : Archive) :
    (a.package volume number archive).reply = (b.package volume number archive).reply ∧
      (a.package volume number archive).loader.Alike (b.package volume number archive).loader := by
  unfold package
  rw [h.packages]
  cases b.packages.lookup number with
  | some package => exact ⟨rfl, h⟩
  | none => exact ⟨rfl, { h with packages := rfl }⟩

theorem domainOf_alike {a b : Loader} (h : a.Alike b) (volume : Volume) (number : Nat)
    (archive : Archive) :
    (a.domainOf volume number archive).reply.bare = (b.domainOf volume number archive).reply.bare ∧
      (a.domainOf volume number archive).loader.Alike
        (b.domainOf volume number archive).loader := by
  have hheld := h.domains archive.origin
  unfold domainOf
  cases ha : a.domains.get? archive.origin <;> cases hb : b.domains.get? archive.origin <;>
    rw [ha, hb] at hheld
  · obtain ⟨hpackage, hloader⟩ := package_alike h volume number archive
    generalize a.package volume number archive = left at hpackage hloader ⊢
    generalize b.package volume number archive = right at hpackage hloader ⊢
    obtain ⟨package, loader, events⟩ := left
    obtain ⟨package', loader', events'⟩ := right
    obtain rfl : package = package' := hpackage
    refine ⟨rfl, { hloader with domains := ?_ }⟩
    exact Table.view_insertNew hloader.domains archive.origin rfl
  · cases hheld
  · cases hheld
  · exact ⟨Option.some.inj hheld, h⟩

theorem domainAt_alike {a b : Loader} (h : a.Alike b) (volume : Volume) (place : Place) :
    (a.domainAt volume place).reply.bare = (b.domainAt volume place).reply.bare ∧
      (a.domainAt volume place).loader.Alike (b.domainAt volume place).loader := by
  cases place with
  | file root path => exact ⟨h.home, h⟩
  | entry number archive name => exact domainOf_alike h volume number archive

theorem define_alike {a b : Loader} (h : a.Alike b) (volume : Volume) (name : String)
    (bytes : ByteArray) (place : Place) :
    (a.define volume name bytes place).reply.bareUnit =
        (b.define volume name bytes place).reply.bareUnit ∧
      (a.define volume name bytes place).loader.Alike
        (b.define volume name bytes place).loader := by
  obtain ⟨hdomain, hloader⟩ := domainAt_alike h volume place
  unfold define
  generalize a.domainAt volume place = left at hdomain hloader ⊢
  generalize b.domainAt volume place = right at hdomain hloader ⊢
  obtain ⟨domain, loader, events⟩ := left
  obtain ⟨domain', loader', events'⟩ := right
  have hdefined : ∀ token token' : Token,
      Shared.bareUnit ⟨token, name, bytes, place.origin, domain⟩ =
        Shared.bareUnit ⟨token', name, bytes, place.origin, domain'⟩ :=
    fun _ _ => congrArg (fun seen => Shared.mk ⟨0, 0⟩ (CodeUnit.mk name bytes place.origin seen))
      hdomain
  refine ⟨Table.view_kept hloader.units name (hdefined ..), ?_⟩
  exact { hloader with units := Table.view_insertNew hloader.units name (hdefined ..) }

/-- Both read the same places, with the same limit, and so they pass over the same copies. -/
theorem tryPlaces_alike (volume : Volume) (name : String) (places : List Place) :
    ∀ {a b : Loader}, a.Alike b →
      (a.tryPlaces volume name places).reply.map Shared.bareUnit =
          (b.tryPlaces volume name places).reply.map Shared.bareUnit ∧
        (a.tryPlaces volume name places).loader.Alike (b.tryPlaces volume name places).loader := by
  induction places with
  | nil => exact fun h => ⟨rfl, h⟩
  | cons place rest ih =>
    intro a b h
    have hreads : (a.readTimes 1).Alike (b.readTimes 1) := h.count ..
    cases hread : place.read volume a.options.maxUnitSize with
    | ok bytes =>
      obtain ⟨hreply, hloader⟩ := tryPlaces_of_ok name rest hread
      obtain ⟨hreply', hloader'⟩ := tryPlaces_of_ok name rest (h.maxUnitSize ▸ hread)
      obtain ⟨hunit, hdefined⟩ := define_alike hreads volume name bytes place
      rw [hreply, hloader, hreply', hloader']
      exact ⟨congrArg some hunit, hdefined⟩
    | error fault =>
      obtain ⟨hreply, hloader⟩ := tryPlaces_of_error name rest hread
      obtain ⟨hreply', hloader'⟩ := tryPlaces_of_error name rest (h.maxUnitSize ▸ hread)
      rw [hreply, hloader, hreply', hloader']
      exact ih hreads

theorem preload_alike {a b : Loader} (h : a.Alike b) (unit : Shared CodeUnit) :
    (a.preload unit).reply = (b.preload unit).reply ∧
      (a.preload unit).loader.Alike (b.preload unit).loader := by
  have hsame : a.isBound unit.value.name = b.isBound unit.value.name :=
    congrFun h.isBound unit.value.name
  cases hbound : b.isBound unit.value.name with
  | true =>
    rw [preload_eq_of_bound hbound, preload_eq_of_bound (hsame.trans hbound)]
    exact ⟨rfl, { h with }⟩
  | false =>
    rw [preload_eq_of_free hbound, preload_eq_of_free (hsame.trans hbound)]
    exact ⟨rfl, (h.intern unit.value.name).insertUnit unit.value.name rfl⟩

/-- Sources are added alike, and names are kept. -/
theorem Alike.adding {a b : Loader} (h : a.Alike b) (sources : Sources) (names : List String) :
    ({ a with sources := sources, memo := internAll a.memo names } : Loader).Alike
      { b with sources := sources, memo := internAll b.memo names } := by
  refine { h with sources := rfl, units := ?_ }
  intro name
  unfold binding?
  rw [(internAll_units a.memo names).1, (internAll_units b.memo names).1]
  exact h.units name

theorem addDirectory_alike {a b : Loader} (h : a.Alike b) (directory : Directory) :
    (a.addDirectory directory).reply = (b.addDirectory directory).reply ∧
      (a.addDirectory directory).loader.Alike (b.addDirectory directory).loader := by
  unfold addDirectory
  rw [h.sources, h.isBound]
  exact ⟨rfl, h.adding ..⟩

theorem addArchive_alike {a b : Loader} (h : a.Alike b) (archive : Archive) :
    (a.addArchive archive).reply = (b.addArchive archive).reply ∧
      (a.addArchive archive).loader.Alike (b.addArchive archive).loader := by
  unfold addArchive
  rw [h.sources, h.isBound]
  exact ⟨rfl, h.adding ..⟩

/-- Whether a source can be opened does not depend on the loader, and what it adds depends on what
both have alike. -/
theorem register_alike {α : Type} {a b : Loader} (h : a.Alike b) {add add' : α → Turn Nat}
    (opened : Except Fault α × List Event)
    (hadd : ∀ source, (add source).reply = (add' source).reply ∧
      (add source).loader.Alike (add' source).loader) :
    (a.register opened add).reply = (b.register opened add').reply ∧
      (a.register opened add).loader.Alike (b.register opened add').loader := by
  obtain ⟨result, events⟩ := opened
  cases result with
  | error fault => exact ⟨rfl, h⟩
  | ok source => exact ⟨congrArg Except.ok (hadd source).1, (hadd source).2⟩

/-! ## Misses that hold -/

/-- Every miss that is remembered is what a search would come to now. -/
def MissesHold (loader : Loader) (volume : Volume) (host : Host) : Prop :=
  ∀ name miss, loader.memo.misses.get? name = some miss →
    host.unit? name = none ∧
    Unreadable volume loader.options.maxUnitSize (loader.sources.places name) ∧
    miss.value = missOf name loader.sources

theorem MissesHold.of_same {loader other : Loader} {volume : Volume} {host : Host}
    (h : loader.MissesHold volume host) (hoptions : other.options = loader.options)
    (hsources : other.sources = loader.sources) (hmisses : other.memo.misses = loader.memo.misses) :
    other.MissesHold volume host := by
  unfold MissesHold
  rw [hoptions, hsources, hmisses]
  exact h

/-- A search that comes to a copy that can be read has a unit. So a miss says that no copy could be
read. -/
theorem exists_of_readable {volume : Volume} {places : List Place} (loader : Loader) (name : String)
    (h : ¬ Unreadable volume loader.options.maxUnitSize places) :
    ∃ unit, (loader.tryPlaces volume name places).reply = some unit :=
  Option.ne_none_iff_exists'.mp fun hnone => h (unreadable_of_tryPlaces hnone)

theorem tryPlaces_keeps (loader : Loader) (volume : Volume) (name : String) (places : List Place) :
    let searched := (loader.tryPlaces volume name places).loader
    searched.options = loader.options ∧ searched.sources = loader.sources ∧
      searched.memo.misses = loader.memo.misses := by
  rcases tryPlaces_cases volume name places loader with
    ⟨-, -, hloader⟩ | ⟨failed, place, rest, bytes, -, -, -, -, hloader⟩
  · dsimp only
    rw [hloader]
    exact ⟨rfl, rfl, rfl⟩
  · obtain ⟨unit, domains, packages, issued, -, -, -, -, hdefined⟩ :=
      define_eq (loader.readTimes (failed.length + 1)) volume name bytes place
    dsimp only
    rw [hloader, hdefined]
    exact ⟨rfl, rfl, rfl⟩

/-- A record stays or is made, and both say the same: the sources have not changed between
the two. -/
theorem kept_value {loader : Loader} {volume : Volume} {host : Host} {name : String}
    (h : loader.MissesHold volume host) {fresh : Shared Miss}
    (hfresh : fresh.value = missOf name loader.sources) :
    (loader.memo.misses.kept name fresh).value = missOf name loader.sources := by
  unfold Table.kept
  cases hstored : loader.memo.misses.get? name with
  | none => exact hfresh
  | some stored => exact (h name stored hstored).2.2

/-- The record of a search that has just failed holds, as long as nothing changes that it
is about. -/
theorem recordMiss_holds {loader : Loader} {volume : Volume} {host : Host} {name : String}
    (h : loader.MissesHold volume host) (generation : Nat) (hhost : host.unit? name = none)
    (hunread : Unreadable volume loader.options.maxUnitSize (loader.sources.places name)) :
    (loader.recordMiss ⟨name, generation, loader.sources⟩).reply.value =
        missOf name loader.sources ∧
      (loader.recordMiss ⟨name, generation, loader.sources⟩).loader.MissesHold volume host := by
  rcases recordMiss_cases loader ⟨name, generation, loader.sources⟩ with
    ⟨-, hreply, hloader⟩ | ⟨-, hreply, hloader⟩ <;> rw [hreply, hloader]
  · refine ⟨kept_value h rfl, ?_⟩
    intro other miss hmiss
    have hmiss : (loader.memo.misses.insertNew name _).get? other = some miss := hmiss
    rw [Table.get?_insertNew] at hmiss
    split at hmiss
    · next heq =>
      obtain rfl := Option.some.inj hmiss
      rw [heq]
      exact ⟨hhost, hunread, kept_value h rfl⟩
    · exact h other miss hmiss
  · exact ⟨rfl, h⟩

theorem recordMiss_alike (loader : Loader) (ticket : Ticket) :
    (loader.recordMiss ticket).loader.Alike loader := by
  rcases recordMiss_cases loader ticket with ⟨-, -, hloader⟩ | ⟨-, -, hloader⟩ <;>
    rw [hloader] <;> exact { Alike.refl loader with }

/-! ## Lookups -/

theorem resolve_of_bound {loader : Loader} {name : String} {unit : Shared CodeUnit}
    (volume : Volume) (answer : Option (Shared CodeUnit)) (h : loader.binding? name = some unit) :
    loader.resolve volume name answer =
      ⟨.ok unit, loader.count fun c => { c with cacheHits := c.cacheHits + 1 },
        [.unitRecalled name]⟩ := by
  have hunit : loader.memo.units.get? name = some unit := h
  simp only [resolve, beginLookup, hunit]

theorem resolve_of_recalled {loader : Loader} {name : String} {miss : Shared Miss}
    (volume : Volume) (answer : Option (Shared CodeUnit)) (hfree : loader.binding? name = none)
    (hmiss : (if loader.options.remembersMisses then loader.memo.misses.get? name else none) =
      some miss) :
    loader.resolve volume name answer =
      ⟨.error (.unitNotFound miss),
        loader.count fun c => { c with negativeHits := c.negativeHits + 1 },
        [.missRecalled name]⟩ := by
  have hunit : loader.memo.units.get? name = none := hfree
  simp only [resolve, beginLookup, hunit, hmiss]

/-- If nobody has the unit, it makes no difference whether the miss is recalled or made. -/
theorem resolve_of_hold {loader : Loader} {volume : Volume} {host : Host} {name : String}
    (hold : loader.MissesHold volume host) (hfree : loader.binding? name = none)
    (hhost : host.unit? name = none)
    (hunread : Unreadable volume loader.options.maxUnitSize (loader.sources.places name)) :
    bareResult (loader.resolve volume name none).reply =
        .error (.unitNotFound ⟨⟨0, 0⟩, missOf name loader.sources⟩) ∧
      (loader.resolve volume name none).loader.Alike loader ∧
      (loader.resolve volume name none).loader.MissesHold volume host := by
  cases hrecalled : (if loader.options.remembersMisses then loader.memo.misses.get? name
    else none) with
  | some miss =>
    -- A miss that holds tells what a search would tell now.
    have hmiss : loader.memo.misses.get? name = some miss := by
      split at hrecalled
      · exact hrecalled
      · cases hrecalled
    rw [resolve_of_recalled volume none hfree hrecalled, ← (hold name miss hmiss).2.2]
    exact ⟨rfl, { Alike.refl loader with }, hold.of_same rfl rfl rfl⟩
  | none =>
    -- The search tells it, and it may be remembered from now on.
    obtain ⟨hreply, hloader⟩ := resolve_of_unreadable ⟨hfree, hrecalled⟩ hunread
    obtain ⟨hvalue, hkept⟩ :=
      @recordMiss_holds (loader.searched name) volume host name hold loader.generation hhost hunread
    rw [hreply, hloader]
    have hsearched : (loader.searched name).Alike loader := { Alike.refl loader with }
    refine ⟨?_, (recordMiss_alike _ _).trans hsearched, hkept⟩
    exact congrArg (fun value => Except.error (Fault.unitNotFound ⟨⟨0, 0⟩, value⟩)) hvalue

/-- A miss is recalled only if nobody has the unit. So to answer from memory is to answer as a
search would. -/
theorem MissesHold.unrecalled {loader : Loader} {volume : Volume} {host : Host} {name : String}
    (h : loader.MissesHold volume host) (hfree : loader.binding? name = none)
    (hsome : host.unit? name = none →
      ¬ Unreadable volume loader.options.maxUnitSize (loader.sources.places name)) :
    loader.Unrecalled name := by
  refine ⟨hfree, ?_⟩
  split
  · cases hmiss : loader.memo.misses.get? name with
    | none => rfl
    | some miss =>
      obtain ⟨hhost, hunread, -⟩ := h name miss hmiss
      exact absurd hunread (hsome hhost)
  · rfl

/-- Loaders that are alike and whose misses hold come to the same for every name, and stay so. -/
theorem resolve_alike {a b : Loader} {volume : Volume} {host : Host} (h : a.Alike b)
    (ha : a.MissesHold volume host) (hb : b.MissesHold volume host) (name : String) :
    let left := a.resolve volume name (host.unit? name)
    let right := b.resolve volume name (host.unit? name)
    bareResult left.reply = bareResult right.reply ∧ left.loader.Alike right.loader ∧
      left.loader.MissesHold volume host ∧ right.loader.MissesHold volume host := by
  have hheld := h.units name
  dsimp only
  cases hfree : a.binding? name <;> cases hfree' : b.binding? name <;> rw [hfree, hfree'] at hheld
  case none.some => cases hheld
  case some.none => cases hheld
  case some.some unit other =>
    rw [resolve_of_bound volume _ hfree, resolve_of_bound volume _ hfree']
    exact ⟨congrArg Except.ok (Option.some.inj hheld), { h with }, ha.of_same rfl rfl rfl,
      hb.of_same rfl rfl rfl⟩
  case none.none =>
    cases hhost : host.unit? name with
    | some unit =>
      have hsome : ∀ places limit, host.unit? name = none → ¬ Unreadable volume limit places := by
        intro places limit hnone
        cases hhost.symm.trans hnone
      rw [resolve_of_answer volume unit (ha.unrecalled hfree (hsome _ _)),
        resolve_of_answer volume unit (hb.unrecalled hfree' (hsome _ _))]
      -- A miss that holds says that the host has nothing, so none is recalled here.
      have hasking : a.asking.Alike b.asking := { h with }
      exact ⟨rfl, (hasking.intern name).insertUnit name rfl, ha.of_same rfl rfl rfl,
        hb.of_same rfl rfl rfl⟩
    | none =>
      -- Either both come to the same miss, recalled or made, or both have to search.
      by_cases hunread : Unreadable volume a.options.maxUnitSize (a.sources.places name)
      · have hunread' := h.sources ▸ h.maxUnitSize ▸ hunread
        obtain ⟨hreply, hloader, hkept⟩ := resolve_of_hold ha hfree hhost hunread
        obtain ⟨hreply', hloader', hkept'⟩ := resolve_of_hold hb hfree' hhost hunread'
        exact ⟨by rw [hreply, hreply', h.sources], hloader.trans (h.trans hloader'.symm), hkept,
          hkept'⟩
      · have hunread' := h.sources ▸ h.maxUnitSize ▸ hunread
        obtain ⟨unit, hfound⟩ := exists_of_readable (a.asking.searching) name hunread
        obtain ⟨unit', hfound'⟩ := exists_of_readable (b.asking.searching) name hunread'
        have hsearching : a.asking.searching.Alike b.asking.searching := { h with }
        obtain ⟨hunit, halike⟩ := tryPlaces_alike volume name (b.sources.places name) hsearching
        obtain ⟨hreply, hloader⟩ :=
          resolve_of_found (ha.unrecalled hfree fun _ => hunread) hfound
        obtain ⟨hreply', hloader'⟩ :=
          resolve_of_found (hb.unrecalled hfree' fun _ => hunread') hfound'
        obtain ⟨hoptions, hsources, hmisses⟩ := tryPlaces_keeps a.asking.searching volume name
          (a.sources.places name)
        obtain ⟨hoptions', hsources', hmisses'⟩ := tryPlaces_keeps b.asking.searching volume name
          (b.sources.places name)
        rw [hreply, hreply', hloader, hloader']
        refine ⟨?_, h.sources ▸ halike, ha.of_same hoptions hsources hmisses,
          hb.of_same hoptions' hsources' hmisses'⟩
        rw [← h.sources] at hfound' hunit
        rw [hfound, hfound'] at hunit
        exact congrArg Except.ok (Option.some.inj hunit)

/-! ## Calls for units and sources -/

theorem register_of_error {α : Type} {loader : Loader} {opened : Except Fault α × List Event}
    {add : α → Turn Nat} {fault : Fault} (h : (loader.register opened add).reply = .error fault) :
    (loader.register opened add).loader = loader := by
  obtain ⟨result, events⟩ := opened
  cases result with
  | error fault => rfl
  | ok source => cases h

theorem preload_holds {loader : Loader} {volume : Volume} {host : Host}
    (h : loader.MissesHold volume host) (unit : Shared CodeUnit) :
    (loader.preload unit).loader.MissesHold volume host := by
  cases hbound : loader.isBound unit.value.name with
  | true => rw [preload_eq_of_bound hbound]; exact h.of_same rfl rfl rfl
  | false => rw [preload_eq_of_free hbound]; exact h.of_same rfl rfl rfl

theorem forgetMisses_holds (loader : Loader) (volume : Volume) (host : Host) :
    loader.forgetMisses.loader.MissesHold volume host := by
  intro name miss hmiss
  cases (Table.get?_empty name).symm.trans hmiss

end Loader

/-- Whether a call is one for units or for sources: not one for resources, and no change of the
volume. -/
def Call.isForUnits : Call → Bool
  | .load .. | .find _ | .preload _ | .registerDirectory _ | .registerArchive _
  | .registerImage .. | .forgetMisses => true
  | .resource _ | .resources _ | .openResource _ | .edit _ => false

/-- The turn with its reply put in other terms. What has become of the loader stays. -/
def Turn.map {α β : Type} (turn : Turn α) (change : α → β) : Turn β :=
  ⟨change turn.reply, turn.loader, turn.events⟩

namespace Loader

/-- What a call for units or sources comes to over a quiet host, as a function of the loader. -/
def serve (loader : Loader) (volume : Volume) (host : Host) : Call → Turn Reply
  | .load name _ => (loader.resolve volume name (host.unit? name)).map .unit
  | .find name => (loader.resolve volume name (host.unit? name)).map Layers.foundReply
  | .preload unit => (loader.preload unit).map .unit
  | .registerDirectory path => (loader.registerDirectory volume path).map .count
  | .registerArchive path => (loader.registerArchive volume path).map .count
  | .registerImage image origin => (loader.registerImage volume image origin).map .count
  | .forgetMisses => loader.forgetMisses.map fun _ => .done
  | _ => ⟨.done, loader, []⟩

end Loader

namespace Layers

/-- At a place there is this loader over a host that is quiet and has what this one has. -/
structure Serves (layers : Layers) (place : Nat) (volume : Volume) (host : Host)
    (loader : Loader) : Prop where
  volume : layers.volume = volume
  layer : ∃ now : Host, now.Succeeds host ∧ layers.layers[place]? = some ⟨loader, now⟩

theorem Serves.loaderAt? {layers : Layers} {place : Nat} {volume : Volume} {host : Host}
    {loader : Loader} (h : layers.Serves place volume host loader) :
    layers.loaderAt? place = some loader := by
  obtain ⟨-, now, -, hlayer⟩ := h
  exact loaderAt?_of_some hlayer

theorem call_of_serves {layers : Layers} {place : Nat} {volume : Volume} {host : Host}
    {loader : Loader} (h : layers.Serves place volume host loader) {one : Call}
    (hone : one.isForUnits = true) :
    let turn := loader.serve volume host one
    (layers.call place one).reply = turn.reply ∧
      (layers.call place one).layers.Serves place volume host turn.loader := by
  obtain ⟨rfl, now, hnow, hlayer⟩ := h
  have hunits := hnow.units
  -- The loader is put back over a host that has answered, or was not asked.
  have hdone : ∀ {later : Host} {next : Loader} {step : Step Reply} {reply : Reply}
      {events : List Event}, later.Succeeds now →
      step = ⟨reply, layers.setLayer place ⟨next, later⟩, events⟩ →
      step.reply = reply ∧ step.layers.Serves place layers.volume host next := by
    rintro later next step reply events hlater rfl
    exact ⟨rfl, rfl, later, hnow.trans hlater, layer_setLayer_self _ hlayer⟩
  obtain ⟨depth, hdepth⟩ := layers.exists_depth
  have hoperated : ∀ turn : Turn Reply,
      perform (callWithin depth) layers place one = layers.settle place turn →
      (layers.call place one).reply = turn.reply ∧
        (layers.call place one).layers.Serves place layers.volume host turn.loader := by
    intro turn hstep
    have hput : layers.call place one =
        ⟨turn.reply, layers.setLayer place ⟨turn.loader, now⟩, turn.events⟩ := by
      rw [hdepth, ← setLoader_eq turn.loader hlayer]
      exact hstep
    exact hdone hnow.quiet.succeeds hput
  cases one with
  | load name wantsLink =>
    obtain ⟨later, hlater, hstep⟩ := load_of_quiet name wantsLink hlayer hnow.quiet
    rw [hunits name] at hstep
    exact hdone hlater hstep
  | find name =>
    obtain ⟨later, hlater, hstep⟩ := find_of_quiet name hlayer hnow.quiet
    rw [hunits name] at hstep
    exact hdone hlater hstep
  | preload unit =>
    exact hoperated ((loader.preload unit).map .unit) (by simp only [perform, hlayer]; rfl)
  | registerDirectory path =>
    exact hoperated ((loader.registerDirectory layers.volume path).map .count)
      (by simp only [perform, hlayer]; rfl)
  | registerArchive path =>
    exact hoperated ((loader.registerArchive layers.volume path).map .count)
      (by simp only [perform, hlayer]; rfl)
  | registerImage image origin =>
    exact hoperated ((loader.registerImage layers.volume image origin).map .count)
      (by simp only [perform, hlayer]; rfl)
  | forgetMisses =>
    exact hoperated (loader.forgetMisses.map fun _ => .done) (by simp only [perform, hlayer]; rfl)
  | resource | resources | openResource | edit => cases hone

end Layers

theorem Reply.eq_count_of_bare {reply : Reply} {result : Except Fault Nat}
    (h : reply.bare = .count result) : reply = .count result := by
  cases reply with
  | found found => cases found <;> cases h
  | count => exact h
  | _ => cases h

namespace Loader

variable {volume : Volume} {host : Host}

/-- A registration that fails changes nothing, so the misses hold still. One that succeeds may have
brought what was missed. -/
theorem register_holds {α : Type} {loader : Loader} (h : loader.MissesHold volume host)
    (opened : Except Fault α × List Event) (add : α → Turn Nat) :
    (∃ count, (loader.register opened add).reply = .ok count) ∨
      (loader.register opened add).loader.MissesHold volume host := by
  cases hreply : (loader.register opened add).reply with
  | ok count => exact .inl ⟨count, rfl⟩
  | error fault => exact .inr (by rwa [register_of_error hreply])

/-- Only a registration that succeeds makes misses that do not hold. -/
theorem serve_holds {loader : Loader} (h : loader.MissesHold volume host) (one : Call) :
    (∃ count, (loader.serve volume host one).reply = .count (.ok count)) ∨
      (loader.serve volume host one).loader.MissesHold volume host := by
  have hcounted : ∀ {turn : Turn (Except Fault Nat)},
      ((∃ count, turn.reply = .ok count) ∨ turn.loader.MissesHold volume host) →
      ((∃ count, (turn.map Reply.count).reply = .count (.ok count)) ∨
        (turn.map Reply.count).loader.MissesHold volume host) :=
    fun hturn => hturn.imp (fun ⟨count, hcount⟩ => ⟨count, congrArg Reply.count hcount⟩) id
  cases one with
  | load name _ => exact .inr (resolve_alike (.refl loader) h h name).2.2.1
  | find name => exact .inr (resolve_alike (.refl loader) h h name).2.2.1
  | preload unit => exact .inr (preload_holds h unit)
  | registerDirectory path => exact hcounted (register_holds h ..)
  | registerArchive path => exact hcounted (register_holds h ..)
  | registerImage image origin => exact hcounted (register_holds h ..)
  | forgetMisses => exact .inr (forgetMisses_holds loader volume host)
  | _ => exact .inr h

/-- A call comes to the same for loaders that are alike, if their misses hold or it wants no
unit. -/
theorem serve_alike {a b : Loader} (h : a.Alike b) (one : Call)
    (hwanted : (Layers.wanted? one).isSome → a.MissesHold volume host ∧ b.MissesHold volume host) :
    (a.serve volume host one).reply.bare = (b.serve volume host one).reply.bare ∧
      (a.serve volume host one).loader.Alike (b.serve volume host one).loader := by
  -- The three registrations come to a count or a fault, which are the same on both sides.
  have hregistered : ∀ {left right : Turn (Except Fault Nat)},
      (left.reply = right.reply ∧ left.loader.Alike right.loader) →
      (left.map Reply.count).reply.bare = (right.map Reply.count).reply.bare ∧
        (left.map Reply.count).loader.Alike (right.map Reply.count).loader :=
    fun hboth => ⟨congrArg Reply.count hboth.1, hboth.2⟩
  cases one with
  | load name _ =>
    obtain ⟨ha, hb⟩ := hwanted rfl
    obtain ⟨hreply, hloader, -⟩ := resolve_alike h ha hb name
    exact ⟨congrArg Reply.unit hreply, hloader⟩
  | find name =>
    obtain ⟨ha, hb⟩ := hwanted rfl
    obtain ⟨hreply, hloader, -⟩ := resolve_alike h ha hb name
    refine ⟨?_, hloader⟩
    exact (bare_foundReply _).trans
      ((congrArg Layers.foundReply hreply).trans (bare_foundReply _).symm)
  | preload unit =>
    obtain ⟨hreply, hloader⟩ := preload_alike h unit
    exact ⟨congrArg (fun result => (Reply.unit result).bare) hreply, hloader⟩
  | registerDirectory path =>
    refine hregistered ?_
    unfold registerDirectory
    rw [h.unitSuffix]
    exact register_alike h _ (addDirectory_alike h)
  | registerArchive path =>
    refine hregistered ?_
    unfold registerArchive
    rw [h.unitSuffix]
    exact register_alike h _ (addArchive_alike h)
  | registerImage image origin =>
    refine hregistered ?_
    unfold registerImage
    rw [h.unitSuffix]
    exact register_alike h _ (addArchive_alike h)
  | forgetMisses => exact ⟨rfl, { h with }⟩
  | _ => exact ⟨rfl, h⟩

end Loader

/-! ## Runs -/

namespace Layers

/-- A registration among the calls has succeeded, and no clear has come since. -/
def Uncleared (layers : Layers) (place : Nat) (calls : List Call) : Prop :=
  ∃ earlier one later count, calls = earlier ++ one :: later ∧
    ((layers.after (earlier.map (place, ·))).call place one).reply = .count (.ok count) ∧
    .forgetMisses ∉ later

/-- Every registration that succeeds is followed by a clear before the next lookup. -/
def ClearsInTime (layers : Layers) (place : Nat) (calls : List Call) : Prop :=
  ∀ before next rest, calls = before ++ next :: rest → (wanted? next).isSome →
    ¬ layers.Uncleared place before

theorem Uncleared.concat {layers : Layers} {place : Nat} {calls : List Call}
    (h : layers.Uncleared place calls) {one : Call} (hone : one ≠ .forgetMisses) :
    layers.Uncleared place (calls ++ [one]) := by
  obtain ⟨earlier, registration, later, count, rfl, hreply, hlater⟩ := h
  refine ⟨earlier, registration, later ++ [one], count, by simp, hreply, ?_⟩
  intro hmem
  rcases List.mem_append.mp hmem with hmem | hmem
  · exact hlater hmem
  · exact hone (List.mem_singleton.mp hmem).symm

theorem ClearsInTime.of_append {layers : Layers} {place : Nat} {calls more : List Call}
    (h : layers.ClearsInTime place (calls ++ more)) : layers.ClearsInTime place calls := by
  rintro before next rest rfl
  exact h before next (rest ++ more) (by simp)

theorem after_concat (layers : Layers) (place : Nat) (calls : List Call) (one : Call) :
    layers.after ((calls ++ [one]).map (place, ·)) =
      ((layers.after (calls.map (place, ·))).call place one).layers := by
  unfold after
  rw [List.map_append, List.foldl_append]
  rfl

/-- Two loaders that are alike stay so through a run. The misses of both hold whenever no
registration waits for a clear. -/
theorem run_alike {first second : Layers} {i j : Nat} {volume : Volume} {host : Host}
    {a b : Loader} (hfirst : first.Serves i volume host a) (hsecond : second.Serves j volume host b)
    (h : a.Alike b) (ha : a.MissesHold volume host) (hb : b.MissesHold volume host)
    {calls : List Call} (hcalls : ∀ one ∈ calls, one.isForUnits = true)
    (htidy : first.ClearsInTime i calls) :
    ∃ a' b' : Loader, (first.after (calls.map (i, ·))).Serves i volume host a' ∧
      (second.after (calls.map (j, ·))).Serves j volume host b' ∧ a'.Alike b' ∧
      (first.Uncleared i calls ∨ a'.MissesHold volume host ∧ b'.MissesHold volume host) := by
  induction calls using List.reverseRecOn with
  | nil => exact ⟨a, b, hfirst, hsecond, h, .inr ⟨ha, hb⟩⟩
  | append_singleton calls one ih =>
    obtain ⟨a', b', hfirst', hsecond', h', hstate⟩ :=
      ih (fun other hother => hcalls other (List.mem_append_left _ hother)) htidy.of_append
    have hone : one.isForUnits = true := hcalls one (List.mem_append_right _ (by simp))
    obtain ⟨hreply, hnext⟩ := call_of_serves hfirst' hone
    obtain ⟨-, hnext'⟩ := call_of_serves hsecond' hone
    have hcurrent : (wanted? one).isSome →
        a'.MissesHold volume host ∧ b'.MissesHold volume host := fun hwanted =>
      hstate.resolve_left (htidy calls one [] rfl hwanted)
    obtain ⟨hsame, halike⟩ := Loader.serve_alike h' one hcurrent
    refine ⟨_, _, ?_, ?_, halike, ?_⟩
    · rwa [after_concat]
    · rwa [after_concat]
    · -- A clear mends what a registration has broken.
      by_cases hclear : one = .forgetMisses
      · subst hclear
        exact .inr ⟨Loader.forgetMisses_holds _ _ _, Loader.forgetMisses_holds _ _ _⟩
      rcases hstate with huncleared | ⟨ha', hb'⟩
      · exact .inl (huncleared.concat hclear)
      -- If one of the two registers something, so does the other.
      rcases Loader.serve_holds ha' one, Loader.serve_holds hb' one with
        ⟨⟨count, hcount⟩ | hheld, ⟨count', hcount'⟩ | hheld'⟩
      · exact .inl ⟨calls, one, [], count, rfl, hreply.trans hcount, List.not_mem_nil⟩
      · exact .inl ⟨calls, one, [], count, rfl, hreply.trans hcount, List.not_mem_nil⟩
      · have hcount : (a'.serve volume host one).reply = .count (.ok count') :=
          Reply.eq_count_of_bare (hsame.trans (congrArg Reply.bare hcount'))
        exact .inl ⟨calls, one, [], count', rfl, hreply.trans hcount, List.not_mem_nil⟩
      · exact .inr ⟨hheld, hheld'⟩

end Layers

/-- A loader that has bound nothing and remembers no miss. -/
structure Loader.IsUnused (loader : Loader) : Prop where
  units : loader.memo.units = .empty
  misses : loader.memo.misses = .empty
  home : loader.home.value = Domain.default
  domains : loader.domains = .empty
  packages : loader.packages = []

theorem Loader.IsUnused.alike {a b : Loader} (ha : a.IsUnused) (hb : b.IsUnused)
    (hsuffix : a.options.unitSuffix = b.options.unitSuffix)
    (hlimit : a.options.maxUnitSize = b.options.maxUnitSize) (hsources : a.sources = b.sources) :
    a.Alike b := by
  refine ⟨hsuffix, hlimit, hsources, ?_, ?_, ?_, ha.packages.trans hb.packages.symm⟩
  · intro name
    unfold binding?
    rw [ha.units, hb.units]
  · unfold Shared.bare
    rw [ha.home, hb.home]
  · intro origin
    rw [ha.domains, hb.domains]

theorem Loader.IsUnused.holds {loader : Loader} (h : loader.IsUnused) (volume : Volume)
    (host : Host) : loader.MissesHold volume host := by
  intro name miss hmiss
  rw [h.misses] at hmiss
  cases (Table.get?_empty name).symm.trans hmiss

/-- The options with another word on what is remembered of failed lookups. -/
def Options.rememberingMisses (options : Options) (remembers : Bool)
    (markers suffixes : List String) : Options :=
  { options with
    remembersMisses := remembers
    probes := { options.probes with unitMarkers := markers, unitSuffixes := suffixes } }

/-- Two unused loaders over the same quiet host and the same sources that differ in what they may
remember of failed lookups come to the same, call by call, and provide and tell the same
afterwards. -/
theorem memory_of_misses_is_transparent {first second : Layers} {i j : Nat} {a b : Loader}
    {host : Host} (hfirst : first.layers[i]? = some ⟨a, host⟩)
    (hsecond : second.layers[j]? = some ⟨b, host⟩) (hquiet : host.IsQuiet)
    (hvolume : second.volume = first.volume) (ha : a.IsUnused) (hb : b.IsUnused)
    (hsources : b.sources = a.sources)
    (hoptions : ∃ remembers markers suffixes,
      b.options = a.options.rememberingMisses remembers markers suffixes)
    {calls : List Call} (hcalls : ∀ one ∈ calls, one.isForUnits = true)
    (htidy : first.ClearsInTime i calls) :
    ∀ before one rest, calls = before ++ one :: rest →
      let left := (first.after (before.map (i, ·))).call i one
      let right := (second.after (before.map (j, ·))).call j one
      left.reply.bare = right.reply.bare ∧
      ∃ a' b', left.layers.loaderAt? i = some a' ∧ right.layers.loaderAt? j = some b' ∧
        (∀ name, a'.isIndexed name = b'.isIndexed name) ∧ a'.summaries = b'.summaries := by
  rintro before one rest rfl
  obtain ⟨remembers, markers, suffixes, hoptions⟩ := hoptions
  have halike : a.Alike b :=
    ha.alike hb (by rw [hoptions]; rfl) (by rw [hoptions]; rfl) hsources.symm
  have hserves : first.Serves i first.volume host a := ⟨rfl, host, hquiet.succeeds, hfirst⟩
  have hserves' : second.Serves j first.volume host b := ⟨hvolume, host, hquiet.succeeds, hsecond⟩
  obtain ⟨a', b', hnow, hnow', halike, hstate⟩ :=
    Layers.run_alike hserves hserves' halike (ha.holds _ _) (hb.holds _ _)
      (fun other hother => hcalls other (List.mem_append_left _ hother)) htidy.of_append
  have hone : one.isForUnits = true :=
    hcalls one (List.mem_append_right before List.mem_cons_self)
  obtain ⟨hreply, hnext⟩ := Layers.call_of_serves hnow hone
  obtain ⟨hreply', hnext'⟩ := Layers.call_of_serves hnow' hone
  -- If the call wants a unit, the sequence has been cleared in time, and the
  -- misses of both loaders hold.
  obtain ⟨hsame, halike⟩ := Loader.serve_alike halike one fun hwanted =>
    hstate.resolve_left (htidy before one rest rfl hwanted)
  refine ⟨by rw [hreply, hreply', hsame], _, _, hnext.loaderAt?, hnext'.loaderAt?, ?_, ?_⟩
  · intro name
    unfold Loader.isIndexed
    rw [halike.sources]
  · exact congrArg Sources.summaries halike.sources

/-- A directory with a unit, and a loader that remembers misses or does not. -/
def shelf (tag : Nat) (remembers : Bool) : Layers :=
  ⟨{ root := .directory [("lib", .directory [("a.unit", .file 0)])], contents := #[⟨#[1]⟩] },
    [⟨.create tag (({} : Options).rememberingMisses remembers [] []) {}, .none⟩]⟩

/-- The directory is registered, and a name is looked up twice that it does not have. One loader
recalls the first miss, and the other one searches again. -/
theorem memory_of_misses_is_transparent_twice :
    let before := [Call.registerDirectory "/lib", .forgetMisses, .load "b" false]
    (((shelf 0 true).after (before.map (0, ·))).call 0 (.load "b" false)).reply.bare =
        (((shelf 1 false).after (before.map (0, ·))).call 0 (.load "b" false)).reply.bare ∧
      (((shelf 0 true).after (before.map (0, ·))).call 0 (.load "b" false)).reply =
        .unit (.error (.unitNotFound ⟨⟨0, 1⟩, ⟨"b", .sources 1 0⟩⟩)) ∧
      (((shelf 1 false).after (before.map (0, ·))).call 0 (.load "b" false)).reply =
        .unit (.error (.unitNotFound ⟨⟨1, 2⟩, ⟨"b", .sources 1 0⟩⟩)) := by
  intro before
  have htidy : (shelf 0 true).ClearsInTime 0 (before ++ [.load "b" false]) := by
    -- Nothing has been missed before the clear, and nothing is registered after it, wherever the
    -- run is cut.
    rintro before next rest hsplit hwanted ⟨earlier, one, later, count, rfl, hreply, hlater⟩
    rcases earlier with _ | ⟨_, _ | ⟨_, _ | ⟨_, earlier⟩⟩⟩ <;> rw [List.append_assoc] at hsplit
    · rcases later with _ | ⟨_, later⟩
      · obtain rfl : Call.forgetMisses = next := (List.cons.inj (List.cons.inj hsplit).2).1
        cases hwanted
      · obtain rfl := (List.cons.inj (List.cons.inj hsplit).2).1
        exact hlater List.mem_cons_self
    · obtain ⟨rfl, hcleared⟩ := List.cons.inj hsplit
      obtain rfl := (List.cons.inj hcleared).1
      cases hreply
    · obtain ⟨rfl, hcleared⟩ := List.cons.inj hsplit
      obtain ⟨rfl, hloaded⟩ := List.cons.inj hcleared
      obtain rfl := (List.cons.inj hloaded).1
      have hmissing : (((shelf 0 true).after ([Call.registerDirectory "/lib", .forgetMisses].map
          (0, ·))).call 0 (.load "b" false)).reply =
            .unit (.error (.unitNotFound ⟨⟨0, 1⟩, ⟨"b", .sources 1 0⟩⟩)) := by cbv
      cases hmissing.symm.trans hreply
    · have hlength := congrArg List.length hsplit
      simp [before] at hlength
      omega
  have hsame := @memory_of_misses_is_transparent (shelf 0 true) (shelf 1 false) 0 0 _ _ .none rfl
    rfl trivial rfl ⟨rfl, rfl, rfl, rfl, rfl⟩ ⟨rfl, rfl, rfl, rfl, rfl⟩ rfl
    ⟨false, [], [], rfl⟩ _ (by decide) htidy before (.load "b" false) [] rfl
  exact ⟨hsame.1, by cbv, by cbv⟩

end LayeredUnits
