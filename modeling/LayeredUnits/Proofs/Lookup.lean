import LayeredUnits.Loader.Lookup

/-!
# What finishing a lookup changes

`finishLookup` is the only operation with many ways out, and so it is taken
apart once, here:

* `domainAt_loader` — finding a domain touches the domains, the packages and
  the supply of instances, and nothing else;
* `define_eq` — a definition binds one name, unless it is bound, and the reply
  is the unit that is bound then;
* `tryPlaces_cases` — the places are read one after the other up to the first
  that can be read;
* `finishLookup_cases` — a lookup ends with the unit of the host, with the
  first copy that can be read, or with a miss.

Everything that later modules say about a lookup follows from the last one.
-/

namespace LayeredUnits.Loader

theorem beginLookup_ticket {loader loader' : Loader} {name : String} {ticket : Ticket}
    {events : List Event} (h : loader.beginLookup name = ⟨.waiting ticket, loader', events⟩) :
    ticket = ⟨name, loader.generation, loader.sources⟩ := by
  unfold beginLookup at h
  split at h
  · cases h
  · split at h <;> cases h
    rfl

/-- None of the places can be read, as the files are now. There may be no place at all. -/
def Unreadable (volume : Volume) (limit : Nat) (places : List Place) : Prop :=
  ∀ place ∈ places, ∃ fault, place.read volume limit = .error fault

/-- The loader after a definition: one more unit, and whatever it took to find the domain. -/
def defining (loader : Loader) (name : String) (unit : Shared CodeUnit)
    (domains : Table (Shared Domain)) (packages : List (Nat × Package)) (issued : Nat) : Loader :=
  { loader with
    memo := loader.memo.insertUnit name unit
    domains := domains
    packages := packages
    issued := issued
    counters := { loader.counters with definitions := loader.counters.definitions + 1 } }

theorem package_loader (loader : Loader) (volume : Volume) (number : Nat) (archive : Archive) :
    ∃ packages, (loader.package volume number archive).loader =
      { loader with packages := packages } := by
  unfold package
  split
  · exact ⟨loader.packages, rfl⟩
  · exact ⟨(number, _) :: loader.packages, rfl⟩

theorem domainOf_loader (loader : Loader) (volume : Volume) (number : Nat) (archive : Archive) :
    ∃ domains packages issued, (loader.domainOf volume number archive).loader =
      { loader with domains := domains, packages := packages, issued := issued } := by
  unfold domainOf
  split
  · exact ⟨loader.domains, loader.packages, loader.issued, rfl⟩
  · obtain ⟨packages, hloader⟩ := package_loader loader volume number archive
    generalize loader.package volume number archive = turn at hloader ⊢
    obtain ⟨package, found, events⟩ := turn
    subst hloader
    exact ⟨_, packages, loader.issued + 1, rfl⟩

theorem domainAt_loader (loader : Loader) (volume : Volume) (place : Place) :
    ∃ domains packages issued, (loader.domainAt volume place).loader =
      { loader with domains := domains, packages := packages, issued := issued } := by
  cases place with
  | file root path => exact ⟨loader.domains, loader.packages, loader.issued, rfl⟩
  | entry number archive name => exact domainOf_loader loader volume number archive

/-- A definition binds the name, unless it is bound, to a unit with these bytes. -/
theorem define_eq (loader : Loader) (volume : Volume) (name : String) (bytes : ByteArray)
    (place : Place) :
    ∃ unit domains packages issued,
      unit.value.name = name ∧ unit.value.bytes = bytes ∧ unit.value.origin = place.origin ∧
      (loader.define volume name bytes place).reply = loader.memo.boundUnit name unit ∧
      (loader.define volume name bytes place).loader =
        loader.defining name unit domains packages issued := by
  obtain ⟨domains, packages, issued, hloader⟩ := domainAt_loader loader volume place
  unfold define
  generalize loader.domainAt volume place = turn at hloader ⊢
  obtain ⟨domain, found, events⟩ := turn
  subst hloader
  exact ⟨⟨⟨loader.tag, issued⟩, ⟨name, bytes, place.origin, domain⟩⟩, domains, packages,
    issued + 1, rfl, rfl, rfl, rfl, rfl⟩

/-- The loader after so many more reads. To read a copy in vain leaves no other trace. -/
def readTimes (loader : Loader) (times : Nat) : Loader :=
  loader.count fun c => { c with byteReads := c.byteReads + times }

theorem readTimes_succ (loader : Loader) (times : Nat) :
    (loader.readTimes 1).readTimes times = loader.readTimes (times + 1) := by
  simp [readTimes, count, Nat.add_assoc, Nat.add_comm 1]

theorem tryPlaces_of_ok {loader : Loader} {volume : Volume} {place : Place} {bytes : ByteArray}
    (name : String) (rest : List Place)
    (h : place.read volume loader.options.maxUnitSize = .ok bytes) :
    (loader.tryPlaces volume name (place :: rest)).reply =
        some ((loader.readTimes 1).define volume name bytes place).reply ∧
      (loader.tryPlaces volume name (place :: rest)).loader =
        ((loader.readTimes 1).define volume name bytes place).loader := by
  simp only [tryPlaces, count, h]
  exact ⟨rfl, rfl⟩

theorem tryPlaces_of_error {loader : Loader} {volume : Volume} {place : Place} {fault : Fault}
    (name : String) (rest : List Place)
    (h : place.read volume loader.options.maxUnitSize = .error fault) :
    (loader.tryPlaces volume name (place :: rest)).reply =
        ((loader.readTimes 1).tryPlaces volume name rest).reply ∧
      (loader.tryPlaces volume name (place :: rest)).loader =
        ((loader.readTimes 1).tryPlaces volume name rest).loader := by
  simp only [tryPlaces, count, h]
  exact ⟨rfl, rfl⟩

/-- The places are read in turn. Either none can be read, or the first that can be read is
defined, and the places behind it are not looked at. -/
theorem tryPlaces_cases (volume : Volume) (name : String) (places : List Place) :
    ∀ loader : Loader,
      (Unreadable volume loader.options.maxUnitSize places ∧
        (loader.tryPlaces volume name places).reply = none ∧
        (loader.tryPlaces volume name places).loader = loader.readTimes places.length) ∨
      (∃ failed place rest bytes,
        places = failed ++ place :: rest ∧
        Unreadable volume loader.options.maxUnitSize failed ∧
        place.read volume loader.options.maxUnitSize = .ok bytes ∧
        (loader.tryPlaces volume name places).reply =
          some ((loader.readTimes (failed.length + 1)).define volume name bytes place).reply ∧
        (loader.tryPlaces volume name places).loader =
          ((loader.readTimes (failed.length + 1)).define volume name bytes place).loader) := by
  induction places with
  | nil =>
    intro loader
    exact .inl ⟨fun place hplace => absurd hplace List.not_mem_nil, rfl, rfl⟩
  | cons place rest ih =>
    intro loader
    cases hread : place.read volume loader.options.maxUnitSize with
    | ok bytes =>
      -- The search ends here, and no place has failed.
      obtain ⟨hreply, hloader⟩ := tryPlaces_of_ok name rest hread
      refine .inr ⟨[], place, rest, bytes, rfl, ?_, hread, hreply, hloader⟩
      intro other hother
      exact absurd hother List.not_mem_nil
    | error fault =>
      obtain ⟨hreply, hloader⟩ := tryPlaces_of_error name rest hread
      have hmore : ∀ failed, Unreadable volume loader.options.maxUnitSize failed →
          Unreadable volume loader.options.maxUnitSize (place :: failed) := by
        intro failed hfailed other hother
        rcases List.mem_cons.mp hother with rfl | hother
        · exact ⟨fault, hread⟩
        · exact hfailed other hother
      rw [hreply, hloader]
      -- The rest is searched by a loader that has read once more, with the same limit.
      rcases ih (loader.readTimes 1) with ⟨hall, hnone, hcount⟩ |
        ⟨failed, first, behind, bytes, hrest, hfailed, hfirst, hsome, hdefined⟩
      · refine .inl ⟨hmore rest hall, hnone, ?_⟩
        rw [hcount, readTimes_succ, List.length_cons]
      · refine .inr ⟨place :: failed, first, behind, bytes, ?_, hmore failed hfailed, hfirst, ?_, ?_⟩
        · rw [hrest, List.cons_append]
        · rw [hsome, readTimes_succ, List.length_cons]
        · rw [hdefined, readTimes_succ, List.length_cons]

/-- The record that a failing lookup makes, whether or not it is the one that it replies. -/
def freshMiss (loader : Loader) (ticket : Ticket) : Shared Miss :=
  ⟨loader.nextToken, missOf ticket.name ticket.sources⟩

theorem mayRemember_iff {loader : Loader} {ticket : Ticket} :
    loader.mayRemember ticket = true ↔ loader.options.remembersMisses = true ∧
      loader.options.probes.remembersMiss ticket.name = true ∧
      loader.generation = ticket.generation := by
  unfold mayRemember
  rw [Bool.and_eq_true_iff, Bool.and_eq_true_iff, beq_iff_eq, and_assoc]

/-- A record is kept or not, and one that is remembered already takes its place. -/
theorem recordMiss_cases (loader : Loader) (ticket : Ticket) :
    (loader.mayRemember ticket = true ∧
      (loader.recordMiss ticket).reply =
        loader.memo.keptMiss ticket.name (loader.freshMiss ticket) ∧
      (loader.recordMiss ticket).loader =
        { loader.issue with
          memo := (loader.memo.intern ticket.name).rememberMiss ticket.name
            (loader.freshMiss ticket) }) ∨
    (loader.mayRemember ticket = false ∧
      (loader.recordMiss ticket).reply = loader.freshMiss ticket ∧
      (loader.recordMiss ticket).loader = loader.issue) := by
  have hissue : loader.issue.mayRemember ticket = loader.mayRemember ticket := rfl
  unfold recordMiss
  cases hmay : loader.mayRemember ticket with
  | true =>
    rw [if_pos (hissue.trans hmay)]
    exact .inl ⟨rfl, rfl, rfl⟩
  | false =>
    rw [if_neg (by rw [hissue, hmay]; decide)]
    exact .inr ⟨rfl, rfl, rfl⟩

/-- The loader when a lookup has turned from the host to the sources. -/
def searching (loader : Loader) : Loader :=
  loader.count fun c => { c with localSearches := c.localSearches + 1 }

theorem finishLookup_of_found {loader : Loader} {volume : Volume} {ticket : Ticket}
    {after : Loader} {unit : Shared CodeUnit}
    (hreply : (loader.searching.tryPlaces volume ticket.name
      (ticket.sources.places ticket.name)).reply = some unit)
    (hloader : (loader.searching.tryPlaces volume ticket.name
      (ticket.sources.places ticket.name)).loader = after) :
    (loader.finishLookup volume ticket none).reply = .ok unit ∧
      (loader.finishLookup volume ticket none).loader = after := by
  unfold searching at hreply hloader
  dsimp only [finishLookup]
  rw [hreply]
  exact ⟨rfl, hloader⟩

theorem finishLookup_of_missing {loader : Loader} {volume : Volume} {ticket : Ticket}
    {after : Loader}
    (hreply : (loader.searching.tryPlaces volume ticket.name
      (ticket.sources.places ticket.name)).reply = none)
    (hloader : (loader.searching.tryPlaces volume ticket.name
      (ticket.sources.places ticket.name)).loader = after) :
    (loader.finishLookup volume ticket none).reply =
        .error (.unitNotFound (after.recordMiss ticket).reply) ∧
      (loader.finishLookup volume ticket none).loader = (after.recordMiss ticket).loader := by
  unfold searching at hreply hloader
  dsimp only [finishLookup]
  rw [hreply, hloader]
  exact ⟨rfl, rfl⟩

/-- A lookup ends with the unit of the host, with the first copy that can be read, or with a
miss. In the first two cases a unit that has been bound in the meantime is the reply. -/
theorem finishLookup_cases (loader : Loader) (volume : Volume) (ticket : Ticket)
    (answer : Option (Shared CodeUnit)) :
    (∃ unit, answer = some unit ∧
      (loader.finishLookup volume ticket answer).reply =
        .ok (loader.memo.boundUnit ticket.name unit) ∧
      (loader.finishLookup volume ticket answer).loader =
        { loader with memo := (loader.memo.intern ticket.name).insertUnit ticket.name unit }) ∨
    (answer = none ∧ ∃ failed place rest bytes unit domains packages issued,
      ticket.sources.places ticket.name = failed ++ place :: rest ∧
      Unreadable volume loader.options.maxUnitSize failed ∧
      place.read volume loader.options.maxUnitSize = .ok bytes ∧
      unit.value.name = ticket.name ∧ unit.value.bytes = bytes ∧
      unit.value.origin = place.origin ∧
      (loader.finishLookup volume ticket answer).reply =
        .ok (loader.memo.boundUnit ticket.name unit) ∧
      (loader.finishLookup volume ticket answer).loader =
        (loader.searching.readTimes (failed.length + 1)).defining ticket.name unit domains
          packages issued) ∨
    (answer = none ∧
      Unreadable volume loader.options.maxUnitSize (ticket.sources.places ticket.name) ∧
      ∃ searched,
        searched = loader.searching.readTimes (ticket.sources.places ticket.name).length ∧
        (loader.finishLookup volume ticket answer).reply =
          .error (.unitNotFound (searched.recordMiss ticket).reply) ∧
        (loader.finishLookup volume ticket answer).loader =
          (searched.recordMiss ticket).loader) := by
  cases answer with
  | some unit => exact .inl ⟨unit, rfl, rfl, rfl⟩
  | none =>
    -- The host has nothing, so the places decide: none of them can be read, or
    -- there is a first one that can.
    refine .inr ?_
    rcases tryPlaces_cases volume ticket.name (ticket.sources.places ticket.name)
        loader.searching with
      ⟨hall, hreply, hloader⟩ | ⟨failed, place, rest, bytes, hplaces, hfailed, hread, hreply, hloader⟩
    · exact .inr ⟨rfl, hall, _, rfl, finishLookup_of_missing hreply hloader⟩
    · obtain ⟨unit, domains, packages, issued, hname, hbytes, horigin, hkept, hdefined⟩ :=
        define_eq (loader.searching.readTimes (failed.length + 1)) volume ticket.name bytes place
      obtain ⟨hreply, hloader⟩ := finishLookup_of_found hreply hloader
      exact .inl ⟨rfl, failed, place, rest, bytes, unit, domains, packages, issued, hplaces,
        hfailed, hread, hname, hbytes, horigin, hreply.trans (congrArg Except.ok hkept),
        hloader.trans hdefined⟩

end LayeredUnits.Loader
