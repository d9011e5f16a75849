import LayeredUnits.Proofs.Below
import LayeredUnits.Proofs.Definitions
import LayeredUnits.Proofs.Manifests
import LayeredUnits.Proofs.Tolerance

/-!
# One domain per origin

Units that come from archives of one origin share a security domain, and it
holds what the manifest of one archive says: that of the archive from which the
first of these units was defined. Two memories make it so. `domains` keeps the
domain of an origin and `packages` what a manifest said, and both are written
by a definition only, when the origin is new.

* `describes_iff` — what an archive says about its package, whatever is wrong
  with its manifest.
* `DomainsOf` — the invariant: what both memories are, in terms of the
  definitions that there have been. `DomainsOf.add_known` and
  `DomainsOf.add_new` are the two ways in which a definition keeps it.
* `one_domain_per_origin` — what it says about the units of any history, and
  that to look for a resource or to open one is no way to read a manifest.
-/

namespace LayeredUnits

/-! ## What a manifest says -/

namespace Archive

/-- What an archive says about its package. It says nothing unless it has a manifest that can be
read whole, that is neither empty nor larger than 64 KiB, and that is a text of the right form. -/
inductive Describes (archive : Archive) (volume : Volume) : Package → Prop
  | absent (h : archive.hasFile manifestEntry = false) : Describes archive volume .empty
  | unreadable {fault : Fault} (h : archive.openEntry volume manifestEntry = .error fault) :
      Describes archive volume .empty
  | blank {blob : Blob} (hopen : archive.openEntry volume manifestEntry = .ok blob)
      (h : blob.declared = 0) : Describes archive volume .empty
  | large {blob : Blob} (hopen : archive.openEntry volume manifestEntry = .ok blob)
      (h : 64 * 1024 < blob.declared) : Describes archive volume .empty
  | broken {blob : Blob} {cause : ReadFault}
      (hopen : archive.openEntry volume manifestEntry = .ok blob)
      (h : blob.stream.exactly blob.declared = .error cause) : Describes archive volume .empty
  | undecoded {blob : Blob} {bytes : ByteArray} {defect : Text.Utf8.Defect}
      (hopen : archive.openEntry volume manifestEntry = .ok blob)
      (hread : blob.stream.exactly blob.declared = .ok bytes)
      (h : Text.Utf8.decode bytes = .error defect) : Describes archive volume .empty
  | malformed {blob : Blob} {bytes : ByteArray} {text : String}
      (hopen : archive.openEntry volume manifestEntry = .ok blob)
      (hread : blob.stream.exactly blob.declared = .ok bytes)
      (htext : Text.Utf8.decode bytes = .ok text) (h : ∀ package, ¬ Manifest.Says text package) :
      Describes archive volume .empty
  | parsed {blob : Blob} {bytes : ByteArray} {text : String} {package : Package}
      (hfile : archive.hasFile manifestEntry = true)
      (hopen : archive.openEntry volume manifestEntry = .ok blob)
      (hleast : 0 < blob.declared) (hmost : blob.declared ≤ 64 * 1024)
      (hread : blob.stream.exactly blob.declared = .ok bytes)
      (htext : Text.Utf8.decode bytes = .ok text) (h : Manifest.Says text package) :
      Describes archive volume package

theorem manifestBytes_iff {archive : Archive} {volume : Volume} {bytes : ByteArray} :
    archive.unitBytes volume manifestEntry maxManifestSize = .ok bytes ↔
      ∃ blob, archive.openEntry volume manifestEntry = .ok blob ∧
        0 < blob.declared ∧ blob.declared ≤ 64 * 1024 ∧
        blob.stream.exactly blob.declared = .ok bytes := by
  have hmost : min maxManifestSize maxSize = 64 * 1024 := by decide
  rw [unitBytes_eq, hmost]
  cases archive.openEntry volume manifestEntry with
  | error fault => simp [bind, Except.bind]
  | ok blob => simp [bind, Except.bind, Blob.within_iff, Nat.one_le_iff_ne_zero,
      Nat.pos_iff_ne_zero]

/-- A manifest that can be used: it is read whole, it is a text, and the text says something. -/
theorem manifest_iff {archive : Archive} {volume : Volume} {package : Package} :
    archive.manifest volume = .ok package ↔
      ∃ blob bytes text, archive.openEntry volume manifestEntry = .ok blob ∧
        (0 < blob.declared ∧ blob.declared ≤ 64 * 1024 ∧
          blob.stream.exactly blob.declared = .ok bytes) ∧
        Text.Utf8.decode bytes = .ok text ∧ Manifest.Says text package := by
  unfold manifest
  constructor
  · -- Three steps, each of which may fail: the bytes, the text in them, and what it says.
    intro h
    cases hbytes : archive.unitBytes volume manifestEntry maxManifestSize with
    | error fault =>
      rw [hbytes] at h
      cases h
    | ok bytes =>
      rw [hbytes] at h
      obtain ⟨blob, hopen, hread⟩ := manifestBytes_iff.mp hbytes
      cases htext : Text.Utf8.decode bytes with
      | error defect => simp [bind, Except.bind, htext] at h
      | ok text =>
        simp only [bind, Except.bind, htext] at h
        exact ⟨blob, bytes, text, hopen, hread, htext, Package.ofToml_iff.mp h⟩
  · intro h
    obtain ⟨blob, bytes, text, hopen, hread, htext, hsays⟩ := h
    rw [manifestBytes_iff.mpr ⟨blob, hopen, hread⟩]
    simp only [bind, Except.bind, htext]
    exact Package.ofToml_iff.mpr hsays

theorem package_of_unusable {archive : Archive} {volume : Volume}
    (h : ∀ package, archive.manifest volume ≠ .ok package) :
    (archive.package volume).1 = .empty := by
  unfold package
  cases hmanifest : archive.manifest volume with
  | ok package => exact absurd hmanifest (h package)
  | error fault => split <;> rfl

theorem package_of_manifest {archive : Archive} {volume : Volume} {package : Package}
    (hfile : archive.hasFile manifestEntry = true) (h : archive.manifest volume = .ok package) :
    (archive.package volume).1 = package := by
  unfold Archive.package
  rw [if_pos hfile, h]

/-- An archive says one thing about its package, and that is what is read. -/
theorem describes_iff {archive : Archive} {volume : Volume} {package : Package} :
    archive.Describes volume package ↔ (archive.package volume).1 = package := by
  constructor
  · intro h
    -- Each defect stands in the way of one of the things that a manifest needs.
    have hunusable (hdefect : ∀ blob bytes text package,
        archive.openEntry volume manifestEntry = .ok blob →
        (0 < blob.declared ∧ blob.declared ≤ 64 * 1024 ∧
          blob.stream.exactly blob.declared = .ok bytes) →
        Text.Utf8.decode bytes = .ok text → ¬ Manifest.Says text package) :
        (archive.package volume).1 = .empty := by
      refine package_of_unusable fun package hmanifest => ?_
      obtain ⟨blob, bytes, text, hopen, hread, htext, hpackage⟩ := manifest_iff.mp hmanifest
      exact hdefect blob bytes text package hopen hread htext hpackage
    cases h with
    | absent hfile =>
      unfold Archive.package
      rw [if_neg (by rw [hfile]; decide)]
    | parsed hfile hopen hleast hmost hread htext hpackage =>
      exact package_of_manifest hfile
        (manifest_iff.mpr ⟨_, _, _, hopen, ⟨hleast, hmost, hread⟩, htext, hpackage⟩)
    | _ => exact hunusable (by grind)
  · rintro rfl
    cases hfile : archive.hasFile manifestEntry with
    | false =>
      have hnone : (archive.package volume).1 = .empty := by
        unfold package
        rw [if_neg (by rw [hfile]; decide)]
      rw [hnone]
      exact .absent hfile
    | true =>
      cases hmanifest : archive.manifest volume with
      | ok package =>
        obtain ⟨blob, bytes, text, hopen, ⟨hleast, hmost, hread⟩, htext, hpackage⟩ :=
          manifest_iff.mp hmanifest
        rw [package_of_manifest hfile hmanifest]
        exact .parsed hfile hopen hleast hmost hread htext hpackage
      | error fault =>
        -- What is wrong is the first thing that goes wrong.
        have hnone : ∀ package, archive.manifest volume ≠ .ok package := by
          intro package h
          cases hmanifest.symm.trans h
        rw [package_of_unusable hnone]
        cases hopen : archive.openEntry volume manifestEntry with
        | error cause => exact .unreadable hopen
        | ok blob =>
          rcases Nat.eq_zero_or_pos blob.declared with hblank | hleast
          · exact .blank hopen hblank
          rcases Nat.lt_or_ge (64 * 1024) blob.declared with hlarge | hmost
          · exact .large hopen hlarge
          cases hread : blob.stream.exactly blob.declared with
          | error cause => exact .broken hopen hread
          | ok bytes =>
            cases htext : Text.Utf8.decode bytes with
            | error defect => exact .undecoded hopen hread htext
            | ok text =>
              refine .malformed hopen hread htext fun package hsays => hnone package ?_
              exact manifest_iff.mpr
                ⟨blob, bytes, text, hopen, ⟨hleast, hmost, hread⟩, htext, hsays⟩

/-- What is in memory does not change with the files, so the manifest of such an archive says one
thing for good. -/
theorem package_of_held {archive : Archive} {bytes : ByteArray}
    (h : archive.image = .held bytes) (volume other : Volume) :
    archive.package volume = archive.package other := by
  have hopen (name : String) : archive.openEntry volume name = archive.openEntry other name := by
    unfold openEntry
    rw [h]
    rfl
  unfold package manifest
  rw [unitBytes_eq, unitBytes_eq, hopen]

end Archive

/-! ## The first definition of an origin -/

/-- The definition is the first of the log that is from an archive of its origin. This archive has
this number. -/
def FirstFrom (log : List Definition) (number : Nat) (archive : Archive) (one : Definition) :
    Prop :=
  ∃ earlier later entry, log = earlier ++ one :: later ∧
    one.place = .entry number archive entry ∧
    ∀ other ∈ earlier, other.place.origin ≠ .archive archive.origin

theorem Place.origin_eq_archive {place : Place} {origin : String}
    (h : place.origin = .archive origin) :
    ∃ number archive entry, place = .entry number archive entry ∧ archive.origin = origin := by
  cases place with
  | file root path => cases h
  | entry number archive entry =>
    cases h
    exact ⟨number, archive, entry, rfl, rfl⟩

namespace FirstFrom

variable {log : List Definition} {number : Nat} {archive : Archive} {one made : Definition}

theorem mem (h : FirstFrom log number archive one) : one ∈ log := by
  obtain ⟨earlier, later, entry, rfl, -⟩ := h
  exact List.mem_append_right earlier List.mem_cons_self

theorem place (h : FirstFrom log number archive one) :
    ∃ entry, one.place = .entry number archive entry := by
  obtain ⟨earlier, later, entry, -, hplace, -⟩ := h
  exact ⟨entry, hplace⟩

theorem concat (h : FirstFrom log number archive one) :
    FirstFrom (log ++ [made]) number archive one := by
  obtain ⟨earlier, later, entry, rfl, hplace, hearlier⟩ := h
  exact ⟨earlier, later ++ [made], entry, by simp, hplace, hearlier⟩

/-- One more definition is the first of its origin, or it does not matter. -/
theorem of_concat (h : FirstFrom (log ++ [made]) number archive one) :
    FirstFrom log number archive one ∨
      (one = made ∧ (∃ entry, made.place = .entry number archive entry) ∧
        ∀ other ∈ log, other.place.origin ≠ .archive archive.origin) := by
  obtain ⟨earlier, later, entry, hlog, hplace, hearlier⟩ := h
  rcases List.eq_nil_or_concat later with rfl | ⟨front, last, rfl⟩
  · obtain ⟨hfront, hlast⟩ := List.append_inj' hlog rfl
    cases hlast
    subst hfront
    exact .inr ⟨rfl, ⟨entry, hplace⟩, hearlier⟩
  · rw [List.concat_eq_append, ← List.cons_append, ← List.append_assoc] at hlog
    obtain ⟨hfront, -⟩ := List.append_inj' hlog rfl
    exact .inl ⟨earlier, front, entry, hfront, hplace, hearlier⟩

end FirstFrom

/-! ## What the memories hold -/

/-- The loader has made these definitions, and it has domains and packages for nothing else. -/
structure DomainsOf (log : List Definition) (loader : Loader) : Prop where
  issued : 0 < loader.issued
  home : loader.home = ⟨⟨loader.tag, 0⟩, Domain.default⟩
  /-- A file gets the domain of all files, and an entry that of its origin. -/
  files : ∀ one ∈ log, ∀ root path, one.place = .file root path → one.domain = loader.home
  entries : ∀ one ∈ log, ∀ number archive entry, one.place = .entry number archive entry →
    loader.domains.get? archive.origin = some one.domain
  /-- A domain was made by the first definition from its origin, and no other instance was. -/
  domains : ∀ origin domain, loader.domains.get? origin = some domain →
    ∃ number archive first serial, FirstFrom log number archive first ∧ archive.origin = origin ∧
      domain = ⟨⟨loader.tag, serial⟩, .archive origin (archive.package first.volume).1⟩ ∧
      0 < serial ∧ serial < loader.issued
  apart : ∀ origin domain other twin, loader.domains.get? origin = some domain →
    loader.domains.get? other = some twin → domain.token = twin.token → origin = other
  /-- A manifest was read by the first definition from its origin. -/
  packages : ∀ number package, (number, package) ∈ loader.packages ↔
    ∃ archive first, FirstFrom log number archive first ∧
      package = (archive.package first.volume).1
  once : (loader.packages.map Prod.fst).Nodup
  counted : loader.counters.definitions = log.length

namespace DomainsOf

variable {log : List Definition} {loader later : Loader}

/-- A new loader has made its home only. -/
theorem create (tag : Nat) (options : Options) (memo : Memo) :
    DomainsOf [] (.create tag options memo) where
  issued := Nat.one_pos
  home := rfl
  files := fun one hone => absurd hone List.not_mem_nil
  entries := fun one hone => absurd hone List.not_mem_nil
  domains := fun origin domain hget => nomatch hget
  apart := fun origin domain other twin hget => nomatch hget
  packages := by
    intro number package
    constructor
    · intro hmem
      exact absurd hmem List.not_mem_nil
    · rintro ⟨archive, first, hfirst, -⟩
      exact absurd hfirst.mem List.not_mem_nil
  once := List.nodup_nil
  counted := rfl

/-- Only what is from an origin with a domain is from the origin of an earlier definition. -/
theorem held_iff (h : DomainsOf log loader) (origin : String) :
    (∃ domain, loader.domains.get? origin = some domain) ↔
      ∃ other ∈ log, other.place.origin = .archive origin := by
  constructor
  · rintro ⟨domain, hget⟩
    obtain ⟨number, archive, first, serial, hfirst, rfl, -⟩ := h.domains origin domain hget
    obtain ⟨entry, hplace⟩ := hfirst.place
    exact ⟨first, hfirst.mem, by rw [hplace]; rfl⟩
  · rintro ⟨other, hother, horigin⟩
    obtain ⟨number, archive, entry, hplace, rfl⟩ := Place.origin_eq_archive horigin
    exact ⟨other.domain, h.entries other hother number archive entry hplace⟩

/-- Where no origin is new, the memories stay as they are, however many definitions there are. -/
theorem extend (h : DomainsOf log loader) (added : List Definition)
    (hold : ∀ number archive first, FirstFrom (log ++ added) number archive first ↔
      FirstFrom log number archive first)
    (hfiles : ∀ one ∈ added, ∀ root path, one.place = .file root path → one.domain = loader.home)
    (hentries : ∀ one ∈ added, ∀ number archive entry, one.place = .entry number archive entry →
      loader.domains.get? archive.origin = some one.domain)
    (hlater : later.holdings =
      ⟨loader.tag, loader.home, loader.domains, loader.packages,
        loader.counters.definitions + added.length⟩)
    (hissued : loader.issued ≤ later.issued) : DomainsOf (log ++ added) later := by
  obtain ⟨htag, hhome, hdomains, hpackages, hcounted⟩ := Loader.Holdings.mk.inj hlater
  constructor
  · exact Nat.lt_of_lt_of_le h.issued hissued
  · rw [hhome, htag]
    exact h.home
  · intro one hone
    rw [hhome]
    rcases List.mem_append.mp hone with hone | hone
    · exact h.files one hone
    · exact hfiles one hone
  · intro one hone
    rw [hdomains]
    rcases List.mem_append.mp hone with hone | hone
    · exact h.entries one hone
    · exact hentries one hone
  · rw [hdomains, htag]
    intro origin domain hget
    obtain ⟨number, archive, first, serial, hfirst, horigin, hdomain, hpos, hlt⟩ :=
      h.domains origin domain hget
    exact ⟨number, archive, first, serial, (hold ..).mpr hfirst, horigin, hdomain, hpos,
      Nat.lt_of_lt_of_le hlt hissued⟩
  · rw [hdomains]
    exact h.apart
  · -- The first definition from each archive is the one that it was, so its
    -- package has been made already.
    simp only [hold, hpackages]
    exact h.packages
  · rw [hpackages]
    exact h.once
  · rw [hcounted, h.counted, List.length_append]

/-- Other instances do not matter: what a loader makes in between only moves the next number on. -/
theorem of_definesNothing (h : DomainsOf log loader) (hlater : loader.DefinesNothing later) :
    DomainsOf log later := by
  have hextended : DomainsOf (log ++ []) later := by
    refine h.extend [] ?_ ?_ ?_ hlater.holdings hlater.issued
    · intro number archive first
      rw [List.append_nil]
    · intro one hone
      exact absurd hone List.not_mem_nil
    · intro one hone
      exact absurd hone List.not_mem_nil
  rwa [List.append_nil] at hextended

/-- A definition that needs no new domain: its origin has one, and no manifest is read. -/
theorem add_known (h : DomainsOf log loader) {one : Definition}
    (hfile : ∀ root path, one.place = .file root path → one.domain = loader.home)
    (hentry : ∀ number archive entry, one.place = .entry number archive entry →
      loader.domains.get? archive.origin = some one.domain)
    (hlater : later.holdings =
      ⟨loader.tag, loader.home, loader.domains, loader.packages,
        loader.counters.definitions + 1⟩)
    (hissued : loader.issued ≤ later.issued) : DomainsOf (log ++ [one]) later := by
  refine h.extend [one] ?_ ?_ ?_ hlater hissued
  · -- Its origin, if it has one, has a domain already, so it is the first of none.
    intro number archive first
    refine ⟨fun hnew => ?_, FirstFrom.concat⟩
    rcases hnew.of_concat with hold | ⟨-, ⟨entry, hplace⟩, hnone⟩
    · exact hold
    · obtain ⟨other, hother, horigin⟩ :=
        (h.held_iff archive.origin).mp ⟨one.domain, hentry number archive entry hplace⟩
      exact absurd horigin (hnone other hother)
  · intro other hother
    rw [List.mem_singleton.mp hother]
    exact hfile
  · intro other hother
    rw [List.mem_singleton.mp hother]
    exact hentry

/-- A definition that is the first of its origin. The domain is a new instance, and the archive has
not been asked for its manifest. -/
theorem add_new (h : DomainsOf log loader) {one : Definition} {number : Nat} {archive : Archive}
    {entry : String} (hplace : one.place = .entry number archive entry)
    (hnew : loader.domains.get? archive.origin = none)
    (hunread : number ∉ loader.packages.map Prod.fst)
    (hdomain : one.domain =
      ⟨loader.nextToken, .archive archive.origin (archive.package one.volume).1⟩)
    (hlater : later.holdings =
      ⟨loader.tag, loader.home, loader.domains.insertNew archive.origin one.domain,
        (number, (archive.package one.volume).1) :: loader.packages,
        loader.counters.definitions + 1⟩)
    (hissued : loader.issued < later.issued) : DomainsOf (log ++ [one]) later := by
  obtain ⟨htag, hhome, hdomains, hpackages, hcounted⟩ := Loader.Holdings.mk.inj hlater
  have hnone : ∀ other ∈ log, other.place.origin ≠ .archive archive.origin := by
    intro other hother horigin
    obtain ⟨held, hheld⟩ := (h.held_iff archive.origin).mpr ⟨other, hother, horigin⟩
    cases hnew.symm.trans hheld
  have hfirst : FirstFrom (log ++ [one]) number archive one :=
    ⟨log, [], entry, rfl, hplace, hnone⟩
  have hget : ∀ origin, later.domains.get? origin =
      if origin = archive.origin then some one.domain else loader.domains.get? origin := by
    intro origin
    rw [hdomains, Table.get?_insertNew, Table.kept_of_none _ hnew]
  -- The new instance is none of those that there were.
  have hfresh : ∀ origin domain, loader.domains.get? origin = some domain →
      domain.token ≠ one.domain.token := by
    intro origin domain hheld htoken
    obtain ⟨_, _, _, serial, -, -, hheld, -, hlt⟩ := h.domains origin domain hheld
    rw [hheld, hdomain] at htoken
    have hserial : serial = loader.issued := congrArg Token.serial htoken
    omega
  constructor
  · exact Nat.lt_of_le_of_lt (Nat.zero_le _) hissued
  · rw [hhome, htag]
    exact h.home
  · intro other hother root path hfile
    rw [hhome]
    rcases List.mem_append.mp hother with hold | hlast
    · exact h.files other hold root path hfile
    · rw [List.mem_singleton.mp hlast, hplace] at hfile
      cases hfile
  · intro other hother number' archive' entry' hentry
    rw [hget]
    rcases List.mem_append.mp hother with hold | hlast
    · have hne : archive'.origin ≠ archive.origin := by
        intro heq
        refine hnone other hold ?_
        rw [hentry, ← heq]
        rfl
      rw [if_neg hne]
      exact h.entries other hold number' archive' entry' hentry
    · rw [List.mem_singleton.mp hlast] at hentry ⊢
      cases hplace.symm.trans hentry
      rw [if_pos rfl]
  · intro origin domain hheld
    rw [hget] at hheld
    rw [htag]
    split at hheld
    · next horigin =>
      cases hheld
      exact ⟨number, archive, one, loader.issued, hfirst, horigin.symm,
        by rw [hdomain, horigin]; rfl, h.issued, hissued⟩
    · obtain ⟨number', archive', first, serial, hold, horigin, hdomain', hpos, hlt⟩ :=
        h.domains origin domain hheld
      exact ⟨number', archive', first, serial, hold.concat, horigin, hdomain', hpos,
        Nat.lt_trans hlt hissued⟩
  · intro origin domain other twin hheld htwin htoken
    rw [hget] at hheld htwin
    split at hheld <;> split at htwin
    · next horigin hother => rw [horigin, hother]
    · cases hheld
      exact absurd htoken.symm (hfresh other twin htwin)
    · cases htwin
      exact absurd htoken (hfresh origin domain hheld)
    · exact h.apart origin domain other twin hheld htwin htoken
  · intro number' package
    rw [hpackages, List.mem_cons, h.packages]
    constructor
    · rintro (heq | ⟨archive', first, hold, hpackage⟩)
      · cases heq
        exact ⟨archive, one, hfirst, rfl⟩
      · exact ⟨archive', first, hold.concat, hpackage⟩
    · rintro ⟨archive', first, hcame, hpackage⟩
      rcases hcame.of_concat with hold | ⟨rfl, ⟨entry', hentry⟩, -⟩
      · exact .inr ⟨archive', first, hold, hpackage⟩
      · cases hplace.symm.trans hentry
        exact .inl (by rw [hpackage])
  · rw [hpackages]
    exact List.nodup_cons.mpr ⟨hunread, h.once⟩
  · rw [hcounted, h.counted, List.length_append]
    rfl

/-- So it is with every definition. The archives of all definitions are known by their numbers. -/
theorem define (h : DomainsOf log loader) {one : Definition} {archives : List Archive}
    {counters : Counters} (hloader : one.loader = loader)
    (hlog : ∀ other ∈ log, other.place.NumberedIn archives)
    (hone : one.place.NumberedIn archives)
    (hcounters : counters.definitions = loader.counters.definitions + 1) :
    DomainsOf (log ++ [one]) (one.finished counters) := by
  -- An archive is asked for its manifest only when its origin has no domain.
  have hunasked : ∀ number archive entry, one.place = .entry number archive entry →
      loader.domains.get? archive.origin = none → number ∉ loader.packages.map Prod.fst := by
    intro number archive entry hplace hnew hmem
    obtain ⟨⟨key, package⟩, hpackage, rfl⟩ := List.mem_map.mp hmem
    obtain ⟨archive', first, hfirst, -⟩ := (h.packages key package).mp hpackage
    obtain ⟨entry', hplace'⟩ := hfirst.place
    have hnumbered := hlog first hfirst.mem
    rw [hplace'] at hnumbered
    rw [hplace] at hone
    cases Option.some.inj (hnumbered.symm.trans hone)
    obtain ⟨held, hheld⟩ := (h.held_iff archive.origin).mpr
      ⟨first, hfirst.mem, by rw [hplace']; rfl⟩
    cases hnew.symm.trans hheld
  have hheld : one.found = loader → (one.finished counters).holdings =
      ⟨loader.tag, loader.home, loader.domains, loader.packages,
        loader.counters.definitions + 1⟩ := by
    intro hfound
    unfold Definition.finished
    rw [hfound, ← hcounters]
    rfl
  have hfinds := one.finds
  rw [hloader] at hfinds
  generalize hplace : one.place = place, hdomain : one.domain = domain,
    hfound : one.found = found at hfinds
  cases hfinds with
  | home root path =>
    refine h.add_known ?_ ?_ (hheld hfound) ?_
    · intro root' path' _
      exact hdomain
    · intro number archive entry hentry
      cases hplace.symm.trans hentry
    · rw [Definition.finished, hfound]
      exact Nat.le_succ _
  | held hget =>
    refine h.add_known ?_ ?_ (hheld hfound) ?_
    · intro root' path' hfile
      cases hplace.symm.trans hfile
    · intro number archive entry hentry
      cases hplace.symm.trans hentry
      rw [hdomain]
      exact hget
    · rw [Definition.finished, hfound]
      exact Nat.le_succ _
  | @recalled number archive entry package _ hnew hknown hvalue =>
    -- It has been asked before only if its origin has a domain.
    obtain ⟨before, behind, hpackages, -⟩ := List.lookup_eq_some_iff.mp hknown
    refine absurd ?_ (hunasked number archive entry hplace hnew)
    rw [hpackages]
    simp
  | @read number archive entry package _ hnew hunread hpackage hvalue =>
    refine h.add_new hplace hnew (hunasked number archive entry hplace hnew) ?_ ?_ ?_
    · rw [hdomain, hvalue, hpackage]
    · rw [Definition.finished, hfound, hdomain, ← hcounters, ← hpackage]
      rfl
    · rw [Definition.finished, hfound]
      exact Nat.lt_succ_of_lt (Nat.lt_succ_self _)

end DomainsOf

/-! ## Every run -/

namespace Scene

/-- A loader without sources, over some files. Nothing waits, and it has made its home
domain only. -/
def fresh (tag : Nat) (options : Options) (memo : Memo) (volume : Volume) : Scene :=
  ⟨.create tag options memo, volume, [], 0⟩

theorem numbered_fresh (tag : Nat) (options : Options) (memo : Memo) (volume : Volume) :
    (fresh tag options memo volume).Numbered := by
  constructor
  · intro name place hplace
    exact absurd hplace List.not_mem_nil
  · intro number ticket hmem
    exact absurd hmem List.not_mem_nil

/-- What all definitions of a history are from, and what the loader has of them. -/
structure Supplied (start : Scene) (history : List Happening) : Prop where
  numbered : (start.after history).Numbered
  places : ∀ one ∈ start.definitions history,
    one.place.NumberedIn (start.after history).loader.sources.archives
  domains : DomainsOf (start.definitions history) (start.after history).loader

theorem Supplied.concat {start : Scene} {history : List Happening} (h : Supplied start history)
    (one : Happening) : Supplied start (history ++ [one]) := by
  have hplaces : ∀ made ∈ start.definitions (history ++ [one]),
      made.place.NumberedIn (start.after history).loader.sources.archives := by
    intro made hmade
    rw [definitions_concat] at hmade
    rcases List.mem_append.mp hmade with hold | hnew
    · exact h.places made hold
    · exact numbered_definition h.numbered (Option.mem_toList.mp hnew)
  constructor
  · rw [after_concat]
    exact numbered_next h.numbered one
  · intro made hmade
    rw [after_concat, (lists_next (start.after history) one).2]
    exact (hplaces made hmade).append _
  · -- Either nothing is defined, or one definition is added to the log and to the loader.
    rw [definitions_concat] at hplaces ⊢
    rw [after_concat]
    cases hdefinition : (start.after history).definition? one with
    | none =>
      rw [Option.toList_none, List.append_nil]
      exact h.domains.of_definesNothing (next_of_undefined hdefinition)
    | some made =>
      obtain ⟨number, ticket, -, -, hdefines⟩ := next_of_definition hdefinition
      obtain ⟨counters, hcounters, hfinished⟩ := hdefines.finished
      have hnext : ((start.after history).next one).loader = made.finished counters := hfinished
      rw [hnext]
      exact h.domains.define hdefines.loader h.places
        (numbered_definition h.numbered hdefinition) hcounters

theorem supplied_after (tag : Nat) (options : Options) (memo : Memo) (volume : Volume)
    (history : List Happening) : Supplied (fresh tag options memo volume) history := by
  induction history using List.reverseRecOn with
  | nil =>
    refine ⟨numbered_fresh .., ?_, .create tag options memo⟩
    intro one hone
    exact absurd hone List.not_mem_nil
  | append_singleton history one ih => exact ih.concat one

end Scene

/-! ## Resources -/

namespace Layers

/-- Each loader has what it had of domains. Lookups of resources leave them in this state. -/
def SameHoldings (layers after : Layers) : Prop :=
  ∀ place, (after.loaderAt? place).map Loader.holdings =
    (layers.loaderAt? place).map Loader.holdings

namespace SameHoldings

variable {first second third layers : Layers} {index : Nat}

theorem of_same (h : ∀ place, second.loaderAt? place = first.loaderAt? place) :
    SameHoldings first second :=
  fun place => congrArg (Option.map Loader.holdings) (h place)

theorem refl (layers : Layers) : SameHoldings layers layers := of_same fun _ => rfl

theorem trans (h₁ : SameHoldings first second) (h₂ : SameHoldings second third) :
    SameHoldings first third :=
  fun place => (h₂ place).trans (h₁ place)

theorem setLoader {layer : Layer} {loader : Loader} (hlayer : layers.layers[index]? = some layer)
    (h : layer.loader.DefinesNothing loader) :
    SameHoldings layers (layers.setLoader index loader) := by
  intro place
  by_cases hplace : place = index
  · subst hplace
    rw [loaderAt?_setLoader_self loader hlayer, loaderAt?_of_some hlayer]
    exact congrArg some h.holdings
  · rw [loaderAt?_setLoader_of_ne layers loader hplace]

end SameHoldings

/-- Whether a call looks for resources. -/
def seeks : Call → Bool
  | .resource _ | .resources _ | .openResource _ => true
  | _ => false

section

variable {call : Caller} (hcall : ∀ layers index one, seeks one = true →
  SameHoldings layers (call layers index one).layers)

include hcall

theorem askResource_holdings (layers : Layers) (index : Nat) (name : String) :
    SameHoldings layers (askResource call layers index name).layers := by
  unfold askResource
  split
  · next parent hhost =>
    have hparent := hcall layers parent (.resource name) rfl
    split <;> rename_i heq <;> rw [heq] at hparent <;> exact hparent
  · exact .of_same fun place => loaderAt?_setHost ..
  · exact .refl layers

theorem askResources_holdings (layers : Layers) (index : Nat) (name : String) :
    SameHoldings layers (askResources call layers index name).layers := by
  unfold askResources
  split
  · next parent hhost =>
    have hparent := hcall layers parent (.resources name) rfl
    split <;> rename_i heq <;> rw [heq] at hparent <;> exact hparent
  · exact .of_same fun place => loaderAt?_setHost ..
  · exact .refl layers

theorem findResource_holdings (layers : Layers) (index : Nat) (name : String) :
    SameHoldings layers (findResource call layers index name).layers := by
  obtain ⟨asked, hhost, hafter⟩ := findResource_cases call layers index name
  have hasked : SameHoldings layers asked := by
    rcases hhost with rfl | rfl
    · exact .refl _
    · exact askResource_holdings hcall layers index _
  rcases hafter with hafter | ⟨layer, found, hlayer, hafter⟩ <;> rw [hafter]
  · exact hasked
  · exact hasked.trans (.setLoader hlayer (layer.loader.rememberResource_definesNothing ..))

theorem findResources_holdings (layers : Layers) (index : Nat) (name : String) :
    SameHoldings layers (findResources call layers index name).layers := by
  obtain ⟨asked, hhost, hafter⟩ := findResources_cases call layers index name
  have hasked : SameHoldings layers asked := by
    rcases hhost with rfl | rfl
    · exact .refl _
    · exact askResources_holdings hcall layers index _
  rcases hafter with hafter | ⟨layer, found, hlayer, hafter⟩ <;> rw [hafter]
  · exact hasked
  · exact hasked.trans (.setLoader hlayer (layer.loader.rememberList_definesNothing ..))

theorem perform_holdings (layers : Layers) (index : Nat) (one : Call) (h : seeks one = true) :
    SameHoldings layers (perform call layers index one).layers := by
  cases one with
  | resource name => exact findResource_holdings hcall layers index name
  | resources name => exact findResources_holdings hcall layers index name
  | openResource name =>
    have hfound := findResource_holdings hcall layers index name
    unfold perform
    dsimp only
    generalize findResource call layers index name = found at hfound ⊢
    obtain ⟨reply, layers', events⟩ := found
    cases reply with
    | none => exact hfound
    | some location =>
      exact hfound.trans (.of_same fun place => openLocation_same place location _ layers' index)
  | _ => cases h

end

/-- To look for resources and to open them is to define nothing, in any loader of a stack. -/
theorem callWithin_holdings (depth : Nat) : ∀ (layers : Layers) (index : Nat) (one : Call),
    seeks one = true → SameHoldings layers (callWithin depth layers index one).layers := by
  induction depth with
  | zero =>
    intro layers index one _
    exact .refl layers
  | succ depth ih =>
    intro layers index one h
    exact perform_holdings ih layers index one h

end Layers

/-! ## One domain per origin -/

namespace Scene

/-- What the units that a history defines have for domains, and what it takes to read a manifest. -/
structure OneDomainPerOrigin (start : Scene) (history : List Happening) : Prop where
  /-- The list of definitions is complete. -/
  counted : (start.after history).loader.counters.definitions = (start.definitions history).length
  bound : ∀ name unit, (start.after history).loader.binding? name = some unit →
    start.loader.binding? name = some unit ∨ .preload unit ∈ history ∨
      (∃ number, .answer number (some unit) ∈ history) ∨
      ∃ made ∈ start.definitions history, made.unit = unit
  /-- A unit says from which directory or archive it is. -/
  placed : ∀ one ∈ start.definitions history, one.place.NamesSource one.unit.value.origin
  shared : ∀ one ∈ start.definitions history, ∀ other ∈ start.definitions history, ∀ origin,
    one.unit.value.origin = .archive origin → other.unit.value.origin = .archive origin →
      one.unit.value.domain = other.unit.value.domain
  named : ∀ one ∈ start.definitions history, ∀ origin, one.unit.value.origin = .archive origin →
    one.unit.value.domain.value.origin = some origin
  /-- Units from archives share with no unit of another origin, be it an archive or a directory. -/
  apart : ∀ one ∈ start.definitions history, ∀ other ∈ start.definitions history, ∀ origin,
    one.unit.value.origin = .archive origin → other.unit.value.origin ≠ .archive origin →
      one.unit.value.domain.same other.unit.value.domain = false
  directories : ∀ one ∈ start.definitions history, ∀ root,
    one.unit.value.origin = .directory root → one.unit.value.domain = start.loader.home
  home : (start.after history).loader.home = start.loader.home ∧
    start.loader.home.value = Domain.default
  metadata : ∀ one ∈ start.definitions history, ∀ origin,
    one.unit.value.origin = .archive origin →
      ∃ number archive first, FirstFrom (start.definitions history) number archive first ∧
        archive.origin = origin ∧
        (start.after history).loader.sources.archives[number]? = some archive ∧
        archive.Describes first.volume one.unit.value.domain.value.package
  /-- Whatever its manifest is like, a copy that can be read is defined, and the lookup succeeds. -/
  unfailing : ∀ number ticket,
    (start.after history).waiting.lookup number = some (.unit ticket) →
      ∀ place ∈ ticket.sources.places ticket.name, ∀ bytes,
        place.read (start.after history).volume
            (start.after history).loader.options.maxUnitSize = .ok bytes →
          ∃ made, (start.after history).definition? (.answer number none) = some made ∧
            ((start.after history).step (.answer number none)).outcome = .unit ticket.name
              (.ok ((start.after history).loader.memo.boundUnit ticket.name made.unit))
  /-- The manifests that have been read, each once, and by whom. -/
  once : ((start.after history).loader.packages.map Prod.fst).Nodup
  evaluated : ∀ number package, (number, package) ∈ (start.after history).loader.packages ↔
    ∃ archive first, FirstFrom (start.definitions history) number archive first ∧
      archive.Describes first.volume package
  /-- Nothing else reads one. -/
  lazily : ∀ one, (start.after history).definition? one = none →
    ((start.after history).next one).loader.packages = (start.after history).loader.packages ∧
      ((start.after history).next one).loader.domains = (start.after history).loader.domains
  failed : ∀ one name fault,
    ((start.after history).step one).outcome = .unit name (.error fault) →
      (start.after history).definition? one = none

/-- The domain that a definition found is the one that the loader has for the origin. -/
theorem Supplied.held {start : Scene} {history : List Happening} (h : Supplied start history)
    {one : Definition} {origin : String} (hone : one ∈ start.definitions history)
    (horigin : one.unit.value.origin = .archive origin) :
    (start.after history).loader.domains.get? origin = some one.unit.value.domain := by
  obtain ⟨number, archive, entry, hplace, rfl⟩ := Place.origin_eq_archive horigin
  exact h.domains.entries one hone number archive entry hplace

theorem Supplied.home_of_directory {start : Scene} {history : List Happening}
    (h : Supplied start history) {one : Definition} {root : String}
    (hone : one ∈ start.definitions history)
    (horigin : one.unit.value.origin = .directory root) :
    one.unit.value.domain = (start.after history).loader.home := by
  change one.place.origin = _ at horigin
  cases hplace : one.place with
  | file root path => exact h.domains.files one hone root path hplace
  | entry number archive entry =>
    rw [hplace] at horigin
    cases horigin

/-- The domain of an origin is not that of the files, nor that of another origin. -/
theorem Supplied.apart {start : Scene} {history : List Happening} (h : Supplied start history)
    {one other : Definition} {origin : String} (hone : one ∈ start.definitions history)
    (hother : other ∈ start.definitions history)
    (horigin : one.unit.value.origin = .archive origin)
    (hne : other.unit.value.origin ≠ .archive origin) :
    one.unit.value.domain.same other.unit.value.domain = false := by
  have hheld := h.held hone horigin
  unfold Shared.same
  rw [decide_eq_false_iff_not]
  intro htoken
  cases hplace : other.place with
  | file root path =>
    obtain ⟨number, archive, first, serial, -, -, hdomain, hpos, -⟩ :=
      h.domains.domains origin one.unit.value.domain hheld
    have hhome : other.unit.value.domain = (start.after history).loader.home :=
      h.domains.files other hother root path hplace
    rw [hdomain, hhome, h.domains.home] at htoken
    have hserial : serial = 0 := congrArg Token.serial htoken
    omega
  | entry number archive entry =>
    have hentry : other.unit.value.origin = .archive archive.origin := congrArg Place.origin hplace
    have hsame := h.domains.apart origin _ archive.origin _ hheld (h.held hother hentry) htoken
    exact hne (hentry.trans (by rw [hsame]))

theorem Supplied.metadata {start : Scene} {history : List Happening} (h : Supplied start history)
    {one : Definition} {origin : String} (hone : one ∈ start.definitions history)
    (horigin : one.unit.value.origin = .archive origin) :
    ∃ number archive first, FirstFrom (start.definitions history) number archive first ∧
      archive.origin = origin ∧
      (start.after history).loader.sources.archives[number]? = some archive ∧
      archive.Describes first.volume one.unit.value.domain.value.package := by
  obtain ⟨number, archive, first, serial, hfirst, hnamed, hdomain, -⟩ :=
    h.domains.domains origin one.unit.value.domain (h.held hone horigin)
  obtain ⟨entry, hplace⟩ := hfirst.place
  have hnumbered := h.places first hfirst.mem
  rw [hplace] at hnumbered
  refine ⟨number, archive, first, hfirst, hnamed, hnumbered, ?_⟩
  rw [hdomain]
  exact Archive.describes_iff.mpr rfl

/-- A copy that can be read is defined, whatever there is to find out about its domain. -/
theorem defined_of_readable {scene : Scene} {number : Nat} {ticket : Ticket}
    (h : scene.waiting.lookup number = some (.unit ticket)) {place : Place} {bytes : ByteArray}
    (hplace : place ∈ ticket.sources.places ticket.name)
    (hread : place.read scene.volume scene.loader.options.maxUnitSize = .ok bytes) :
    ∃ made, scene.definition? (.answer number none) = some made ∧
      (scene.step (.answer number none)).outcome =
        .unit ticket.name (.ok (scene.loader.memo.boundUnit ticket.name made.unit)) := by
  rcases answered_without h with ⟨made, hmade, hdefines⟩ | ⟨hnone, -⟩
  · refine ⟨made, hmade, ?_⟩
    rw [← hdefines.name]
    exact hdefines.outcome
  · -- A search that defines nothing has found this place unreadable.
    simp only [definition?, h] at hnone
    have hplaces := List.findSome?_eq_none_iff.mp hnone place hplace
    rw [hread] at hplaces
    cases hplaces

/-- A lookup that fails has defined nothing, whatever it has read. -/
theorem undefined_of_failed {scene : Scene} {one : Happening} {name : String} {fault : Fault}
    (h : (scene.step one).outcome = .unit name (.error fault)) : scene.definition? one = none := by
  cases hmade : scene.definition? one with
  | none => rfl
  | some made =>
    obtain ⟨number, ticket, -, -, hdefines⟩ := next_of_definition hmade
    cases hdefines.outcome.symm.trans h

theorem Supplied.oneDomainPerOrigin {tag : Nat} {options : Options} {memo : Memo}
    {volume : Volume} {history : List Happening}
    (h : Supplied (fresh tag options memo volume) history) :
    OneDomainPerOrigin (fresh tag options memo volume) history where
  counted := h.domains.counted
  bound := fun name unit hbound => bound_from hbound
  placed := fun one _ => Place.namesSource_iff.mpr rfl
  shared := by
    intro one hone other hother origin horigin horigin'
    exact Option.some.inj ((h.held hone horigin).symm.trans (h.held hother horigin'))
  -- A domain was made for the origin under which it is kept, and has its name.
  named := by
    intro one hone origin horigin
    obtain ⟨number, archive, first, serial, -, -, hdomain, -⟩ :=
      h.domains.domains origin one.unit.value.domain (h.held hone horigin)
    rw [hdomain]
    rfl
  apart := fun one hone other hother origin horigin hne => h.apart hone hother horigin hne
  directories := by
    intro one hone root horigin
    rw [h.home_of_directory hone horigin, home_after]
  home := ⟨home_after .., rfl⟩
  metadata := fun one hone origin horigin => h.metadata hone horigin
  unfailing := fun number ticket hwaiting place hplace bytes hread =>
    defined_of_readable hwaiting hplace hread
  once := h.domains.once
  evaluated := by
    intro number package
    rw [h.domains.packages]
    constructor
    · rintro ⟨archive, first, hfirst, rfl⟩
      exact ⟨archive, first, hfirst, Archive.describes_iff.mpr rfl⟩
    · rintro ⟨archive, first, hfirst, hdescribes⟩
      exact ⟨archive, first, hfirst, (Archive.describes_iff.mp hdescribes).symm⟩
  lazily := by
    intro one hnone
    have hholdings := (next_of_undefined hnone).holdings
    exact ⟨congrArg Loader.Holdings.packages hholdings, congrArg Loader.Holdings.domains hholdings⟩
  failed := fun one name fault hfailed => undefined_of_failed hfailed

end Scene

/-- For every run of a loader, whatever its host does meanwhile: all units from archives of one
origin have one domain, which is known by that origin and which no unit of another origin has. It
holds what the manifest says of the archive that the first of these units came from, and nothing if
that manifest cannot be used, and the unit is defined all the same. Units from directories have the
domain that the loader was made with. A manifest is read once, for the first unit of its origin, and
by nothing else. The calls for resources are no exception, in any stack of loaders; and each loader
of a stack has had such a run between calls. -/
theorem one_domain_per_origin :
    (∀ (tag : Nat) (options : Options) (memo : Memo) (volume : Volume) (history : List Happening),
      Scene.OneDomainPerOrigin (.fresh tag options memo volume) history) ∧
    (∀ (depth : Nat) (layers : Layers) (index : Nat) (one : Call), Layers.seeks one = true →
      layers.SameHoldings (Layers.callWithin depth layers index one).layers) ∧
    (∀ (layers : Layers) (place tag : Nat) (options : Options) (memo : Memo),
      layers.loaderAt? place = some (.create tag options memo) →
        ∀ calls : List (Nat × Call), ∃ history,
          (layers.after calls).loaderAt? place =
            some ((Scene.fresh tag options memo layers.volume).after history).loader) := by
  refine ⟨?_, Layers.callWithin_holdings, ?_⟩
  · intro tag options memo volume history
    exact (Scene.supplied_after tag options memo volume history).oneDomainPerOrigin
  · intro layers place tag options memo hloader calls
    obtain ⟨loader, hafter, hhistory⟩ := (layers.after_leads place calls).history _ hloader
    obtain ⟨history, begun, hscene, -⟩ := hhistory [] 0
    refine ⟨history, ?_⟩
    unfold Scene.fresh
    rw [hafter, hscene]

/-- An archive with a unit and a manifest that gives a title. -/
def titled : Image := .held ⟨#[
  80, 75, 3, 4, 20, 0, 0, 0, 0, 0, 0, 0, 33, 0, 46, 122, 102, 76, 1, 0, 0, 0, 1, 0, 0, 0, 6, 0, 0,
  0, 97, 46, 117, 110, 105, 116, 7, 80, 75, 3, 4, 20, 0, 0, 0, 0, 0, 0, 0, 33, 0, 55, 102, 163, 5,
  28, 0, 0, 0, 28, 0, 0, 0, 21, 0, 0, 0, 77, 69, 84, 65, 45, 73, 78, 70, 47, 112, 97, 99, 107, 97,
  103, 101, 46, 116, 111, 109, 108, 91, 112, 97, 99, 107, 97, 103, 101, 93, 10, 116, 105, 116, 108,
  101, 32, 61, 32, 34, 87, 105, 100, 103, 101, 116, 115, 34, 10, 80, 75, 1, 2, 20, 3, 20, 0, 0, 0,
  0, 0, 0, 0, 33, 0, 46, 122, 102, 76, 1, 0, 0, 0, 1, 0, 0, 0, 6, 0, 0, 0, 0, 0, 0, 0, 0, 0, 0, 0,
  128, 1, 0, 0, 0, 0, 97, 46, 117, 110, 105, 116, 80, 75, 1, 2, 20, 3, 20, 0, 0, 0, 0, 0, 0, 0, 33,
  0, 55, 102, 163, 5, 28, 0, 0, 0, 28, 0, 0, 0, 21, 0, 0, 0, 0, 0, 0, 0, 0, 0, 0, 0, 128, 1, 37, 0,
  0, 0, 77, 69, 84, 65, 45, 73, 78, 70, 47, 112, 97, 99, 107, 97, 103, 101, 46, 116, 111, 109, 108,
  80, 75, 5, 6, 0, 0, 0, 0, 2, 0, 2, 0, 119, 0, 0, 0, 116, 0, 0, 0, 0, 0]⟩

/-- An archive with another unit and a manifest that ends in the middle of a line. -/
def garbled : Image := .held ⟨#[
  80, 75, 3, 4, 20, 0, 0, 0, 0, 0, 0, 0, 33, 0, 191, 103, 217, 220, 1, 0, 0, 0, 1, 0, 0, 0, 6, 0, 0,
  0, 98, 46, 117, 110, 105, 116, 8, 80, 75, 3, 4, 20, 0, 0, 0, 0, 0, 0, 0, 33, 0, 83, 29, 64, 193,
  9, 0, 0, 0, 9, 0, 0, 0, 21, 0, 0, 0, 77, 69, 84, 65, 45, 73, 78, 70, 47, 112, 97, 99, 107, 97,
  103, 101, 46, 116, 111, 109, 108, 91, 112, 97, 99, 107, 97, 103, 101, 10, 80, 75, 1, 2, 20, 3, 20,
  0, 0, 0, 0, 0, 0, 0, 33, 0, 191, 103, 217, 220, 1, 0, 0, 0, 1, 0, 0, 0, 6, 0, 0, 0, 0, 0, 0, 0, 0,
  0, 0, 0, 128, 1, 0, 0, 0, 0, 98, 46, 117, 110, 105, 116, 80, 75, 1, 2, 20, 3, 20, 0, 0, 0, 0, 0,
  0, 0, 33, 0, 83, 29, 64, 193, 9, 0, 0, 0, 9, 0, 0, 0, 21, 0, 0, 0, 0, 0, 0, 0, 0, 0, 0, 0, 128, 1,
  37, 0, 0, 0, 77, 69, 84, 65, 45, 73, 78, 70, 47, 112, 97, 99, 107, 97, 103, 101, 46, 116, 111,
  109, 108, 80, 75, 5, 6, 0, 0, 0, 0, 2, 0, 2, 0, 119, 0, 0, 0, 97, 0, 0, 0, 0, 0]⟩

/-- What an archive says of a manifest of this size that comes after a unit of one byte. -/
def manifestRecord (checksum : UInt32) (size : Nat) : Zip.Record :=
  ⟨manifestEntry, ⟨#[77, 69, 84, 65, 45, 73, 78, 70, 47, 112, 97, 99, 107, 97, 103, 101, 46, 116,
    111, 109, 108]⟩, "", 0, false, checksum, size, size, 37⟩

/-- The archive with the title as it is registered under its own name. -/
def titledArchive : Archive :=
  ⟨"titled", titled, [⟨"a.unit", ⟨#[97, 46, 117, 110, 105, 116]⟩, "", 0, false, 0x4C667A2E, 1, 1,
    0⟩, manifestRecord 0x05A36637 28], [("a", "a.unit")]⟩

/-- The archive without a usable manifest as it is registered under its own name. -/
def garbledArchive : Archive :=
  ⟨"garbled", garbled, [⟨"b.unit", ⟨#[98, 46, 117, 110, 105, 116]⟩, "", 0, false, 0xDCD967BF, 1, 1,
    0⟩, manifestRecord 0xC1401D53 9], [("b", "b.unit")]⟩

/-- Both archives are registered, and a lookup begins for a unit of each. -/
def unpacking : List Happening :=
  [.registerImage titled "titled", .registerImage garbled "garbled", .ask "a", .ask "b"]

/-- The sources of a loader that has registered both archives. -/
def unpackingSources : Sources :=
  { archives := [titledArchive, garbledArchive]
    archiveUnits :=
      ⟨[("b", .entry 1 garbledArchive "b.unit"), ("a", .entry 0 titledArchive "a.unit")]⟩
    summaries := [⟨.archive, "titled", 1, 1⟩, ⟨.archive, "garbled", 1, 1⟩] }

private theorem ok_of_toOption {ε α : Type} {result : Except ε α} {answer : α}
    (h : result.toOption = some answer) : result = .ok answer := by
  cases result with
  | error fault => cases h
  | ok answer => exact congrArg Except.ok (Option.some.inj h)

deriving instance DecidableEq for Zip.Record

private theorem entries_titled : Zip.entries? (titled.bytes {}) = some titledArchive.entries := by
  decide +kernel

private theorem entries_garbled :
    Zip.entries? (garbled.bytes {}) = some garbledArchive.entries := by decide +kernel

private theorem units_titled :
    Archive.named ".unit" titledArchive.files = titledArchive.units := by decide +kernel

private theorem units_garbled :
    Archive.named ".unit" garbledArchive.files = garbledArchive.units := by decide +kernel

set_option maxRecDepth 20000 in
private theorem waiting_unpacking : ((Scene.fresh 0 {} {} {}).after unpacking).waiting =
    [(1, .unit ⟨"b", 0, unpackingSources⟩), (0, .unit ⟨"a", 0, unpackingSources⟩)] := by
  have htitled : (Archive.openImage {} titled "titled" ".unit").1 = .ok titledArchive :=
    Archive.openImage_of_entries entries_titled units_titled
  have hgarbled : (Archive.openImage {} garbled "garbled" ".unit").1 = .ok garbledArchive :=
    Archive.openImage_of_entries entries_garbled units_garbled
  unfold unpacking
  rw [Scene.after_cons, Scene.next_registerImage htitled, Scene.after_cons,
    Scene.next_registerImage hgarbled]
  rfl

set_option maxRecDepth 20000 in
private theorem places_a : unpackingSources.places "a" = [.entry 0 titledArchive "a.unit"] := rfl

set_option maxRecDepth 20000 in
private theorem places_b : unpackingSources.places "b" = [.entry 1 garbledArchive "b.unit"] := rfl

set_option maxRecDepth 20000 in
private theorem read_titled (volume : Volume) :
    (Place.entry 0 titledArchive "a.unit").read volume defaultMaxUnitSize = .ok ⟨#[7]⟩ := by cbv

set_option maxRecDepth 20000 in
private theorem read_garbled (volume : Volume) :
    (Place.entry 1 garbledArchive "b.unit").read volume defaultMaxUnitSize = .ok ⟨#[8]⟩ := by cbv

private theorem package_titled (volume : Volume) :
    (titledArchive.package volume).1 = { title := some "Widgets" } := by
  rw [Archive.package_of_held rfl volume {}]
  decide +kernel

private theorem package_garbled (volume : Volume) :
    (garbledArchive.package volume).1 = .empty := by
  rw [Archive.package_of_held rfl volume {}]
  decide +kernel

set_option maxRecDepth 20000 in
private theorem manifest_garbled : ∃ bytes,
    garbledArchive.unitBytes {} manifestEntry maxManifestSize = .ok bytes ∧
      Text.Utf8.decode bytes = .ok "[package\n" := by
  refine ⟨⟨#[91, 112, 97, 99, 107, 97, 103, 101, 10]⟩, ok_of_toOption ?_, ok_of_toOption ?_⟩ <;>
    decide +kernel

private theorem malformed_garbled (package : Package) : ¬ Manifest.Says "[package\n" package := by
  have hread : (Toml.read? "[package\n").isNone = true := by decide +kernel
  rintro (⟨hdocument, -⟩ | ⟨hdocument, -, -⟩) <;> rw [hdocument] at hread <;> cases hread

/-- Two archives with a manifest each. The unit of the one has a domain with the title, and that of
the other is defined as well, in a domain that says nothing but where it is from: the manifest is a
text, but says nothing that could be understood. -/
theorem one_domain_per_origin_unpacking :
    (∃ one other,
      (Scene.fresh 0 {} {} {}).definitions (unpacking ++ [.answer 0 none] ++ [.answer 1 none]) =
        [one, other] ∧
      one.unit.value.bytes = ⟨#[7]⟩ ∧ one.unit.value.origin = .archive "titled" ∧
      one.unit.value.domain.value = ⟨some "titled", { title := some "Widgets" }⟩ ∧
      other.unit.value.bytes = ⟨#[8]⟩ ∧ other.unit.value.origin = .archive "garbled" ∧
      other.unit.value.domain.value = ⟨some "garbled", .empty⟩ ∧
      one.unit.value.domain.same other.unit.value.domain = false) ∧
    (∃ bytes text, garbledArchive.unitBytes {} manifestEntry maxManifestSize = .ok bytes ∧
      Text.Utf8.decode bytes = .ok text ∧ ∀ package, ¬ Manifest.Says text package) := by
  refine ⟨?_, ?_⟩
  · have hlimit (history : List Happening) :
        ((Scene.fresh 0 {} {} {}).after history).loader.options.maxUnitSize = defaultMaxUnitSize :=
      congrArg Options.maxUnitSize (Scene.options_after _ history)
    -- Both copies can be read, whatever becomes of the manifests.
    have hfirst : ((Scene.fresh 0 {} {} {}).after unpacking).waiting.lookup 0 =
        some (.unit ⟨"a", 0, unpackingSources⟩) := by
      rw [waiting_unpacking]
      rfl
    have hsecond : ((Scene.fresh 0 {} {} {}).after (unpacking ++ [.answer 0 none])).waiting.lookup
        1 = some (.unit ⟨"b", 0, unpackingSources⟩) := by
      rw [Scene.after_concat, Scene.waiting_answer none hfirst, waiting_unpacking]
      rfl
    have hofferedOne : .entry 0 titledArchive "a.unit" ∈ unpackingSources.places "a" := by
      rw [places_a]
      exact List.mem_cons_self
    have hofferedOther : .entry 1 garbledArchive "b.unit" ∈ unpackingSources.places "b" := by
      rw [places_b]
      exact List.mem_cons_self
    have hbegun := one_domain_per_origin.1 0 {} {} {} unpacking
    have hresumed := one_domain_per_origin.1 0 {} {} {} (unpacking ++ [.answer 0 none])
    obtain ⟨one, hone, -⟩ := hbegun.unfailing 0 _ hfirst _ hofferedOne ⟨#[7]⟩
      (by rw [hlimit]; exact read_titled _)
    obtain ⟨other, hother, -⟩ := hresumed.unfailing 1 _ hsecond _ hofferedOther ⟨#[8]⟩
      (by rw [hlimit]; exact read_garbled _)
    have hlog : (Scene.fresh 0 {} {} {}).definitions
        (unpacking ++ [.answer 0 none] ++ [.answer 1 none]) = [one, other] := by
      rw [Scene.definitions_concat, Scene.definitions_concat, hone, hother]
      rfl
    have hdefinesOne := Scene.defines_of_waiting hfirst hone
    have hdefinesOther := Scene.defines_of_waiting hsecond hother
    have hplaceOne : one.place = .entry 0 titledArchive "a.unit" :=
      List.mem_singleton.mp (places_a ▸ hdefinesOne.offered)
    have hplaceOther : other.place = .entry 1 garbledArchive "b.unit" :=
      List.mem_singleton.mp (places_b ▸ hdefinesOther.offered)
    have hbytesOne := hdefinesOne.read
    rw [hplaceOne, hlimit, read_titled] at hbytesOne
    have hbytesOther := hdefinesOther.read
    rw [hplaceOther, hlimit, read_garbled] at hbytesOther
    have hrun := one_domain_per_origin.1 0 {} {} {}
      (unpacking ++ [.answer 0 none] ++ [.answer 1 none])
    have hmemOne : one ∈ (Scene.fresh 0 {} {} {}).definitions
        (unpacking ++ [.answer 0 none] ++ [.answer 1 none]) := hlog ▸ List.mem_cons_self
    have hmemOther : other ∈ (Scene.fresh 0 {} {} {}).definitions
        (unpacking ++ [.answer 0 none] ++ [.answer 1 none]) :=
      hlog ▸ List.mem_cons_of_mem _ List.mem_cons_self
    have horiginOne : one.unit.value.origin = .archive "titled" := by
      rw [Place.namesSource_iff.mp (hrun.placed one hmemOne), hplaceOne]
      rfl
    have horiginOther : other.unit.value.origin = .archive "garbled" := by
      rw [Place.namesSource_iff.mp (hrun.placed other hmemOther), hplaceOther]
      rfl
    -- Every definition of this history is from one of the two archives.
    have harchives {number : Nat} {archive : Archive} {first : Definition}
        (hfirst : FirstFrom ((Scene.fresh 0 {} {} {}).definitions
          (unpacking ++ [.answer 0 none] ++ [.answer 1 none])) number archive first) :
        archive = titledArchive ∨ archive = garbledArchive := by
      obtain ⟨entry, hplace⟩ := hfirst.place
      have hmem := hfirst.mem
      rw [hlog, List.mem_cons, List.mem_singleton] at hmem
      rcases hmem with rfl | rfl
      · cases hplaceOne.symm.trans hplace
        exact .inl rfl
      · cases hplaceOther.symm.trans hplace
        exact .inr rfl
    have hpackageOne : one.unit.value.domain.value.package = { title := some "Widgets" } := by
      obtain ⟨number, archive, first, hfirst, hnamed, -, hdescribes⟩ :=
        hrun.metadata one hmemOne "titled" horiginOne
      rcases harchives hfirst with rfl | rfl
      · exact (Archive.describes_iff.mp hdescribes).symm.trans (package_titled _)
      · exact absurd hnamed (by decide)
    have hpackageOther : other.unit.value.domain.value.package = .empty := by
      obtain ⟨number, archive, first, hfirst, hnamed, -, hdescribes⟩ :=
        hrun.metadata other hmemOther "garbled" horiginOther
      rcases harchives hfirst with rfl | rfl
      · exact absurd hnamed (by decide)
      · exact (Archive.describes_iff.mp hdescribes).symm.trans (package_garbled _)
    refine ⟨one, other, hlog, (Except.ok.inj hbytesOne).symm, horiginOne, ?_,
      (Except.ok.inj hbytesOther).symm, horiginOther, ?_, ?_⟩
    · rw [← hpackageOne, ← hrun.named one hmemOne "titled" horiginOne]
    · rw [← hpackageOther, ← hrun.named other hmemOther "garbled" horiginOther]
    · refine hrun.apart one hmemOne other hmemOther "titled" horiginOne ?_
      rw [horiginOther]
      decide
  · obtain ⟨bytes, hbytes, htext⟩ := manifest_garbled
    exact ⟨bytes, _, hbytes, htext, malformed_garbled⟩

end LayeredUnits
