import LayeredUnits.Proofs.Lookup
import LayeredUnits.Proofs.Scene

/-!
# What a happening writes

A loader's `Ledger` is what it knows about units: its options, its sources, the
number of clears, the bound units and the remembered misses. Every happening
makes one `Entry` in it, and `Writes` says which entries a happening can make
and what it had to find for that.

* `step_writes` — one happening, one entry. Later modules take a happening
  apart by this theorem only.
-/

namespace LayeredUnits

/-- What a loader knows about units. What it says of one unit depends on nothing else of the loader,
but for its counters. -/
structure Ledger where
  options : Options
  sources : Sources
  generation : Nat
  units : Table (Shared CodeUnit)
  misses : Table (Shared Miss)

/-- What a loader knows about units, taken out of all the rest. -/
def Loader.ledger (loader : Loader) : Ledger :=
  ⟨loader.options, loader.sources, loader.generation, loader.memo.units, loader.memo.misses⟩

/-- A source that has been registered, with the number under which an archive is known. -/
inductive Source where
  | directory (directory : Directory)
  /-- An archive, and how many archives had been registered before. -/
  | archive (number : Nat) (archive : Archive)

/-- The sources with one more. Which names it gets depends on the bound names as well. -/
def Source.addTo (source : Source) (sources : Sources) (bound : String → Bool) : Sources :=
  match source with
  | .directory added => (sources.addDirectory bound added).1
  | .archive _ added => (sources.addArchive bound added).1

/-- What can be written into a ledger, one thing at a time. -/
inductive Entry where
  | nothing
  /-- A name gets a unit, unless it has one. -/
  | bound (name : String) (unit : Shared CodeUnit)
  /-- A miss is remembered, unless one is. -/
  | missed (name : String) (miss : Shared Miss)
  | cleared
  | registered (source : Source)

namespace Ledger

/-- Whether a name is bound. -/
def isBound (ledger : Ledger) (name : String) : Bool := ledger.units.contains name

/-- The ledger with one more entry. A name that is bound stays bound to its unit, and a miss that is
there stays. -/
def write (ledger : Ledger) : Entry → Ledger
  | .nothing => ledger
  | .bound name unit => { ledger with units := ledger.units.insertNew name unit }
  | .missed name miss => { ledger with misses := ledger.misses.insertNew name miss }
  | .cleared => { ledger with generation := ledger.generation + 1, misses := .empty }
  | .registered source =>
    { ledger with sources := source.addTo ledger.sources ledger.isBound }

end Ledger

/-! ## The operations of a loader -/

namespace Loader

theorem internAll_units (memo : Memo) (names : List String) :
    (internAll memo names).units = memo.units ∧ (internAll memo names).misses = memo.misses := by
  unfold internAll
  induction names generalizing memo with
  | nil => exact ⟨rfl, rfl⟩
  | cons name rest ih => exact ih (memo.intern name)

theorem ledger_beginLookup (loader : Loader) (name : String) :
    (loader.beginLookup name).loader.ledger = loader.ledger := by
  unfold beginLookup
  split
  · rfl
  · split <;> rfl

/-- A name that is bound cannot be bound directly. The attempt leaves a name to be kept, and no
entry. -/
theorem preload_of_bound {loader : Loader} {unit : Shared CodeUnit}
    (h : loader.isBound unit.value.name = true) :
    (loader.preload unit).reply = .error (.duplicateDefinition unit.value.name) ∧
      (loader.preload unit).loader.ledger = loader.ledger := by
  rw [preload_eq_of_bound h]
  exact ⟨rfl, rfl⟩

theorem preload_of_free {loader : Loader} {unit : Shared CodeUnit}
    (h : loader.isBound unit.value.name = false) :
    (loader.preload unit).reply = .ok unit ∧
      (loader.preload unit).loader.ledger =
        loader.ledger.write (.bound unit.value.name unit) := by
  rw [preload_eq_of_free h]
  exact ⟨rfl, rfl⟩

theorem ledger_addDirectory (loader : Loader) (directory : Directory) :
    (loader.addDirectory directory).loader.ledger =
      loader.ledger.write (.registered (.directory directory)) := by
  obtain ⟨hunits, hmisses⟩ := internAll_units loader.memo
    (loader.sources.addDirectory loader.isBound directory).2.1
  unfold addDirectory ledger
  simp only [hunits, hmisses]
  rfl

theorem ledger_addArchive (loader : Loader) (number : Nat) (archive : Archive) :
    (loader.addArchive archive).loader.ledger =
      loader.ledger.write (.registered (.archive number archive)) := by
  obtain ⟨hunits, hmisses⟩ := internAll_units loader.memo
    (loader.sources.addArchive loader.isBound archive).2.1
  unfold addArchive ledger
  simp only [hunits, hmisses]
  rfl

/-- A source that cannot be opened changes nothing, and one that can is taken among the
sources. -/
theorem ledger_register {α : Type} (loader : Loader) (opened : Except Fault α × List Event)
    (add : α → Turn Nat) :
    (loader.register opened add).loader =
      match opened.1 with
      | .error _ => loader
      | .ok source => (add source).loader := by
  obtain ⟨result, events⟩ := opened
  cases result <;> rfl

theorem ledger_rememberResource (loader : Loader) (name : String) (found : Option Location) :
    (loader.rememberResource name found).loader.ledger = loader.ledger := by
  unfold rememberResource
  split <;> rfl

theorem ledger_rememberList (loader : Loader) (name : String) (found : List Location) :
    (loader.rememberList name found).loader.ledger = loader.ledger := by
  unfold rememberList
  split <;> rfl

end Loader

/-! ## Happenings -/

namespace Scene

/-- The source that a happening registers, if it does and the source can be opened. -/
def registration? (scene : Scene) : Happening → Option Source
  | .registerDirectory path =>
    (Directory.scan scene.volume path scene.loader.options.unitSuffix).1.toOption.map .directory
  | .registerArchive path =>
    (Archive.openPath scene.volume path scene.loader.options.unitSuffix).1.toOption.map
      (.archive scene.loader.sources.archives.length)
  | .registerImage image origin =>
    (Archive.openImage scene.volume image origin
      scene.loader.options.unitSuffix).1.toOption.map
        (.archive scene.loader.sources.archives.length)
  | _ => none

/-- The entries that a happening can make in the ledger of this scene. -/
inductive Writes (scene : Scene) : Happening → Entry → Prop
  | nothing {one : Happening} (hclear : one ≠ .forgetMisses)
      (hsource : scene.registration? one = none) : Writes scene one .nothing
  | cleared : Writes scene .forgetMisses .cleared
  | preloaded (unit : Shared CodeUnit) (h : scene.loader.isBound unit.value.name = false) :
      Writes scene (.preload unit) (.bound unit.value.name unit)
  /-- The host has the unit. -/
  | hosted {number : Nat} {ticket : Ticket} (unit : Shared CodeUnit)
      (h : scene.waiting.lookup number = some (.unit ticket)) :
      Writes scene (.answer number (some unit)) (.bound ticket.name unit)
  /-- A source has a copy that can be read. -/
  | copied {number : Nat} {ticket : Ticket} {unit : Shared CodeUnit}
      (h : scene.waiting.lookup number = some (.unit ticket)) :
      Writes scene (.answer number none) (.bound ticket.name unit)
  /-- Nobody has the unit, and nothing forbids to remember that. -/
  | missed {number : Nat} {ticket : Ticket} {miss : Shared Miss}
      (h : scene.waiting.lookup number = some (.unit ticket))
      (unread : Loader.Unreadable scene.volume scene.loader.options.maxUnitSize
        (ticket.sources.places ticket.name))
      (allowed : scene.loader.mayRemember ticket = true)
      (fresh : miss = scene.loader.freshMiss ticket) :
      Writes scene (.answer number none) (.missed ticket.name miss)
  | registered {one : Happening} {source : Source} (h : scene.registration? one = some source) :
      Writes scene one (.registered source)

/-- The end of a lookup writes at most one entry: a binding or a miss. -/
theorem answer_writes {scene : Scene} {number : Nat} {ticket : Ticket}
    (found : Option (Shared CodeUnit)) (h : scene.waiting.lookup number = some (.unit ticket)) :
    ∃ entry, scene.Writes (.answer number found) entry ∧
      (scene.loader.finishLookup scene.volume ticket found).loader.ledger =
        scene.loader.ledger.write entry := by
  rcases Loader.finishLookup_cases scene.loader scene.volume ticket found with
    ⟨unit, rfl, -, hloader⟩ |
    ⟨rfl, failed, place, rest, bytes, unit, domains, packages, issued, -, -, -, -, -, -, -, hloader⟩ |
    ⟨rfl, hunread, searched, hsearched, -, hloader⟩
  · exact ⟨_, .hosted unit h, by rw [hloader]; rfl⟩
  · exact ⟨.bound ticket.name unit, .copied h, by rw [hloader]; rfl⟩
  · -- Nothing has been written up to here, so it is the record that decides.
    rw [hloader]
    rcases Loader.recordMiss_cases searched ticket with ⟨hmay, -, hrecord⟩ | ⟨-, -, hrecord⟩
    · refine ⟨_, .missed h hunread ?_ rfl, ?_⟩
      · rw [hsearched] at hmay
        exact hmay
      · rw [hrecord, hsearched]
        rfl
    · refine ⟨_, .nothing (by simp) rfl, ?_⟩
      rw [hrecord, hsearched]
      rfl

theorem ledger_ask (scene : Scene) (name : String) :
    (scene.ask name).scene.loader.ledger = scene.loader.ledger := by
  have hkept := Loader.ledger_beginLookup scene.loader name
  unfold ask
  split <;> rename_i hturn <;> rw [hturn] at hkept <;> exact hkept

theorem ledger_seek (scene : Scene) (name : String) :
    (scene.seek name).scene.loader.ledger = scene.loader.ledger := by
  unfold seek
  split <;> rfl

theorem ledger_locate (scene : Scene) (number : Nat) (found : Option Location) :
    (scene.locate number found).scene.loader.ledger = scene.loader.ledger := by
  unfold locate
  split
  · exact Loader.ledger_rememberResource ..
  · rfl

theorem ledger_seekAll (scene : Scene) (name : String) :
    (scene.seekAll name).scene.loader.ledger = scene.loader.ledger := by
  unfold seekAll
  split <;> rfl

theorem ledger_locateAll (scene : Scene) (number : Nat) (found : List Location) :
    (scene.locateAll number found).scene.loader.ledger = scene.loader.ledger := by
  unfold locateAll
  split
  · exact Loader.ledger_rememberList ..
  · rfl

theorem answer_step_writes (scene : Scene) (number : Nat) (found : Option (Shared CodeUnit)) :
    ∃ entry, scene.Writes (.answer number found) entry ∧
      (scene.answer number found).scene.loader.ledger = scene.loader.ledger.write entry := by
  unfold answer
  split
  · next ticket h => exact answer_writes found h
  · exact ⟨.nothing, .nothing (by simp) rfl, rfl⟩

/-- A registration writes the source, if it can be opened, and nothing else. -/
theorem register_writes {α : Type} {scene : Scene} {one : Happening}
    (opened : Except Fault α × List Event) (add : α → Turn Nat) (source : α → Source)
    (hone : one ≠ .forgetMisses)
    (hsource : scene.registration? one = opened.1.toOption.map source)
    (hadd : ∀ some, (add some).loader.ledger =
      scene.loader.ledger.write (.registered (source some))) :
    ∃ entry, scene.Writes one entry ∧
      (scene.loader.register opened add).loader.ledger = scene.loader.ledger.write entry := by
  rw [Loader.ledger_register]
  cases h : opened.1 with
  | error fault => exact ⟨.nothing, .nothing hone (by rw [hsource, h]; rfl), rfl⟩
  | ok some => exact ⟨_, .registered (by rw [hsource, h]; rfl), hadd some⟩

/-- Whatever happens makes one entry in the ledger. What is known of a history follows from these
entries, by induction, without another look at the steps. -/
theorem step_writes (scene : Scene) (one : Happening) :
    ∃ entry, scene.Writes one entry ∧
      (scene.next one).loader.ledger = scene.loader.ledger.write entry := by
  cases one with
  | ask name => exact ⟨.nothing, .nothing (by simp) rfl, ledger_ask scene name⟩
  | answer number found => exact answer_step_writes scene number found
  | seek name => exact ⟨.nothing, .nothing (by simp) rfl, ledger_seek scene _⟩
  | locate number found =>
    exact ⟨.nothing, .nothing (by simp) rfl, ledger_locate scene number found⟩
  | seekAll name => exact ⟨.nothing, .nothing (by simp) rfl, ledger_seekAll scene _⟩
  | locateAll number found =>
    exact ⟨.nothing, .nothing (by simp) rfl, ledger_locateAll scene number found⟩
  | preload unit =>
    cases h : scene.loader.isBound unit.value.name with
    | true => exact ⟨.nothing, .nothing (by simp) rfl, (Loader.preload_of_bound h).2⟩
    | false => exact ⟨_, .preloaded unit h, (Loader.preload_of_free h).2⟩
  | registerDirectory path =>
    exact register_writes _ _ .directory (by simp) rfl (Loader.ledger_addDirectory _)
  | registerArchive path =>
    exact register_writes _ _ (.archive _) (by simp) rfl (Loader.ledger_addArchive _ _)
  | registerImage image origin =>
    exact register_writes _ _ (.archive _) (by simp) rfl (Loader.ledger_addArchive _ _)
  | forgetMisses => exact ⟨_, .cleared, rfl⟩
  | change volume => exact ⟨.nothing, .nothing (by simp) rfl, rfl⟩

/-! ## Options -/

theorem options_write (ledger : Ledger) (entry : Entry) :
    (ledger.write entry).options = ledger.options := by
  cases entry <;> rfl

/-- Nothing changes the options, so a limit that holds once holds for good. -/
theorem options_next (scene : Scene) (one : Happening) :
    (scene.next one).loader.options = scene.loader.options := by
  obtain ⟨entry, -, hledger⟩ := step_writes scene one
  exact (congrArg Ledger.options hledger).trans (options_write ..)

theorem options_after (scene : Scene) (history : List Happening) :
    (scene.after history).loader.options = scene.loader.options :=
  after_induction (motive := fun s => s.loader.options = scene.loader.options) history rfl
    fun s one h => (options_next s one).trans h

end Scene

end LayeredUnits
