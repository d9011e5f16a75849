import Mathlib
import LayeredUnits.Proofs.Events
import LayeredUnits.Proofs.Nesting
import LayeredUnits.Proofs.Tolerance

/-!
# What the counters account for

The counters go up at different points of a lookup: one when it turns to the
host, one when it turns from the host to the sources, one for each copy that it
tries to read and one for the unit that it defines. In between the loader may
be used for other lookups, so the counters balance with what is asked and
replied only if the lookups that wait are put to the account as well.

`Books` is what the accounts are about, `Tally` is what is counted of a history
from outside, and `Books.Posting` lists all that a happening can do to both.

* `step_posting` — whatever happens is one of the postings.
* `Balance.post`, `Scene.balance_after` — every posting keeps the balance, so
  every history does.
* `Layers.exists_accounted` — between calls to a stack, no lookup of any of its
  loaders waits.
* `lookups_accounted` — the counters of a loader that has no lookup waiting, and
  of every loader of a stack between calls.
-/

namespace LayeredUnits

/-! ## What is counted from outside -/

/-- The warning that a copy was skipped. It is the only event that the accounts look at. -/
def Event.isSkip : Event → Bool
  | .copySkipped .. => true
  | _ => false

namespace Outcome

/-- A lookup returned a unit, wherever it had it from. -/
def isUnit : Outcome → Bool
  | .unit _ (.ok _) => true
  | _ => false

/-- A lookup returned that there is no unit, be the record a new one or one that was remembered. -/
def isMiss : Outcome → Bool
  | .unit _ (.error (.unitNotFound _)) => true
  | _ => false

/-- A unit was preloaded. -/
def isPreload : Outcome → Bool
  | .defined (.ok _) => true
  | _ => false

end Outcome

/-- Counts of what is asked of a loader and of what it replies. Whoever uses the loader could keep
them without looking into it. -/
structure Tally where
  /-- Lookups of units that were made. -/
  asked : Nat := 0
  /-- Lookups that returned a unit. -/
  units : Nat := 0
  /-- Lookups that returned that there is no unit. -/
  misses : Nat := 0
  /-- Lookups whose host had the unit. -/
  hosted : Nat := 0
  /-- Warnings that a copy was skipped. -/
  skipped : Nat := 0
  /-- Units that were preloaded. -/
  preloaded : Nat := 0

/-- Both counts together, as when one history follows the other. -/
def Tally.add (tally other : Tally) : Tally where
  asked := tally.asked + other.asked
  units := tally.units + other.units
  misses := tally.misses + other.misses
  hosted := tally.hosted + other.hosted
  skipped := tally.skipped + other.skipped
  preloaded := tally.preloaded + other.preloaded

theorem Tally.add_assoc (first second third : Tally) :
    (first.add second).add third = first.add (second.add third) := by
  simp only [Tally.add, Nat.add_assoc]

/-- Whether the host had the unit that a happening replies. From outside this is seen at the answer,
and not at the reply. -/
def Happening.isHosted : Happening → Outcome → Bool
  | .answer _ (some _), .unit .. => true
  | _, _ => false

/-- Whether a lookup of a unit begins. -/
def Happening.isAsk : Happening → Bool
  | .ask _ => true
  | _ => false

namespace Scene

/-- What is counted of a happening that comes to a step. Both are needed: the one says what was
asked, and the other what came of it. -/
def Step.charge (step : Step) (one : Happening) : Tally where
  asked := one.isAsk.toNat
  units := step.outcome.isUnit.toNat
  misses := step.outcome.isMiss.toNat
  hosted := (one.isHosted step.outcome).toNat
  skipped := step.events.countP Event.isSkip
  preloaded := step.outcome.isPreload.toNat

/-- What is counted of a history, step by step from its beginning. -/
def tally (scene : Scene) : List Happening → Tally
  | [] => {}
  | one :: rest => ((scene.step one).charge one).add ((scene.next one).tally rest)

theorem tally_concat (scene : Scene) (history : List Happening) (one : Happening) :
    scene.tally (history ++ [one]) =
      (scene.tally history).add (((scene.after history).step one).charge one) := by
  induction history generalizing scene with
  | nil => simp [tally, Tally.add]
  | cons first rest ih =>
    rw [List.cons_append, tally, ih, ← Tally.add_assoc]
    rfl

end Scene

/-! ## The books -/

/-- Whether a lookup that waits is one of a unit. Those of resources raise no counter. -/
def Errand.isUnit : Errand → Bool
  | .unit _ => true
  | _ => false

/-- What the accounts of a loader are about: its counters, the lookups that have been counted at the
host and have not ended, and the names it has bound. -/
structure Books where
  counters : Counters
  /-- Lookups of units that wait for the host. -/
  pending : Nat
  /-- Names that are bound. -/
  bound : Nat

/-- The books of a loader at work. -/
def Scene.books (scene : Scene) : Books where
  counters := scene.loader.counters
  pending := scene.waiting.countP (·.2.isUnit)
  bound := scene.loader.memo.units.size

/-- What a happening can do to the books, with what is counted of it. -/
inductive Books.Posting (books : Books) : Tally → Books → Prop
  | nothing : Posting books {} books
  | recalled : Posting books { asked := 1, units := 1 }
      { books with
        counters := { books.counters with cacheHits := books.counters.cacheHits + 1 } }
  | missRecalled : Posting books { asked := 1, misses := 1 }
      { books with
        counters := { books.counters with negativeHits := books.counters.negativeHits + 1 } }
  /-- A lookup turns to the host. -/
  | begun {pending : Nat} (hpending : pending = books.pending + 1) :
      Posting books { asked := 1 }
        ⟨{ books.counters with hostLookups := books.counters.hostLookups + 1 }, pending,
          books.bound⟩
  /-- The host had the unit. -/
  | hosted {pending bound : Nat} (hpending : books.pending = pending + 1)
      (hbound : bound ≤ books.bound + 1) :
      Posting books { units := 1, hosted := 1 } ⟨books.counters, pending, bound⟩
  /-- At most one copy was skipped before the one that was read. -/
  | defined {pending bound skipped : Nat} (hpending : books.pending = pending + 1)
      (hbound : bound ≤ books.bound + 1) (hskipped : skipped ≤ 1) :
      Posting books { units := 1, skipped := skipped }
        ⟨{ books.counters with
            localSearches := books.counters.localSearches + 1
            byteReads := books.counters.byteReads + (skipped + 1)
            definitions := books.counters.definitions + 1 }, pending, bound⟩
  /-- All copies were skipped, at most two. -/
  | missed {pending skipped : Nat} (hpending : books.pending = pending + 1)
      (hskipped : skipped ≤ 2) :
      Posting books { misses := 1, skipped := skipped }
        ⟨{ books.counters with
            localSearches := books.counters.localSearches + 1
            byteReads := books.counters.byteReads + skipped }, pending, books.bound⟩
  | preloaded {bound : Nat} (hbound : bound ≤ books.bound + 1) :
      Posting books { preloaded := 1 } { books with bound := bound }

/-! ## What a search skips -/

theorem Plain.countP_isSkip {events : List Event} (h : Plain events) :
    events.countP Event.isSkip = 0 := by
  refine List.countP_eq_zero.mpr fun event hmem hskip => ?_
  cases event with
  | copySkipped => exact absurd (h _ hmem) Bool.false_ne_true
  | _ => cases hskip

namespace Loader

theorem skips_unreadable {volume : Volume} {limit : Nat} {places : List Place} (name : String)
    (h : Unreadable volume limit places) :
    (skips volume limit name places).countP Event.isSkip = places.length := by
  induction places with
  | nil => rfl
  | cons place rest ih =>
    obtain ⟨fault, hfault⟩ := h place List.mem_cons_self
    have hrest : Unreadable volume limit rest :=
      fun other hother => h other (List.mem_cons_of_mem place hother)
    have hskips : skips volume limit name (place :: rest) =
        .copySkipped place.text name fault :: skips volume limit name rest := by
      unfold skips
      rw [List.filterMap_cons, hfault]
    rw [hskips, List.countP_cons_of_pos rfl, ih hrest, List.length_cons]

theorem events_tryPlaces_found (loader : Loader) {volume : Volume} {failed : List Place}
    {place : Place} {bytes : ByteArray} (name : String) (rest : List Place)
    (hfailed : Unreadable volume loader.options.maxUnitSize failed)
    (hread : place.read volume loader.options.maxUnitSize = .ok bytes) :
    (loader.tryPlaces volume name (failed ++ place :: rest)).events.countP Event.isSkip =
      failed.length := by
  rw [tryPlaces_append name (place :: rest) loader hfailed]
  dsimp only
  rw [List.countP_append, skips_unreadable name hfailed]
  have hread : place.read volume (loader.readTimes failed.length).options.maxUnitSize = .ok bytes :=
    hread
  simp only [tryPlaces, count, hread]
  rw [(define_plain _ volume name bytes place).countP_isSkip]
  rfl

theorem events_tryPlaces_missing (loader : Loader) {volume : Volume} {places : List Place}
    (name : String) (h : Unreadable volume loader.options.maxUnitSize places) :
    (loader.tryPlaces volume name places).events.countP Event.isSkip = places.length := by
  have hskipped := tryPlaces_append name [] loader h
  rw [List.append_nil] at hskipped
  rw [hskipped]
  dsimp only
  rw [List.countP_append, skips_unreadable name h]
  rfl

/-- What follows the search of a lookup is no warning of a copy, so the warnings are those of the
search. -/
theorem events_finishLookup_none (loader : Loader) (volume : Volume) (ticket : Ticket) :
    (loader.finishLookup volume ticket none).events.countP Event.isSkip =
      (loader.searching.tryPlaces volume ticket.name
        (ticket.sources.places ticket.name)).events.countP Event.isSkip := by
  unfold searching
  dsimp only [finishLookup]
  generalize (count _ _).tryPlaces volume ticket.name (ticket.sources.places ticket.name) = turn
  obtain ⟨reply, searched, events⟩ := turn
  cases reply with
  | some unit => rfl
  | none =>
    dsimp only
    rw [List.countP_append, (recordMiss_plain searched ticket).countP_isSkip]
    rfl

end Loader

theorem Sources.length_places_le (sources : Sources) (name : String) :
    (sources.places name).length ≤ 2 := by
  unfold Sources.places
  cases sources.directoryUnits.get? name <;> cases sources.archiveUnits.get? name <;> simp

theorem Table.size_insertNew_le {α : Type} (table : Table α) (name : String) (value : α) :
    (table.insertNew name value).size ≤ table.size + 1 := by
  cases hname : table.get? name with
  | some held =>
    rw [Table.insertNew_of_some value hname]
    exact Nat.le_succ _
  | none => exact Nat.le_of_eq (Table.size_insertNew_of_none value hname)

theorem Scene.pending_await (scene : Scene) (errand : Errand) :
    (scene.await errand).books.pending = scene.books.pending + errand.isUnit.toNat := by
  unfold books await
  rw [List.countP_cons]
  cases errand <;> rfl

/-- A lookup that ends waits no longer. This is the one point at which the number of lookups under
way goes down. -/
theorem Scene.pending_dismiss {scene : Scene} {number : Nat} {errand : Errand}
    (h : scene.waiting.lookup number = some errand) :
    scene.books.pending = (scene.dismiss number).books.pending + errand.isUnit.toNat := by
  obtain ⟨loader, volume, waiting, begun⟩ := scene
  show waiting.countP _ = (waiting.eraseP (·.1 == number)).countP _ + _
  change waiting.lookup number = _ at h
  induction waiting with
  | nil => cases h
  | cons entry rest ih =>
    obtain ⟨key, other⟩ := entry
    rw [List.lookup_cons] at h
    by_cases hkey : key = number
    · subst hkey
      rw [beq_self_eq_true] at h
      obtain rfl := Option.some.inj h
      rw [List.eraseP_cons_of_pos (by simp), List.countP_cons]
      cases other.isUnit <;> rfl
    · rw [beq_eq_false_iff_ne.mpr (Ne.symm hkey)] at h
      rw [List.eraseP_cons_of_neg (by simp [hkey]), List.countP_cons, List.countP_cons, ih h]
      omega

/-! ## Whatever happens -/

namespace Scene

theorem posting_ask (scene : Scene) (name : String) :
    scene.books.Posting ((scene.step (.ask name)).charge (.ask name))
      (scene.next (.ask name)).books := by
  unfold next
  cases hunit : scene.loader.memo.units.get? name with
  | some unit =>
    rw [ask_of_bound hunit]
    exact .recalled
  | none =>
    cases hmiss : scene.recalledMiss name with
    | some miss =>
      rw [ask_of_missed hunit hmiss]
      exact .missRecalled
    | none =>
      rw [ask_of_unknown hunit hmiss]
      exact .begun (pending_await scene (.unit (scene.ticket name)))

/-- An answer that no lookup of a unit waits for. It comes to nothing, and no counter is raised. -/
theorem answer_of_unawaited {scene : Scene} {number : Nat} (found : Option (Shared CodeUnit))
    (h : ∀ ticket, scene.waiting.lookup number ≠ some (.unit ticket)) :
    scene.step (.answer number found) = ⟨.nothing, scene, []⟩ := by
  show scene.answer number found = _
  unfold answer
  split
  · next ticket hwaiting => exact absurd hwaiting (h ticket)
  · rfl

theorem posting_answer (scene : Scene) (number : Nat) (found : Option (Shared CodeUnit)) :
    scene.books.Posting ((scene.step (.answer number found)).charge (.answer number found))
      (scene.next (.answer number found)).books := by
  unfold next
  by_cases hawaited : ∃ ticket, scene.waiting.lookup number = some (.unit ticket)
  · obtain ⟨ticket, hwaiting⟩ := hawaited
    rw [answer_of_waiting found hwaiting]
    have hpending := pending_dismiss hwaiting
    have hskips := Loader.events_finishLookup_none scene.loader scene.volume ticket
    have hplaces := ticket.sources.length_places_le ticket.name
    rcases Loader.finishLookup_cases scene.loader scene.volume ticket found with
      ⟨unit, rfl, -, -⟩ |
      ⟨rfl, failed, place, rest, bytes, unit, domains, packages, issued, hsplit, hfailed, hread,
        -, -, -, hreply, hloader⟩ |
      ⟨rfl, hall, searched, rfl, hreply, hloader⟩
    · exact .hosted hpending (Table.size_insertNew_le ..)
    · rw [hsplit, List.length_append, List.length_cons] at hplaces
      have hsearched :=
        Loader.events_tryPlaces_found scene.loader.searching ticket.name rest hfailed
        hread
      rw [hsplit, hsearched] at hskips
      generalize scene.loader.finishLookup scene.volume ticket none = turn
        at hreply hloader hskips ⊢
      obtain ⟨reply, loader, events⟩ := turn
      dsimp only at hreply hloader hskips
      subst hreply hloader
      show scene.books.Posting { units := 1, skipped := events.countP Event.isSkip } _
      rw [hskips]
      exact .defined hpending (Table.size_insertNew_le ..) (by omega)
    · have hsearched := Loader.events_tryPlaces_missing scene.loader.searching ticket.name hall
      rw [hsearched] at hskips
      generalize scene.loader.finishLookup scene.volume ticket none = turn
        at hreply hloader hskips ⊢
      obtain ⟨reply, loader, events⟩ := turn
      dsimp only at hreply hloader hskips
      subst hreply hloader
      show scene.books.Posting { misses := 1, skipped := events.countP Event.isSkip } _
      rw [hskips]
      -- To make and to keep the record changes none of the books.
      rcases Loader.recordMiss_cases
          (scene.loader.searching.readTimes (ticket.sources.places ticket.name).length) ticket with
        ⟨-, -, hrecorded⟩ | ⟨-, -, hrecorded⟩
      · rw [hrecorded]
        exact .missed hpending hplaces
      · rw [hrecorded]
        exact .missed hpending hplaces
  · rw [answer_of_unawaited found fun ticket hwaiting => hawaited ⟨ticket, hwaiting⟩]
    cases found <;> exact .nothing

/-- What changes no counter, skips no copy and binds nothing is not put to the account. -/
theorem posting_nothing {scene : Scene} {one : Happening} {step : Step}
    (hcharge : step.charge one = {})
    (hcounters : step.scene.loader.counters = scene.loader.counters)
    (hunits : step.scene.loader.memo.units = scene.loader.memo.units)
    (hpending : step.scene.books.pending = scene.books.pending) :
    scene.books.Posting (step.charge one) step.scene.books := by
  have hbooks : step.scene.books = scene.books := by
    show Books.mk step.scene.loader.counters step.scene.books.pending
      step.scene.loader.memo.units.size = _
    rw [hcounters, hunits, hpending]
    rfl
  rw [hcharge, hbooks]
  exact .nothing

theorem posting_seek (scene : Scene) (name : String) :
    scene.books.Posting ((scene.step (.seek name)).charge (.seek name))
      (scene.next (.seek name)).books := by
  show scene.books.Posting ((scene.seek _).charge _) (scene.seek _).scene.books
  unfold seek
  split
  · exact .nothing
  · exact posting_nothing rfl rfl rfl (pending_await scene _)

theorem posting_seekAll (scene : Scene) (name : String) :
    scene.books.Posting ((scene.step (.seekAll name)).charge (.seekAll name))
      (scene.next (.seekAll name)).books := by
  show scene.books.Posting ((scene.seekAll _).charge _) (scene.seekAll _).scene.books
  unfold seekAll
  split
  · exact .nothing
  · exact posting_nothing rfl rfl rfl (pending_await scene _)

theorem posting_locate (scene : Scene) (number : Nat) (found : Option Location) :
    scene.books.Posting ((scene.step (.locate number found)).charge (.locate number found))
      (scene.next (.locate number found)).books := by
  show scene.books.Posting ((scene.locate number found).charge _)
    (scene.locate number found).scene.books
  unfold locate
  split
  · next name own hwaiting =>
    have hpending := (pending_dismiss hwaiting).symm
    unfold Loader.rememberResource
    split
    · exact posting_nothing rfl rfl rfl hpending
    · exact posting_nothing rfl rfl rfl hpending
  · exact .nothing

theorem posting_locateAll (scene : Scene) (number : Nat) (found : List Location) :
    scene.books.Posting ((scene.step (.locateAll number found)).charge (.locateAll number found))
      (scene.next (.locateAll number found)).books := by
  show scene.books.Posting ((scene.locateAll number found).charge _)
    (scene.locateAll number found).scene.books
  unfold locateAll
  split
  · next name own hwaiting =>
    have hpending := (pending_dismiss hwaiting).symm
    unfold Loader.rememberList
    split
    · exact posting_nothing rfl rfl rfl hpending
    · exact posting_nothing rfl rfl rfl hpending
  · exact .nothing

theorem posting_preload (scene : Scene) (unit : Shared CodeUnit) :
    scene.books.Posting ((scene.step (.preload unit)).charge (.preload unit))
      (scene.next (.preload unit)).books := by
  show scene.books.Posting ((scene.settle (scene.loader.preload unit) .defined).charge _)
    (scene.settle (scene.loader.preload unit) .defined).scene.books
  cases hbound : scene.loader.isBound unit.value.name with
  | true =>
    rw [Loader.preload_eq_of_bound hbound]
    exact .nothing
  | false =>
    rw [Loader.preload_eq_of_free hbound]
    exact .preloaded (Table.size_insertNew_le ..)

/-- A registration tells of no copy, and raises no counter: it is a change to the sources only. -/
theorem posting_register {α : Type} {scene : Scene} {one : Happening}
    (opened : Except Fault α × List Event) (add : α → Turn Nat) (hasks : one.isAsk = false)
    (hhosted : ∀ outcome, one.isHosted outcome = false) (hopened : Plain opened.2)
    (hadd : ∀ source, (add source).loader.counters = scene.loader.counters ∧
      (add source).loader.memo.units = scene.loader.memo.units ∧ Plain (add source).events) :
    scene.books.Posting ((scene.settle (scene.loader.register opened add) .count).charge one)
      (scene.settle (scene.loader.register opened add) .count).scene.books := by
  have hcharge {result : Except Fault Nat} {scene : Scene} {events : List Event}
      (hevents : Plain events) : (Step.mk (.count result) scene events).charge one = {} := by
    unfold Step.charge
    rw [hasks, hhosted, hevents.countP_isSkip]
    rfl
  obtain ⟨result, events⟩ := opened
  cases result with
  | error fault => exact posting_nothing (hcharge hopened) rfl rfl rfl
  | ok source =>
    obtain ⟨hcounters, hunits, hmore⟩ := hadd source
    exact posting_nothing (hcharge (hopened.append hmore)) hcounters hunits rfl

/-- Whatever happens is one of the postings. This is the only place where the steps of a loader are
gone through; the balance is drawn from the postings alone. -/
theorem step_posting (scene : Scene) (one : Happening) :
    scene.books.Posting ((scene.step one).charge one) (scene.next one).books := by
  have haddArchive (archive : Archive) :
      (scene.loader.addArchive archive).loader.counters = scene.loader.counters ∧
        (scene.loader.addArchive archive).loader.memo.units = scene.loader.memo.units ∧
        Plain (scene.loader.addArchive archive).events :=
    ⟨rfl, (Loader.internAll_units ..).1, scene.loader.addArchive_plain archive⟩
  cases one with
  | ask name => exact posting_ask scene name
  | answer number found => exact posting_answer scene number found
  | seek name => exact posting_seek scene name
  | locate number found => exact posting_locate scene number found
  | seekAll name => exact posting_seekAll scene name
  | locateAll number found => exact posting_locateAll scene number found
  | preload unit => exact posting_preload scene unit
  | registerDirectory path =>
    refine posting_register _ scene.loader.addDirectory rfl (fun _ => rfl)
      (Directory.scan_plain _ path _) ?_
    intro directory
    exact ⟨rfl, (Loader.internAll_units ..).1, scene.loader.addDirectory_plain directory⟩
  | registerArchive path =>
    exact posting_register _ scene.loader.addArchive rfl (fun _ => rfl)
      (Archive.openPath_plain _ path _) haddArchive
  | registerImage image origin =>
    exact posting_register _ scene.loader.addArchive rfl (fun _ => rfl)
      (Archive.openImage_plain _ image origin _) haddArchive
  | forgetMisses => exact .nothing
  | change volume => exact .nothing

end Scene

/-! ## The balance -/

/-- The counters of a loader balance with what was counted from outside and with the lookups that
wait. At first `initial` names are bound. -/
structure Balance (initial : Nat) (books : Books) (tally : Tally) : Prop where
  asked : books.counters.cacheHits + books.counters.negativeHits + books.counters.hostLookups =
    tally.asked
  units : tally.units = books.counters.cacheHits + tally.hosted + books.counters.definitions
  misses : tally.misses + books.counters.definitions =
    books.counters.negativeHits + books.counters.localSearches
  /-- A lookup that has turned to the host waits, or the host had the unit, or it has turned to the
  sources. -/
  hosted : books.counters.hostLookups =
    tally.hosted + books.counters.localSearches + books.pending
  reads : books.counters.byteReads = books.counters.definitions + tally.skipped
  searches : books.counters.definitions ≤ books.counters.localSearches
  copies : books.counters.byteReads ≤ 2 * books.counters.localSearches
  bound : books.bound ≤
    initial + tally.preloaded + tally.hosted + books.counters.definitions

theorem Balance.post {initial : Nat} {books later : Books} {tally charge : Tally}
    (h : Balance initial books tally) (hpost : books.Posting charge later) :
    Balance initial later (tally.add charge) := by
  obtain ⟨hasked, hunits, hmisses, hhosted, hreads, hsearches, hcopies, hbound⟩ := h
  cases hpost <;> constructor <;> grind [Tally.add]

theorem Scene.balance_after {start : Scene} (hcounters : start.loader.counters = {})
    (hwaiting : start.waiting = []) (history : List Happening) :
    Balance start.loader.memo.units.size (start.after history).books (start.tally history) := by
  induction history using List.reverseRecOn with
  | nil =>
    have hbooks : start.books = ⟨{}, 0, start.loader.memo.units.size⟩ := by
      unfold Scene.books
      rw [hcounters, hwaiting]
      rfl
    rw [Scene.after_nil, hbooks]
    constructor <;> simp [Scene.tally]
  | append_singleton history one ih =>
    rw [Scene.after_concat, Scene.tally_concat]
    exact ih.post (step_posting _ one)

/-- What the counters of a loader say that has no lookup waiting. At first `initial` names were
bound, and `bound` are now. -/
structure Accounted (initial bound : Nat) (counters : Counters) (tally : Tally) : Prop where
  asked : counters.cacheHits + counters.negativeHits + counters.hostLookups = tally.asked
  units : tally.units =
    counters.cacheHits + (counters.hostLookups - counters.localSearches) + counters.definitions
  misses : tally.misses =
    counters.negativeHits + (counters.localSearches - counters.definitions)
  reads : counters.byteReads = counters.definitions + tally.skipped
  definitions_le_searches : counters.definitions ≤ counters.localSearches
  searches_le_hostLookups : counters.localSearches ≤ counters.hostLookups
  definitions_le_reads : counters.definitions ≤ counters.byteReads
  reads_le_searches : counters.byteReads ≤ 2 * counters.localSearches
  /-- The lookups that stopped at the host are those whose host had the unit. -/
  hosted : counters.hostLookups - counters.localSearches = tally.hosted
  bound : bound ≤ initial + tally.preloaded + tally.hosted + counters.definitions

theorem Balance.accounted {initial : Nat} {books : Books} {tally : Tally}
    (h : Balance initial books tally) (hidle : books.pending = 0) :
    Accounted initial books.bound books.counters tally := by
  obtain ⟨hasked, hunits, hmisses, hhosted, hreads, hsearches, hcopies, hbound⟩ := h
  constructor <;> omega

/-- No lookup of a unit waits. Only then do the counters balance with what has been replied. -/
def Scene.Idle (scene : Scene) : Prop := ∀ number ticket, (number, .unit ticket) ∉ scene.waiting

theorem Scene.Idle.pending {scene : Scene} (h : scene.Idle) : scene.books.pending = 0 := by
  refine List.countP_eq_zero.mpr ?_
  rintro ⟨number, errand⟩ hmem
  cases errand with
  | unit ticket => exact absurd hmem (h number ticket)
  | resource name own => exact Bool.false_ne_true
  | resources name own => exact Bool.false_ne_true

/-- Between calls to a stack of loaders, nothing waits, so the counters of each of them account for
the history that the calls were to it. -/
theorem Layers.exists_accounted {layers : Layers} {place tag : Nat} {options : Options}
    {memo : Memo} (hloader : layers.loaderAt? place = some (.create tag options memo))
    (calls : List (Nat × Call)) :
    ∃ loader history,
      (layers.after calls).loaderAt? place = some loader ∧
      (Scene.after ⟨.create tag options memo, layers.volume, [], 0⟩ history).loader = loader ∧
      Accounted memo.units.size loader.unitCount loader.counters
        (Scene.tally ⟨.create tag options memo, layers.volume, [], 0⟩ history) := by
  obtain ⟨loader, hloader', hhistory⟩ := (layers.after_leads place calls).history _ hloader
  obtain ⟨history, begun, hafter, -⟩ := hhistory [] 0
  have hbalance :=
    @Scene.balance_after ⟨.create tag options memo, layers.volume, [], 0⟩ rfl rfl history
  rw [hafter] at hbalance
  exact ⟨loader, history, hloader', congrArg Scene.loader hafter, hbalance.accounted rfl⟩

/-- Whenever no lookup waits, the counters of a loader account for every lookup that was made since
it was created. So do those of a loader that is one of a stack, between any calls to the loaders of
the stack. -/
theorem lookups_accounted (tag : Nat) (options : Options) (memo : Memo) :
    (∀ volume history, (Scene.after ⟨.create tag options memo, volume, [], 0⟩ history).Idle →
      let start : Scene := ⟨.create tag options memo, volume, [], 0⟩
      Accounted memo.units.size (start.after history).loader.unitCount
        (start.after history).loader.counters (start.tally history)) ∧
    ∀ (layers : Layers) place, layers.loaderAt? place = some (.create tag options memo) →
      ∀ calls, ∃ loader history,
        (layers.after calls).loaderAt? place = some loader ∧
        (Scene.after ⟨.create tag options memo, layers.volume, [], 0⟩ history).loader = loader ∧
        Accounted memo.units.size loader.unitCount loader.counters
          (Scene.tally ⟨.create tag options memo, layers.volume, [], 0⟩ history) := by
  refine ⟨?_, fun layers place hloader calls => Layers.exists_accounted hloader calls⟩
  intro volume history hidle start
  exact (@Scene.balance_after start rfl rfl history).accounted hidle.pending

/-- While a unit is looked up that a directory has, the host looks another one up that is
nowhere. -/
def askingTwice : List Happening :=
  [.registerDirectory "/two", .ask "a", .ask "b", .answer 1 none, .answer 0 none, .ask "b",
    .ask "a"]

/-- A loader that has another one as its host, and nothing is asked of either yet. -/
def parentAndChild : Layers :=
  ⟨doubled.volume, [⟨.create 0 {} {}, .none⟩, ⟨.create 1 {} {}, .loader 0⟩]⟩

/-- The host is given a directory, and the loader on it is asked for two units. -/
def callsThrough : List (Nat × Call) :=
  [(0, .registerDirectory "/two"), (1, .load "a" false), (1, .find "b"), (1, .load "a" false)]

/-- Both lookups have come to their ends. In the stack, the host is asked once for each of the two
units, and its counters account for that. -/
theorem asking_twice_accounted :
    ((doubled.after askingTwice).Idle ∧
      Accounted 0 (doubled.after askingTwice).loader.unitCount
        (doubled.after askingTwice).loader.counters (doubled.tally askingTwice)) ∧
    ∃ loader history, (parentAndChild.after callsThrough).loaderAt? 0 = some loader ∧
      loader.counters.hostLookups = 2 ∧
      (Scene.after ⟨.create 0 {} {}, doubled.volume, [], 0⟩ history).loader = loader ∧
      Accounted 0 loader.unitCount loader.counters
        (Scene.tally ⟨.create 0 {} {}, doubled.volume, [], 0⟩ history) := by
  obtain ⟨hhistories, hstacks⟩ := lookups_accounted 0 {} {}
  have hidle : (doubled.after askingTwice).Idle := by
    have hwaiting : (doubled.after askingTwice).waiting = [] := by cbv
    intro number ticket hmem
    rw [hwaiting] at hmem
    cases hmem
  refine ⟨⟨hidle, hhistories doubled.volume askingTwice hidle⟩, ?_⟩
  obtain ⟨loader, history, hloader, hafter, haccounted⟩ :=
    hstacks parentAndChild 0 rfl callsThrough
  have hcounted : ((parentAndChild.after callsThrough).loaderAt? 0).map
      (·.counters.hostLookups) = some 2 := by cbv
  rw [hloader] at hcounted
  exact ⟨loader, history, hloader, Option.some.inj hcounted, hafter, haccounted⟩

end LayeredUnits
