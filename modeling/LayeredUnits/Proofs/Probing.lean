import Mathlib
import LayeredUnits.Proofs.Visits

/-!
# Probing leaves nothing behind

Names that are asked for about once must not fill the memory. A lookup of such a
name that fails is counted, and uses up a record that nobody keeps; there is no
other trace of it. That is so for every table that a loader has, the one of the
names that are kept included, which is written whenever another one is.

* `Loader.forgetsMiss_iff`, `Loader.forgetsResource_iff` — which names these are.
* `Loader.counted_resolve` — a failed lookup of such a unit only counts.
* `Layers.Visit.counted_step` — this for every call of a run, and
  `Layers.Run.counted` for the run, by induction.
* `Layers.Visit.recorded_step` — any other failed lookup adds one miss.
* `Layers.probing_leaves_nothing` — both.
-/

namespace LayeredUnits

open ResourceName (normalize)

namespace Loader

/-! ## Names that are not remembered -/

/-- That there is no unit of this name is not remembered: no such outcome is, or the name is one of
the speculative ones. -/
def ForgetsMiss (loader : Loader) (name : String) : Prop :=
  loader.options.remembersMisses = false ∨
    (∃ marker ∈ loader.options.probes.unitMarkers, ∃ before behind,
      name.toList = before ++ marker.toList ++ behind) ∨
    ∃ suffix ∈ loader.options.probes.unitSuffixes, suffix.toList <:+ name.toList

/-- Where this resource is, or that it is nowhere, is not remembered. -/
def ForgetsResource (loader : Loader) (name : String) : Prop :=
  ∃ suffix ∈ loader.options.probes.resourceSuffixes, suffix.toList <:+ name.toList

theorem forgetsMiss_iff {loader : Loader} {name : String} :
    loader.ForgetsMiss name ↔
      ¬ (loader.options.remembersMisses = true ∧
        loader.options.probes.remembersMiss name = true) := by
  unfold ForgetsMiss Probes.remembersMiss Text.contains Text.endsWith
  simp only [← Text.occursIn_iff, ← List.isSuffixOf_iff_suffix, Bool.and_eq_true,
    Bool.not_eq_true', List.any_eq_false, not_and_or, not_forall, exists_prop, Bool.not_eq_true,
    Bool.not_eq_false]

theorem forgetsResource_iff {loader : Loader} {name : String} :
    loader.ForgetsResource name ↔ loader.remembersResource name = false := by
  unfold ForgetsResource remembersResource Probes.remembersResource Text.endsWith
  simp only [← List.isSuffixOf_iff_suffix, Bool.not_eq_false', List.any_eq_true]

/-- Such an outcome is dropped, and the lookup replies what it has found. -/
theorem rememberResource_of_forgets {loader : Loader} {name : String} (found : Option Location)
    (hforgets : loader.ForgetsResource name) :
    loader.rememberResource name found = ⟨found, loader, []⟩ :=
  if_neg (Bool.eq_false_iff.mp (forgetsResource_iff.mp hforgets))

theorem rememberList_of_forgets {loader : Loader} {name : String} (found : List Location)
    (hforgets : loader.ForgetsResource name) :
    loader.rememberList name found = ⟨found, loader, []⟩ :=
  if_neg (Bool.eq_false_iff.mp (forgetsResource_iff.mp hforgets))

/-! ## What a lookup changes that is not remembered -/

/-- One loader is as the other one, but for what it has counted and for the records that it has
made. -/
def Counted (loader later : Loader) : Prop :=
  ∃ counters issued, later = { loader with counters := counters, issued := issued }

theorem Counted.refl (loader : Loader) : loader.Counted loader :=
  ⟨loader.counters, loader.issued, rfl⟩

theorem Counted.trans {first second third : Loader} (h₁ : first.Counted second)
    (h₂ : second.Counted third) : first.Counted third := by
  obtain ⟨counters, issued, rfl⟩ := h₁
  obtain ⟨counters', issued', rfl⟩ := h₂
  exact ⟨counters', issued', rfl⟩

/-- Both loaders are of the same opinion about which resources are remembered. -/
theorem Counted.forgetsResource {loader later : Loader} (h : loader.Counted later) {name : String}
    (hforgets : loader.ForgetsResource name) : later.ForgetsResource name := by
  obtain ⟨counters, issued, rfl⟩ := h
  exact hforgets

/-- The record of a lookup that may not be remembered is made and kept by nobody. -/
theorem counted_recordMiss {loader : Loader} {ticket : Ticket}
    (hforgets : loader.mayRemember ticket = false) :
    loader.Counted (loader.recordMiss ticket).loader := by
  rcases recordMiss_cases loader ticket with ⟨hmay, -⟩ | ⟨-, -, hrecord⟩
  · cases hforgets.symm.trans hmay
  · rw [hrecord]
    exact ⟨loader.counters, _, rfl⟩

theorem mayRemember_searched (loader : Loader) (name : String) :
    (loader.searched name).mayRemember (loader.ticketFor name) = true ↔
      ¬ loader.ForgetsMiss name := by
  rw [mayRemember_iff, forgetsMiss_iff, not_not]
  exact and_congr_right fun _ => and_iff_left rfl

theorem counted_resolve {loader : Loader} {volume : Volume} {name : String}
    (hfree : loader.binding? name = none) (hforgets : loader.ForgetsMiss name)
    (hunread : Unreadable volume loader.options.maxUnitSize (loader.sources.places name)) :
    loader.Counted (loader.resolve volume name none).loader := by
  cases hmiss : if loader.options.remembersMisses then loader.memo.misses.get? name else none with
  | some miss =>
    -- A miss that is there already is the reply.
    rw [resolve_of_recalled volume none hfree hmiss]
    exact ⟨_, loader.issued, rfl⟩
  | none =>
    rw [(resolve_of_unreadable ⟨hfree, hmiss⟩ hunread).2]
    have hsearched : loader.Counted (loader.searched name) := ⟨_, loader.issued, rfl⟩
    refine hsearched.trans (counted_recordMiss ?_)
    rw [← Bool.not_eq_true, mayRemember_searched]
    exact not_not_intro hforgets

/-- A lookup that fails and recalls no miss has searched in vain, and nobody had the unit. -/
theorem unfound_of_error {loader : Loader} {volume : Volume} {name : String}
    {answer : Option (Shared CodeUnit)} {fault : Fault} (hunrecalled : loader.Unrecalled name)
    (hfailed : (loader.resolve volume name answer).reply = .error fault) :
    answer = none ∧
      Unreadable volume loader.options.maxUnitSize (loader.sources.places name) := by
  cases answer with
  | some unit =>
    rw [resolve_of_answer volume unit hunrecalled] at hfailed
    cases hfailed
  | none =>
    refine ⟨rfl, ?_⟩
    cases hfound :
        (loader.asking.searching.tryPlaces volume name (loader.sources.places name)).reply with
    | some unit => cases (resolve_of_found hunrecalled hfound).1.symm.trans hfailed
    | none => exact @unreadable_of_tryPlaces loader.asking.searching volume name _ hfound

/-- A lookup that fails, and may remember that, adds its record. The name is kept as well, and the
counters go up. -/
theorem recorded_resolve {loader : Loader} {volume : Volume} {name : String}
    {answer : Option (Shared CodeUnit)} {fault : Fault}
    (hunmissed : loader.memo.misses.get? name = none) (hremembers : ¬ loader.ForgetsMiss name)
    (hfailed : (loader.resolve volume name answer).reply = .error fault) :
    ∃ miss, fault = .unitNotFound miss ∧ ∃ counters issued,
      (loader.resolve volume name answer).loader =
        { loader with
          counters := counters
          issued := issued
          memo := (loader.memo.intern name).rememberMiss name miss } := by
  have hunknown : loader.Unknown name := by
    refine ⟨?_, hunmissed⟩
    cases hbound : loader.binding? name with
    | none => rfl
    | some unit =>
      rw [resolve_of_bound volume answer hbound] at hfailed
      cases hfailed
  obtain ⟨rfl, hunread⟩ := unfound_of_error hunknown.unrecalled hfailed
  obtain ⟨hreply, hloader⟩ := resolve_of_unreadable hunknown.unrecalled hunread
  rcases recordMiss_cases (loader.searched name) (loader.ticketFor name) with
    ⟨-, hrecord, hkept⟩ | ⟨hforgets, -⟩
  · -- No record was there, so the one that is stored is the one that is handed out.
    have hown : (loader.searched name).memo.keptMiss name
        ((loader.searched name).freshMiss (loader.ticketFor name)) = _ :=
      Table.kept_of_none _ hunmissed
    rw [hreply] at hfailed
    refine ⟨_, (Except.error.inj hfailed).symm, (loader.searched name).counters,
      (loader.searched name).issue.issued, ?_⟩
    rw [hloader, hkept, hrecord]
    exact congrArg (fun miss : Shared Miss => ({ (loader.searched name).issue with
      memo := (loader.memo.intern name).rememberMiss name miss } : Loader)) hown.symm
  · cases hforgets.symm.trans ((mayRemember_searched loader name).mpr hremembers)

end Loader


namespace Layers

/-! ## Calls that are for such names -/

namespace Visit

variable {visit : Visit} {place : Nat} {start loader : Loader}

/-- The call is for a name that the loader `start` does not remember: for a unit that nobody has,
or for a resource, which may be there. -/
inductive Probes (visit : Visit) (place : Nat) (start : Loader) : Prop
  | unit {name : String} (hwanted : wanted? visit.call = some name)
      (hfree : start.binding? name = none) (hforgets : start.ForgetsMiss name)
      (hnone : ∀ loader, visit.layers.loaderAt? place = some loader →
        (visit.asked place loader name).reply = none ∧
          Loader.Unreadable (visit.asked place loader name).layers.volume
            start.options.maxUnitSize (start.sources.places name))
  | resource {name : String} (hsought : visit.call.sought? = some name)
      (hforgets : start.ForgetsResource name)
  | resources {name : String} (hcall : visit.call = .resources name)
      (hforgets : start.ForgetsResource (normalize name))

/-- Such a call only counts. The host may do what it likes to others, but it leaves this loader
alone. -/
theorem counted_step (hcounted : start.Counted loader)
    (hloader : visit.layers.loaderAt? place = some loader)
    (halone : visit.layers.LeftAlone visit.depth place) (hprobes : visit.Probes place start) :
    ∃ next, (visit.step place).layers.loaderAt? place = some next ∧ start.Counted next := by
  cases hprobes with
  | unit hwanted hfree hforgets hnone =>
    obtain ⟨hreply, hunread⟩ := hnone loader hloader
    -- The lookup depends on nothing in which the loader differs from the one of the start.
    obtain ⟨counters, issued, rfl⟩ := id hcounted
    refine ⟨_, loader_of_wanted hloader halone hwanted, hcounted.trans ?_⟩
    rw [hreply]
    exact Loader.counted_resolve hfree hforgets hunread
  | @resource name hsought hforgets =>
    refine ⟨_, loader_of_sought hloader halone hsought, ?_⟩
    rw [Loader.rememberResource_of_forgets _ (hcounted.forgetsResource hforgets)]
    exact hcounted
  | @resources name hcall hforgets =>
    obtain ⟨-, hfound⟩ := findResources_of_alone hloader halone name
    unfold step
    rw [hcall]
    refine ⟨_, hfound, ?_⟩
    rw [Loader.rememberList_of_forgets _ (hcounted.forgetsResource hforgets)]
    exact hcounted

/-- A load adds one miss if it fails, and may remember that, and no miss of the name was there. -/
theorem recorded_step {name : String} {wantsLink : Bool} {fault : Fault}
    (hcall : visit.call = .load name wantsLink)
    (hloader : visit.layers.loaderAt? place = some loader)
    (halone : visit.layers.LeftAlone visit.depth place)
    (hunmissed : loader.memo.misses.get? name = none) (hremembers : ¬ loader.ForgetsMiss name)
    (hfailed : visit.reply place = .unit (.error fault)) :
    ∃ miss next, fault = .unitNotFound miss ∧
      (visit.step place).layers.loaderAt? place = some next ∧
      next.memo = (loader.memo.intern name).rememberMiss name miss ∧
      next.missCount = loader.missCount + 1 ∧ next.sources = loader.sources := by
  have hwanted : wanted? visit.call = some name := by rw [hcall]; rfl
  have hlooked : (lookUp (callWithin visit.depth) visit.layers place name).reply =
      .error fault := by
    unfold reply step callWithin at hfailed
    rw [hcall, load_reply] at hfailed
    exact Reply.unit.inj hfailed
  rw [(lookUp_of_alone hloader halone name).1] at hlooked
  obtain ⟨miss, hfault, counters, issued, hnext⟩ :=
    Loader.recorded_resolve hunmissed hremembers hlooked
  refine ⟨miss, _, hfault, loader_of_wanted hloader halone hwanted, ?_⟩
  rw [hnext]
  refine ⟨rfl, ?_, rfl⟩
  exact Table.size_insertNew_of_none miss hunmissed

end Visit

/-- A run of such calls only counts, however many there are. The induction is on the run, at its
end. -/
theorem Run.counted {place : Nat} {start last : Loader} {visits : List Visit}
    (hrun : Run place start visits last) (hprobes : ∀ visit ∈ visits, visit.Probes place start) :
    start.Counted last := by
  induction hrun with
  | start => exact .refl start
  | @visit visits visit loader next hrun hloader halone hnext ih =>
    obtain ⟨hbefore, hlast⟩ := List.forall_mem_append.mp hprobes
    obtain ⟨reached, hreached, hcounted⟩ := Visit.counted_step (ih hbefore) hloader halone
      (hlast visit List.mem_cons_self)
    obtain rfl : reached = next := Option.some.inj (hreached.symm.trans hnext)
    exact hcounted

/-- Calls for names that are not remembered leave a loader as it was, but for its counts. A load of
another name adds one miss if it fails, and none was there. -/
theorem probing_leaves_nothing :
    (∀ {place : Nat} {start last : Loader} {visits : List Visit}, Run place start visits last →
      (∀ visit ∈ visits, visit.Probes place start) →
        ∃ counters issued, last = { start with counters := counters, issued := issued }) ∧
    ∀ {visit : Visit} {place : Nat} {loader : Loader} {name : String} {wantsLink : Bool}
        {fault : Fault},
      visit.call = .load name wantsLink → visit.layers.loaderAt? place = some loader →
      visit.layers.LeftAlone visit.depth place → loader.memo.misses.get? name = none →
      ¬ loader.ForgetsMiss name → visit.reply place = .unit (.error fault) →
        ∃ miss next, fault = .unitNotFound miss ∧
          (visit.step place).layers.loaderAt? place = some next ∧
          next.memo = (loader.memo.intern name).rememberMiss name miss ∧
          next.missCount = loader.missCount + 1 ∧ next.sources = loader.sources :=
  ⟨Run.counted, Visit.recorded_step⟩

/-- A loader with an archive that has a unit. -/
def stockist : Loader := served (.create 0 {} {}) { call := .registerImage parcel "parcel" }

/-- Two helpers that nobody has are asked for, and the bytes of the unit as a resource. -/
def probes : List Occasion := [
  { call := .load "Foo$1" false },
  { call := .find "FooBeanInfo" },
  { call := .openResource "/a.unit" }]

/-- What a call tells: the fault it fails with, as shown, or the bytes it opens. -/
def told : Reply → String ⊕ Option ByteArray
  | .unit (.error fault) | .found (.error fault) | .stream (.error fault) => .inl fault.message
  | .stream (.ok (some stream)) => .inr (some stream.data)
  | _ => .inr none

private theorem sources_stockist : stockist.sources.places "Foo$1" = [] ∧
    stockist.sources.places "FooBeanInfo" = [] ∧
    stockist.sources.archives.map (·.origin) = ["parcel"] := by
  have hplaces : (stockist.sources.places "Foo$1").length = 0 ∧
      (stockist.sources.places "FooBeanInfo").length = 0 ∧
      stockist.sources.archives.map (·.origin) = ["parcel"] := by decide +kernel
  exact ⟨List.length_eq_zero_iff.mp hplaces.1, List.length_eq_zero_iff.mp hplaces.2.1, hplaces.2.2⟩

private theorem free_stockist : stockist.binding? "Foo$1" = none ∧
    stockist.binding? "FooBeanInfo" = none ∧ stockist.memo.misses.get? "b" = none := by
  simp only [← Option.isNone_iff_eq_none]
  decide +kernel

private theorem forgets_stockist : stockist.ForgetsMiss "Foo$1" ∧
    stockist.ForgetsMiss "FooBeanInfo" ∧ stockist.ForgetsResource "a.unit" ∧
    ¬ stockist.ForgetsMiss "b" := by
  simp only [Loader.forgetsMiss_iff, Loader.forgetsResource_iff]
  decide +kernel

private theorem told_probes : (visitsTo stockist probes).map (fun visit => told (visit.reply 0)) = [
    .inl "Unit not found: Foo$1 (searched: host, 0 directories, 1 archives)",
    .inr none,
    .inr (some ⟨#[7]⟩)] := by decide +kernel

/-- An ordinary unit that nobody has is asked for. -/
def ordinary : Occasion := { call := .load "b" false }

private theorem told_ordinary : told ((kiosk stockist ordinary).reply 0) =
    .inl "Unit not found: b (searched: host, 0 directories, 1 archives)" := by decide +kernel

/-- The helpers are missed, the unit is opened, and the loader has learnt nothing of all that. An
ordinary unit that is missed is remembered. -/
theorem probing_leaves_nothing_kiosk :
    stockist.sources.archives.map (·.origin) = ["parcel"] ∧
    (visitsTo stockist probes).map (fun visit => told (visit.reply 0)) = [
      .inl "Unit not found: Foo$1 (searched: host, 0 directories, 1 archives)",
      .inr none,
      .inr (some ⟨#[7]⟩)] ∧
    (∃ counters issued,
      probes.foldl served stockist = { stockist with counters := counters, issued := issued }) ∧
    told ((kiosk stockist ordinary).reply 0) =
      .inl "Unit not found: b (searched: host, 0 directories, 1 archives)" ∧
    ∃ miss, (served stockist ordinary).memo =
        (stockist.memo.intern "b").rememberMiss "b" miss ∧
      (served stockist ordinary).missCount = stockist.missCount + 1 := by
  obtain ⟨hfirst, hsecond, harchives⟩ := sources_stockist
  obtain ⟨hfree, hfreeToo, hunmissed⟩ := free_stockist
  obtain ⟨hforgets, hforgetsToo, hspeculative, hremembers⟩ := forgets_stockist
  refine ⟨harchives, told_probes, ?_, told_ordinary, ?_⟩
  · have hrun : Run 0 stockist (visitsTo stockist probes) (probes.foldl served stockist) := by
      refine run_visitsTo fun occasion hoccasion => ?_
      fin_cases hoccasion <;> exact trivial
    refine probing_leaves_nothing.1 hrun fun visit hvisit => ?_
    simp only [probes, visitsTo, List.mem_cons, List.not_mem_nil, or_false] at hvisit
    rcases hvisit with rfl | rfl | rfl
    · -- The name has no place in the sources, so none of its copies can be read.
      refine .unit rfl hfree hforgets fun loader _ => ⟨rfl, ?_⟩
      rw [hfirst]
      exact fun place hplace => absurd hplace List.not_mem_nil
    · refine .unit rfl hfreeToo hforgetsToo fun loader _ => ⟨rfl, ?_⟩
      rw [hsecond]
      exact fun place hplace => absurd hplace List.not_mem_nil
    · exact .resource rfl hspeculative
  · have hnone : Host.none.IsQuiet := trivial
    have hcall : (kiosk stockist ordinary).call = .load "b" false := rfl
    have hunit (loader : Loader) : (kiosk loader ordinary).reply 0 =
        .unit (lookUp (callWithin 0) (kiosk loader ordinary).layers 0 "b").reply := load_reply ..
    have hreply := hunit stockist
    have htold := told_ordinary
    -- The reply is told as a record, so the lookup has failed.
    cases hlooked : (lookUp (callWithin 0) (kiosk stockist ordinary).layers 0 "b").reply with
    | ok unit =>
      rw [hreply, hlooked] at htold
      cases htold
    | error fault =>
      rw [hlooked] at hreply
      obtain ⟨miss, next, -, hnext, hmemo, hcount, -⟩ := probing_leaves_nothing.2 hcall rfl
        (leftAlone_of_quiet 0 rfl hnone) hunmissed hremembers hreply
      obtain rfl : served stockist ordinary = next :=
        Option.some.inj ((loaderAt?_kiosk stockist ordinary).symm.trans hnext)
      exact ⟨miss, hmemo, hcount⟩

end Layers

end LayeredUnits
