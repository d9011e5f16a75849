import LayeredUnits.Proofs.Binding
import LayeredUnits.Proofs.StaleMiss

/-!
# A remembered miss is final until it is cleared

A lookup that fails hands out a record. If the failure may be remembered, and
no clear came while the lookup waited, then the record handed out is the one
that is stored: its own, one that was stored before, or one that a nested
lookup of the same name stored while the host was asked. From then on only a
clear takes it away.

* `remembered_of_lasts` — a failing lookup leaves the record that it replies.
* `miss_after` — a record stays through every history without a clear.
* `generation_after` — the generation counts the clears, so that of calls an
  equal generation says that no clear came, nested ones included.
* `miss_final_until_cleared` — so every later lookup is answered with that very
  record, and nothing but one counter changes, for every history and for every
  sequence of calls to loaders in layers.
-/

namespace LayeredUnits

/-- Only a clear takes a miss away. Whatever else is written leaves a record that is there as
it is. -/
theorem Ledger.misses_write {ledger : Ledger} {name : String} {miss : Shared Miss} {entry : Entry}
    (h : ledger.misses.get? name = some miss) (hentry : entry ≠ .cleared) :
    (ledger.write entry).misses.get? name = some miss := by
  cases entry with
  | missed other made => exact Table.get?_insertNew_of_some made h
  | cleared => exact absurd rfl hentry
  | _ => exact h

/-- The loader after it has answered one more lookup with a remembered miss. -/
def Loader.recalling (loader : Loader) : Loader :=
  loader.count fun c => { c with negativeHits := c.negativeHits + 1 }

namespace Scene

/-! ## Clears and generations -/

/-- Whether a happening is a clear. Clears are what the lifetime of a miss is measured by. -/
def isClear : Happening → Bool
  | .forgetMisses => true
  | _ => false

theorem generation_next_isClear (scene : Scene) (one : Happening) :
    (scene.next one).loader.generation = scene.loader.generation + if isClear one then 1 else 0 := by
  rcases generation_next scene one with ⟨rfl, hnext, -⟩ | ⟨hone, hnext⟩
  · exact hnext
  · have hclear : isClear one = false := by
      cases one <;> first | rfl | exact absurd rfl hone
    rw [hnext, hclear]
    rfl

/-- The generation counts the clears. A ticket that has the present one was given after the last. -/
theorem generation_after (scene : Scene) (history : List Happening) :
    (scene.after history).loader.generation =
      scene.loader.generation + history.countP isClear := by
  induction history generalizing scene with
  | nil => rfl
  | cons one rest ih =>
    rw [after_cons, ih, generation_next_isClear, List.countP_cons]
    omega

theorem generation_of_uncleared {scene : Scene} {history : List Happening}
    (h : .forgetMisses ∉ history) :
    (scene.after history).loader.generation = scene.loader.generation := by
  have hnone : history.countP isClear = 0 := by
    rw [List.countP_eq_zero]
    intro one hone hclear
    cases one with
    | forgetMisses => exact h hone
    | _ => cases hclear
  rw [generation_after, hnone, Nat.add_zero]

/-! ## A record stays -/

theorem miss_next {scene : Scene} {name : String} {miss : Shared Miss} {one : Happening}
    (h : scene.loader.memo.misses.get? name = some miss) (hone : one ≠ .forgetMisses) :
    (scene.next one).loader.memo.misses.get? name = some miss := by
  obtain ⟨entry, hwrites, hledger⟩ := step_writes scene one
  have hmisses : (scene.next one).loader.memo.misses = (scene.loader.ledger.write entry).misses :=
    congrArg Ledger.misses hledger
  rw [hmisses]
  refine Ledger.misses_write h ?_
  rintro rfl
  cases hwrites
  exact hone rfl

theorem miss_after {scene : Scene} {name : String} {miss : Shared Miss} {history : List Happening}
    (h : scene.loader.memo.misses.get? name = some miss) (hclear : .forgetMisses ∉ history) :
    (scene.after history).loader.memo.misses.get? name = some miss := by
  induction history generalizing scene with
  | nil => exact h
  | cons one rest ih =>
    have hone : one ≠ .forgetMisses := fun heq => hclear (heq ▸ List.mem_cons_self)
    exact ih (miss_next h hone) fun hmem => hclear (List.mem_cons_of_mem one hmem)

/-! ## A failing lookup leaves the record that it replies -/

/-- The end of a lookup whose failure may be remembered: the record that it replies is in the
memory. -/
theorem remembered_of_answer {scene : Scene} {number : Nat} {ticket : Ticket}
    {found : Option (Shared CodeUnit)} {miss : Shared Miss}
    (hwaiting : scene.waiting.lookup number = some (.unit ticket))
    (hmay : scene.loader.mayRemember ticket = true)
    (houtcome : (scene.step (.answer number found)).outcome =
      .unit ticket.name (.error (.unitNotFound miss))) :
    (scene.next (.answer number found)).loader.memo.misses.get? ticket.name = some miss := by
  unfold next
  rw [answer_of_waiting found hwaiting] at houtcome ⊢
  have hreply : (scene.loader.finishLookup scene.volume ticket found).reply =
      .error (.unitNotFound miss) := (Outcome.unit.inj houtcome).2
  show (scene.loader.finishLookup scene.volume ticket found).loader.memo.misses.get? _ = _
  rcases Loader.finishLookup_cases scene.loader scene.volume ticket found with
    ⟨unit, -, hok, -⟩ |
    ⟨-, failed, place, rest, bytes, unit, domains, packages, issued, -, -, -, -, -, -, hok, -⟩ |
    ⟨-, -, searched, hsearched, herror, hloader⟩
  · -- Two of the three ends of a lookup come to a unit.
    cases hok.symm.trans hreply
  · cases hok.symm.trans hreply
  · have hrecord : (searched.recordMiss ticket).reply = miss :=
      Fault.unitNotFound.inj (Except.error.inj (herror.symm.trans hreply))
    have hallowed : searched.mayRemember ticket = true := by
      rw [hsearched]
      exact hmay
    rcases Loader.recordMiss_cases searched ticket with ⟨-, hkept, hstored⟩ | ⟨hnot, -, -⟩
    · -- The record that is replied is the one that is stored after the insertion.
      rw [hloader, hstored, ← hrecord, hkept]
      exact Table.get?_insertNew_self ..
    · cases hallowed.symm.trans hnot

theorem remembered_of_lasts {scene : Scene} {name : String} {during : List Happening}
    {last : Happening} {miss : Shared Miss} (hlasts : Layers.Lasts scene name during last)
    (hclear : .forgetMisses ∉ during)
    (hremembers : scene.loader.options.remembersMisses = true)
    (hprobes : scene.loader.options.probes.remembersMiss name = true)
    (houtcome : ((scene.after during).step last).outcome =
      .unit name (.error (.unitNotFound miss))) :
    ((scene.after during).next last).loader.memo.misses.get? name = some miss := by
  cases hlasts with
  | atOnce =>
    -- The lookup is answered as it begins: with a record only if that is stored already.
    rw [after_nil] at houtcome ⊢
    cases hunit : scene.loader.memo.units.get? name with
    | some unit =>
      rw [ask_of_bound hunit] at houtcome
      cases houtcome
    | none =>
      cases hmiss : scene.recalledMiss name with
      | none =>
        rw [ask_of_unknown hunit hmiss] at houtcome
        cases houtcome
      | some held =>
        have hstored : scene.loader.memo.misses.get? name = some held := by
          unfold recalledMiss at hmiss
          rwa [if_pos hremembers] at hmiss
        rw [ask_of_missed hunit hmiss] at houtcome
        cases houtcome
        exact miss_next hstored (by simp)
  | waits nested found hwaiting =>
    -- The lookup has waited. No clear has come meanwhile, so its generation
    -- is still the current one.
    refine @remembered_of_answer _ _ (scene.ticket name) found miss hwaiting ?_ houtcome
    rw [Loader.mayRemember_iff, options_after, generation_of_uncleared hclear]
    exact ⟨hremembers, hprobes, rfl⟩

/-- A lookup that is answered with a remembered miss, and all that it changes. The host is not
asked, no source is searched and no byte is read. -/
theorem ask_of_remembered {scene : Scene} {name : String} {miss : Shared Miss}
    (hremembers : scene.loader.options.remembersMisses = true)
    (hfree : scene.loader.binding? name = none)
    (hmiss : scene.loader.memo.misses.get? name = some miss) :
    scene.step (.ask name) = ⟨.unit name (.error (.unitNotFound miss)),
      scene.withLoader scene.loader.recalling, [.missRecalled name]⟩ := by
  refine ask_of_missed hfree ?_
  unfold recalledMiss
  rw [if_pos hremembers, hmiss]

end Scene

namespace Layers

/-- The same for calls: while a miss is remembered, whoever asks for the unit is given the record,
and neither the host nor a source is asked. -/
theorem call_of_remembered {layers : Layers} {index : Nat} {loader : Loader} {name : String}
    {miss : Shared Miss} (hloader : layers.loaderAt? index = some loader)
    (hremembers : loader.options.remembersMisses = true)
    (hfree : loader.binding? name = none) (hmiss : loader.memo.misses.get? name = some miss)
    (wantsLink : Bool) :
    layers.call index (.load name wantsLink) = ⟨.unit (.error (.unitNotFound miss)),
      layers.setLoader index loader.recalling, [.missRecalled name]⟩ := by
  obtain ⟨layer, hlayer, rfl⟩ := Option.map_eq_some_iff.mp hloader
  obtain ⟨depth, hdepth⟩ := layers.exists_depth
  have hunit : layer.loader.memo.units.get? name = none := hfree
  rw [hdepth]
  unfold callWithin perform lookUp
  simp only [hlayer, Loader.beginLookup, hunit, hremembers, hmiss, if_true]
  rfl

/-- A load that fails leaves the record that it replies, unless its name may not be remembered or
a clear came. -/
theorem remembered_of_load {layers : Layers} {index : Nat} {loader : Loader} {name : String}
    {wantsLink : Bool} {miss : Shared Miss} {failed : Loader}
    (hloader : layers.loaderAt? index = some loader)
    (hremembers : loader.options.remembersMisses = true)
    (hprobes : loader.options.probes.remembersMiss name = true)
    (hreply : (layers.call index (.load name wantsLink)).reply =
      .unit (.error (.unitNotFound miss)))
    (hfailed : (layers.call index (.load name wantsLink)).layers.loaderAt? index = some failed)
    (hgeneration : failed.generation = loader.generation) :
    failed.options = loader.options ∧ failed.memo.misses.get? name = some miss := by
  obtain ⟨layer, hlayer, rfl⟩ := Option.map_eq_some_iff.mp hloader
  obtain ⟨depth, hdepth⟩ := layers.exists_depth
  rw [hdepth] at hreply hfailed
  have hlookup : (lookUp (callWithin depth) layers index name).reply =
      .error (.unitNotFound miss) := Reply.unit.inj ((load_reply ..).symm.trans hreply)
  have hwanted : wanted? (.load name wantsLink) = some name := rfl
  have hsame := (perform_of_wanted (callWithin depth) layers index index hwanted).2.1
  obtain ⟨loader', begun', during, last, hloader', hlasts, -, houtcome, hscene⟩ :=
    lookUp_replies (callWithin_leads depth) name hlayer [] 0
  obtain rfl : loader' = failed :=
    Option.some.inj (hloader'.symm.trans (hsame.symm.trans hfailed))
  generalize hstart : (⟨layer.loader, layers.volume, [], 0⟩ : Scene) = start at hlasts houtcome hscene
  have hfinish : start.after (during ++ [last]) =
      ⟨loader', (lookUp (callWithin depth) layers index name).layers.volume, [], begun'⟩ := by
    rw [Scene.after_concat]
    exact hscene
  -- The generation counts the clears, so with the same one before and after there was none.
  have hcalm : (start.after (during ++ [last])).loader.generation = start.loader.generation := by
    rw [hfinish, ← hstart]
    exact hgeneration
  have huncleared : .forgetMisses ∉ during :=
    fun hmem => Scene.not_mem_of_generation hcalm (List.mem_append_left _ hmem)
  rw [hlookup] at houtcome
  have hstored := Scene.remembered_of_lasts hlasts huncleared (by rw [← hstart]; exact hremembers)
    (by rw [← hstart]; exact hprobes) houtcome
  refine ⟨?_, ?_⟩
  · have hoptions := start.options_after (during ++ [last])
    rw [hfinish, ← hstart] at hoptions
    exact hoptions
  · unfold Scene.next at hstored
    rw [hscene] at hstored
    exact hstored

/-- A record stays through calls between which no clear came, nested ones included. -/
theorem remembered_after {layers : Layers} {index : Nat} {loader later : Loader} {name : String}
    {miss : Shared Miss} {calls : List (Nat × Call)}
    (hloader : layers.loaderAt? index = some loader)
    (hmiss : loader.memo.misses.get? name = some miss)
    (hlater : (layers.after calls).loaderAt? index = some later)
    (hgeneration : later.generation = loader.generation) :
    later.options = loader.options ∧ later.memo.misses.get? name = some miss := by
  obtain ⟨reached, hreached, hhistory⟩ := (layers.after_leads index calls).history loader hloader
  obtain rfl : reached = later := Option.some.inj (hreached.symm.trans hlater)
  obtain ⟨history, begun, hafter, -⟩ := hhistory [] 0
  have huncleared : .forgetMisses ∉ history := by
    refine @Scene.not_mem_of_generation ⟨loader, layers.volume, [], 0⟩ history ?_
    rw [hafter]
    exact hgeneration
  have hoptions := Scene.options_after ⟨loader, layers.volume, [], 0⟩ history
  have hstored := @Scene.miss_after ⟨loader, layers.volume, [], 0⟩ name miss history hmiss huncleared
  rw [hafter] at hoptions hstored
  exact ⟨hoptions, hstored⟩

end Layers

/-! ## Both for every continuation -/

/-- A lookup whose failure may be remembered, and during which no clear came, hands out a record
that is final until the next clear: as long as the name is not bound, every later lookup of it is
answered with that very record, without the host and without the sources, and changes nothing but
the count of such answers. It does not matter what happens in between, and calls may nest others. -/
theorem miss_final_until_cleared :
    (∀ (scene : Scene) (name : String) (during : List Happening) (last : Happening)
        (miss : Shared Miss),
      scene.loader.options.remembersMisses = true →
      scene.loader.options.probes.remembersMiss name = true →
      Layers.Lasts scene name during last → .forgetMisses ∉ during →
      ((scene.after during).step last).outcome = .unit name (.error (.unitNotFound miss)) →
        ∀ later, .forgetMisses ∉ later →
          let now := ((scene.after during).next last).after later
          now.loader.binding? name = none →
            now.step (.ask name) = ⟨.unit name (.error (.unitNotFound miss)),
              now.withLoader now.loader.recalling, [.missRecalled name]⟩) ∧
    (∀ (layers : Layers) (index : Nat) (loader failed : Loader) (name : String) (wantsLink : Bool)
        (miss : Shared Miss),
      layers.loaderAt? index = some loader →
      loader.options.remembersMisses = true →
      loader.options.probes.remembersMiss name = true →
      (layers.call index (.load name wantsLink)).reply = .unit (.error (.unitNotFound miss)) →
      (layers.call index (.load name wantsLink)).layers.loaderAt? index = some failed →
      failed.generation = loader.generation →
        ∀ (calls : List (Nat × Call)) (later : Loader),
          let now := (layers.call index (.load name wantsLink)).layers.after calls
          now.loaderAt? index = some later → later.generation = loader.generation →
          later.binding? name = none →
            ∀ wantsLink', now.call index (.load name wantsLink') =
              ⟨.unit (.error (.unitNotFound miss)), now.setLoader index later.recalling,
                [.missRecalled name]⟩) := by
  refine ⟨?_, ?_⟩
  · intro scene name during last miss hremembers hprobes hlasts hclear houtcome later hlater now
      hfree
    have hstored := Scene.remembered_of_lasts hlasts hclear hremembers hprobes houtcome
    have hkept : now.loader.memo.misses.get? name = some miss :=
      Scene.miss_after hstored hlater
    refine Scene.ask_of_remembered ?_ hfree hkept
    rw [Scene.options_after, Scene.options_next, Scene.options_after]
    exact hremembers
  · -- The load leaves the record, the calls after it leave it where it is,
    -- and the last load finds it.
    intro layers index loader failed name wantsLink miss hloader hremembers hprobes hreply hfailed
      hgeneration calls later now hlater hlast hfree wantsLink'
    obtain ⟨hoptions, hstored⟩ :=
      Layers.remembered_of_load hloader hremembers hprobes hreply hfailed hgeneration
    obtain ⟨hoptions', hkept⟩ :=
      Layers.remembered_after hfailed hstored hlater (hlast.trans hgeneration.symm)
    have hremembers' : later.options.remembersMisses = true := by
      rw [hoptions', hoptions]
      exact hremembers
    exact Layers.call_of_remembered hlater hremembers' hfree hkept wantsLink'

/-- A directory that has the unit, and a loader without sources. Its host asks it once for what it
is asked for. -/
def echoing : Layers :=
  ⟨{ root := .directory [("lib", .directory [("a.unit", .file 0)])], contents := #[⟨#[1]⟩] },
    [⟨.create 0 {} {}, .embedder { habits := [(1, [.load "a" false])] }⟩]⟩

/-- The nested lookup stores its record, and the lookup around it hands out the same. It is handed
out again when the directory has been registered. -/
theorem miss_final_until_cleared_nested :
    (echoing.call 0 (.load "a" false)).reply =
      .unit (.error (.unitNotFound ⟨⟨0, 1⟩, Loader.missOf "a" {}⟩)) ∧
    (((echoing.call 0 (.load "a" false)).layers.after [(0, .registerDirectory "/lib")]).call 0
      (.load "a" true)).reply = .unit (.error (.unitNotFound ⟨⟨0, 1⟩, Loader.missOf "a" {}⟩)) ∧
    ((Scene.after ⟨.create 0 {} {}, echoing.volume, [], 0⟩
      [.ask "a", .answer 0 none, .registerDirectory "/lib"]).step (.ask "a")).outcome =
        .unit "a" (.error (.unitNotFound ⟨⟨0, 1⟩, Loader.missOf "a" {}⟩)) := by
  obtain ⟨hscene, hlayers⟩ := miss_final_until_cleared
  refine ⟨by cbv, ?_, ?_⟩
  · have hagain := hlayers echoing 0 (.create 0 {} {}) _ "a" false ⟨⟨0, 1⟩, Loader.missOf "a" {}⟩
      rfl rfl (by cbv) (by cbv) rfl rfl [(0, .registerDirectory "/lib")] _ rfl (by cbv) (by cbv) true
    exact congrArg Layers.Step.reply hagain
  · have hagain := hscene ⟨.create 0 {} {}, echoing.volume, [], 0⟩ "a" [.ask "a"] (.answer 0 none)
      ⟨⟨0, 1⟩, Loader.missOf "a" {}⟩ rfl (by cbv) (.waits [] none rfl) (by simp) (by cbv)
      [.registerDirectory "/lib"] (by simp) (by cbv)
    exact congrArg Scene.Step.outcome hagain

end LayeredUnits
