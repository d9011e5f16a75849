import LayeredUnits.Proofs.Scene

/-!
# The lookups that wait

A lookup waits from the happening that begins it to the answer that bears its
number, whatever happens in between. `step_frame` says once what a happening
can do to the lookups that wait and to the files; the rest follows from it.

* `waiting_or_begun` — a lookup that waits afterwards has waited before, or it has
  begun just now.
* `waiting_origin` — so each that waits has begun at some point of the history.
* `waits_next`, `waits_until` — a lookup waits until it is answered.
* `unit_outcome` — only the two ends of a lookup reply with a unit.
-/

namespace LayeredUnits

/-- Whether a happening is the answer that a lookup with this number waits for. -/
def Errand.EndedBy (number : Nat) (one : Happening) : Errand → Prop
  | .unit _ => ∃ found, one = .answer number found
  | .resource .. => ∃ found, one = .locate number found
  | .resources .. => ∃ found, one = .locateAll number found

namespace Scene

/-- What a lookup that begins now has to do, if it has to wait for the host. -/
def errand? (scene : Scene) : Happening → Option Errand
  | .ask name => some (.unit (scene.ticket name))
  | .seek name => some (.resource (ResourceName.normalize name)
      (scene.loader.sources.locate? scene.volume (ResourceName.normalize name)))
  | .seekAll name => some (.resources (ResourceName.normalize name)
      (scene.loader.sources.locations scene.volume (ResourceName.normalize name)))
  | _ => none

/-- What a happening can make of the lookups that wait, and of their number. -/
inductive Turnover (scene : Scene) : Happening → List (Nat × Errand) → Nat → Prop
  | same {one : Happening} : Turnover scene one scene.waiting scene.begun
  | began {one : Happening} {errand : Errand} (hbegins : scene.errand? one = some errand) :
      Turnover scene one ((scene.begun, errand) :: scene.waiting) (scene.begun + 1)
  | ended {one : Happening} {number : Nat} {errand : Errand}
      (hwaiting : scene.waiting.lookup number = some errand) (hends : errand.EndedBy number one) :
      Turnover scene one (scene.dismiss number).waiting scene.begun

/-- What a happening does to the lookups that wait and to the files. -/
structure Frame (scene : Scene) (one : Happening) (later : Scene) : Prop where
  turnover : Turnover scene one later.waiting later.begun
  volume : (∀ volume, one ≠ .change volume) → later.volume = scene.volume

theorem frame_ask (scene : Scene) (name : String) :
    Frame scene (.ask name) (scene.next (.ask name)) := by
  unfold next
  cases hunit : scene.loader.memo.units.get? name with
  | some unit =>
    rw [ask_of_bound hunit]
    exact ⟨.same, fun _ => rfl⟩
  | none =>
    cases hmiss : scene.recalledMiss name with
    | some miss =>
      rw [ask_of_missed hunit hmiss]
      exact ⟨.same, fun _ => rfl⟩
    | none =>
      rw [ask_of_unknown hunit hmiss]
      exact ⟨.began rfl, fun _ => rfl⟩

theorem step_frame (scene : Scene) (one : Happening) : Frame scene one (scene.next one) := by
  cases one with
  | ask name => exact frame_ask scene name
  | answer number found =>
    -- An end takes its lookup from those that wait, if it is among them.
    show Frame scene _ (scene.answer number found).scene
    unfold answer
    split
    · next hwaiting => exact ⟨.ended hwaiting ⟨found, rfl⟩, fun _ => rfl⟩
    · exact ⟨.same, fun _ => rfl⟩
  | seek name =>
    -- A beginning adds the lookup, unless it is answered from the memory.
    show Frame scene _ (scene.seek _).scene
    unfold seek
    split
    · exact ⟨.same, fun _ => rfl⟩
    · exact ⟨.began rfl, fun _ => rfl⟩
  | locate number found =>
    show Frame scene _ (scene.locate number found).scene
    unfold locate
    split
    · next hwaiting => exact ⟨.ended hwaiting ⟨found, rfl⟩, fun _ => rfl⟩
    · exact ⟨.same, fun _ => rfl⟩
  | seekAll name =>
    show Frame scene _ (scene.seekAll _).scene
    unfold seekAll
    split
    · exact ⟨.same, fun _ => rfl⟩
    · exact ⟨.began rfl, fun _ => rfl⟩
  | locateAll number found =>
    show Frame scene _ (scene.locateAll number found).scene
    unfold locateAll
    split
    · next hwaiting => exact ⟨.ended hwaiting ⟨found, rfl⟩, fun _ => rfl⟩
    · exact ⟨.same, fun _ => rfl⟩
  | change volume => exact ⟨.same, fun hone => absurd rfl (hone volume)⟩
  | _ => exact ⟨.same, fun _ => rfl⟩

/-- A lookup that waits has waited before, or it has begun just now. -/
theorem waiting_or_begun {scene : Scene} {one : Happening} {number : Nat} {errand : Errand}
    (h : (number, errand) ∈ (scene.next one).waiting) :
    (number, errand) ∈ scene.waiting ∨ (number = scene.begun ∧
      scene.errand? one = some errand ∧ (scene.next one).begun = number + 1) := by
  have hturnover := (step_frame scene one).turnover
  generalize (scene.next one).waiting = waiting, (scene.next one).begun = begun at h hturnover ⊢
  cases hturnover with
  | same => exact .inl h
  | began hbegins =>
    rcases List.mem_cons.mp h with heq | h
    · cases heq
      exact .inr ⟨rfl, hbegins, rfl⟩
    · exact .inl h
  | ended => exact .inl (List.mem_of_mem_eraseP h)

/-- A ticket that waits has waited before, or it has been given just now. -/
theorem waiting_next {scene : Scene} {one : Happening} {number : Nat} {ticket : Ticket}
    (h : (number, .unit ticket) ∈ (scene.next one).waiting) :
    (number, .unit ticket) ∈ scene.waiting ∨
      (one = .ask ticket.name ∧ number = scene.begun ∧ ticket = scene.ticket ticket.name) := by
  rcases waiting_or_begun h with hwaited | ⟨hnumber, hbegins, -⟩
  · exact .inl hwaited
  · refine .inr ?_
    cases one with
    | ask name =>
      cases hbegins
      exact ⟨rfl, hnumber, rfl⟩
    | _ => cases hbegins

/-- The lookup with this number began with `one`, after `before`. -/
structure BeganAt (start : Scene) (number : Nat) (errand : Errand) (before : List Happening)
    (one : Happening) : Prop where
  numbered : number = (start.after before).begun
  begins : (start.after before).errand? one = some errand
  counted : (start.after (before ++ [one])).begun = number + 1

/-- Where a lookup that waits has begun, if it has not waited from the start. -/
theorem waiting_origin {start : Scene} {history : List Happening} {number : Nat} {errand : Errand}
    (h : (number, errand) ∈ (start.after history).waiting) :
    (number, errand) ∈ start.waiting ∨ ∃ before one during,
      history = before ++ one :: during ∧ BeganAt start number errand before one := by
  induction history generalizing start with
  | nil => exact .inl h
  | cons one rest ih =>
    rcases ih h with hwaited | ⟨before, other, during, rfl, hbegan⟩
    · rcases waiting_or_begun hwaited with hwaited | ⟨hnumber, hbegins, hcounted⟩
      · exact .inl hwaited
      · exact .inr ⟨[], one, rest, rfl, hnumber, hbegins, hcounted⟩
    · exact .inr ⟨one :: before, other, during, rfl, hbegan.numbered, hbegan.begins, hbegan.counted⟩

theorem begun_le_next (scene : Scene) (one : Happening) : scene.begun ≤ (scene.next one).begun := by
  have hturnover := (step_frame scene one).turnover
  generalize (scene.next one).waiting = waiting, (scene.next one).begun = begun at hturnover ⊢
  cases hturnover with
  | same => exact Nat.le_refl _
  | began => exact Nat.le_succ _
  | ended => exact Nat.le_refl _

theorem begun_le_after (scene : Scene) (history : List Happening) :
    scene.begun ≤ (scene.after history).begun := by
  induction history generalizing scene with
  | nil => exact Nat.le_refl _
  | cons one rest ih => exact Nat.le_trans (begun_le_next scene one) (ih _)

/-- A lookup with a number that has been given waits later only if it waits now. -/
theorem waited_before {scene : Scene} {number : Nat} {errand : Errand} (history : List Happening)
    (hbegun : number < scene.begun) (h : (number, errand) ∈ (scene.after history).waiting) :
    (number, errand) ∈ scene.waiting := by
  induction history generalizing scene with
  | nil => exact h
  | cons one rest ih =>
    have hnext := ih (Nat.lt_of_lt_of_le hbegun (begun_le_next scene one)) h
    rcases waiting_or_begun hnext with hwaited | ⟨hnumber, -⟩
    · exact hwaited
    · exact absurd hnumber (Nat.ne_of_lt hbegun)

/-! ## Until the answer -/

theorem mem_of_lookup {scene : Scene} {number : Nat} {errand : Errand}
    (h : scene.waiting.lookup number = some errand) : (number, errand) ∈ scene.waiting := by
  obtain ⟨before, behind, hwaiting, -⟩ := List.lookup_eq_some_iff.mp h
  rw [hwaiting]
  exact List.mem_append_right before List.mem_cons_self

/-- The end of one lookup leaves the others waiting. -/
theorem lookup_dismiss_of_ne (scene : Scene) {number other : Nat} (h : number ≠ other) :
    (scene.dismiss other).waiting.lookup number = scene.waiting.lookup number := by
  unfold dismiss
  dsimp only
  induction scene.waiting with
  | nil => rfl
  | cons entry rest ih =>
    obtain ⟨key, errand⟩ := entry
    by_cases hkey : key = other
    · subst hkey
      have hne : (number == key) = false := beq_eq_false_iff_ne.mpr h
      simp [List.lookup_cons, hne]
    · have hne : (key == other) = false := beq_eq_false_iff_ne.mpr hkey
      simp [hne, List.lookup_cons, ih]

/-- A lookup waits until it is answered. Nothing else that happens takes it away. -/
theorem waits_next {scene : Scene} {one : Happening} {number : Nat} {errand : Errand}
    (hwaiting : scene.waiting.lookup number = some errand) (hbegun : number < scene.begun)
    (hone : ¬ errand.EndedBy number one) :
    (scene.next one).waiting.lookup number = some errand ∧ number < (scene.next one).begun := by
  -- New lookups get higher numbers, so they do not hide this one.
  have hnew : ∀ other, ((scene.begun, other) :: scene.waiting).lookup number = some errand := by
    intro other
    rw [List.lookup_cons, beq_eq_false_iff_ne.mpr (Nat.ne_of_lt hbegun)]
    exact hwaiting
  have hturnover := (step_frame scene one).turnover
  generalize (scene.next one).waiting = waiting, (scene.next one).begun = begun at hturnover ⊢
  cases hturnover with
  | same => exact ⟨hwaiting, hbegun⟩
  | began => exact ⟨hnew _, Nat.lt_succ_of_lt hbegun⟩
  | @ended other ending hother hends =>
    have hne : number ≠ other := by
      rintro rfl
      obtain rfl : errand = ending := Option.some.inj (hwaiting.symm.trans hother)
      exact hone hends
    exact ⟨(lookup_dismiss_of_ne scene hne).trans hwaiting, hbegun⟩

/-- It waits through any history that does not answer it. -/
theorem waits_until {scene : Scene} {number : Nat} {errand : Errand} (history : List Happening)
    (hwaiting : scene.waiting.lookup number = some errand) (hbegun : number < scene.begun)
    (hopen : ∀ one ∈ history, ¬ errand.EndedBy number one) :
    (scene.after history).waiting.lookup number = some errand := by
  induction history generalizing scene with
  | nil => exact hwaiting
  | cons one rest ih =>
    obtain ⟨hwaiting, hbegun⟩ := waits_next hwaiting hbegun (hopen one List.mem_cons_self)
    exact ih hwaiting hbegun fun other hmem => hopen other (List.mem_cons_of_mem one hmem)

/-- A ticket is answered with a unit or with nothing. Until then it waits, with all that is written
on it. -/
theorem waiting_until {scene : Scene} {number : Nat} {ticket : Ticket} (history : List Happening)
    (hwaiting : scene.waiting.lookup number = some (.unit ticket)) (hbegun : number < scene.begun)
    (hopen : ∀ found, .answer number found ∉ history) :
    (scene.after history).waiting.lookup number = some (.unit ticket) := by
  refine waits_until history hwaiting hbegun ?_
  rintro one hmem ⟨found, rfl⟩
  exact hopen found hmem

/-- Only a lookup of a unit replies with a unit, when it begins or when it ends. -/
theorem unit_outcome {scene : Scene} {one : Happening} {name : String}
    {result : Except Fault (Shared CodeUnit)} (h : (scene.step one).outcome = .unit name result) :
    one = .ask name ∨ ∃ number ticket found, one = .answer number found ∧
      scene.waiting.lookup number = some (.unit ticket) ∧ ticket.name = name := by
  cases one with
  | ask asked =>
    change (scene.ask asked).outcome = _ at h
    unfold ask at h
    split at h <;> cases h
    exact .inl rfl
  | answer number found =>
    change (scene.answer number found).outcome = _ at h
    unfold answer at h
    split at h
    · next ticket hwaiting =>
      refine .inr ⟨number, ticket, found, rfl, hwaiting, ?_⟩
      cases h
      rfl
    · cases h
  | seek asked =>
    -- Lookups of resources have outcomes of another kind.
    change (scene.seek _).outcome = _ at h
    unfold seek at h
    split at h <;> cases h
  | locate number found =>
    change (scene.locate number found).outcome = _ at h
    unfold locate at h
    split at h <;> cases h
  | seekAll asked =>
    change (scene.seekAll _).outcome = _ at h
    unfold seekAll at h
    split at h <;> cases h
  | locateAll number found =>
    change (scene.locateAll number found).outcome = _ at h
    unfold locateAll at h
    split at h <;> cases h
  | _ => cases h

end Scene

end LayeredUnits
