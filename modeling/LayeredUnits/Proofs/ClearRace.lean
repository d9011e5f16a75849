import LayeredUnits.Proofs.Lookup

/-!
# Clears that race failing lookups

`Loader.recordMiss` and `Loader.forgetMisses` are one step each in a `Scene`.
Callers that share a loader may come between the parts of them. A `Race` is
made of those parts. A failing lookup reads the generation, compares it, puts
its record in, compares again, and takes out what it found stored if the
generation has moved on. A clear moves the generation on, and then drops all
misses. Between any two parts anything may happen, to the same name or to
others.

There are moments when an old record is stored: a clear may come between the
first comparison and the insertion. The invariant `Sound` says who is going to
take it out: a clear that has yet to drop, or the very lookup that made it,
which has not compared again.

* `recordMiss_uninterrupted`, `forgetMisses_uninterrupted` — without anybody in
  between, the parts make up the operations of the loader.
* `sound_next` — every move keeps the invariant.
* `clear_wins` — when nobody is in the middle of anything, every stored record is
  of the current generation.
-/

namespace LayeredUnits

/-- How far a failing lookup has come. Between two stages other threads may do anything; a stage
itself is a single step on the memory. -/
inductive Stage where
  /-- It has read the generation and searches. -/
  | searching
  /-- The generation was the same still, so it is going to put its record in. -/
  | admitted (made : Shared Miss)
  /-- A record is stored, its own or that of another lookup. -/
  | stored (made kept : Shared Miss)
  /-- The generation has moved on, so it is going to take out the record that was stored. -/
  | doubting (made kept : Shared Miss)
  | finished (made reply : Shared Miss)

namespace Stage

/-- The record that the lookup has made, from the moment on at which it has one. -/
def made? : Stage → Option (Shared Miss)
  | searching => none
  | admitted made | stored made _ | doubting made _ | finished made _ => some made

/-- Whether it is between its insertion and the end of its second comparison. -/
def isChecking : Stage → Bool
  | stored .. | doubting .. => true
  | _ => false

end Stage

/-- A failing lookup: the ticket with which it has begun, and how far it has come. -/
structure Attempt where
  ticket : Ticket
  stage : Stage := .searching

/-- The next part of a lookup. What it does depends on the loader as it is then. -/
def Attempt.advance (attempt : Attempt) (loader : Loader) : Loader × Attempt :=
  match attempt.stage with
  | .searching =>
    let made := loader.freshMiss attempt.ticket
    (loader.issue, { attempt with
      stage := if loader.mayRemember attempt.ticket then .admitted made else .finished made made })
  | .admitted made =>
    let name := attempt.ticket.name
    ({ loader with memo := (loader.memo.intern name).rememberMiss name made },
      { attempt with stage := .stored made (loader.memo.keptMiss name made) })
  | .stored made kept =>
    (loader, { attempt with
      stage := if loader.generation = attempt.ticket.generation then .finished made kept
        else .doubting made kept })
  | .doubting made kept =>
    ({ loader with memo := loader.memo.forgetMiss attempt.ticket.name kept },
      { attempt with stage := .finished made kept })
  | .finished .. => (loader, attempt)

/-- A loader that is shared, with the failing lookups so far and the clears that have moved the
generation on and have yet to drop the misses. -/
structure Race where
  loader : Loader
  attempts : List Attempt := []
  clearing : Nat := 0

/-- What may come next: a lookup begins or goes on by one part, or a clear does one of its two
parts. `elsewhere` stands for all that the other operations do meanwhile. -/
inductive Move where
  /-- A lookup reads the generation. -/
  | read (name : String)
  /-- The lookup at this index takes its next part. -/
  | advance (index : Nat)
  /-- A clear moves the generation on. -/
  | bump
  /-- A clear drops all misses. -/
  | drop
  /-- Something else, which leaves the misses and the generation alone. -/
  | elsewhere (other : Loader)

namespace Race

def next (race : Race) : Move → Race
  | .read name =>
    { race with attempts := race.attempts ++
        [⟨⟨name, race.loader.generation, race.loader.sources⟩, .searching⟩] }
  | .advance index =>
    match race.attempts[index]? with
    | none => race
    | some attempt =>
      let (loader, attempt) := attempt.advance race.loader
      { race with loader := loader, attempts := race.attempts.set index attempt }
  | .bump =>
    { race with
      loader := { race.loader with generation := race.loader.generation + 1 }
      clearing := race.clearing + 1 }
  | .drop =>
    match race.clearing with
    | 0 => race
    | clearing + 1 =>
      { race with
        loader := { race.loader with memo := race.loader.memo.forgetMisses }
        clearing := clearing }
  | .elsewhere other =>
    { race with
      loader := { other with
        tag := race.loader.tag
        issued := race.loader.issued + other.issued
        options := race.loader.options
        generation := race.loader.generation
        memo := { other.memo with misses := race.loader.memo.misses } } }

/-- The race after some moves. -/
def after (race : Race) (moves : List Move) : Race := moves.foldl next race

/-- Nobody is in the middle of anything: no clear has yet to drop the misses, and no lookup is
between its insertion and the end of its second comparison. -/
def Quiet (race : Race) : Prop :=
  race.clearing = 0 ∧ ∀ attempt ∈ race.attempts, attempt.stage.isChecking = false

/-! ## Nobody in between -/

/-- A lookup that takes its parts without anybody in between does what `recordMiss` does. -/
theorem recordMiss_uninterrupted (loader : Loader) (ticket : Ticket) :
    after ⟨loader, [⟨ticket, .searching⟩], 0⟩ [.advance 0, .advance 0, .advance 0] =
      ⟨(loader.recordMiss ticket).loader,
        [⟨ticket, .finished (loader.freshMiss ticket) (loader.recordMiss ticket).reply⟩], 0⟩ := by
  rcases Loader.recordMiss_cases loader ticket with
    ⟨hmay, hreply, hloader⟩ | ⟨hmay, hreply, hloader⟩
  · -- The record is put in, and the second comparison finds the same generation.
    have hsame : loader.generation = ticket.generation := (Loader.mayRemember_iff.mp hmay).2.2
    rw [hreply, hloader]
    simp [after, next, Attempt.advance, hmay, hsame, Loader.issue]
  · -- The first comparison ends the lookup already.
    rw [hreply, hloader]
    simp [after, next, Attempt.advance, hmay]

/-- A clear without anybody in between does what `forgetMisses` does. -/
theorem forgetMisses_uninterrupted (race : Race) :
    race.after [.bump, .drop] = { race with loader := race.loader.forgetMisses.loader } := rfl

/-! ## Who takes an old record out -/

/-- What the next part of a lookup is, from each stage. Two of the parts write to the memory of
misses: one puts a record in and one takes it out again. -/
theorem advance_cases (attempt : Attempt) (loader : Loader) :
    (attempt.advance loader).2.ticket = attempt.ticket ∧
    ((attempt.stage = .searching ∧ (attempt.advance loader).1 = loader.issue ∧
        (attempt.advance loader).2.stage.made? = some (loader.freshMiss attempt.ticket)) ∨
      (∃ made, attempt.stage = .admitted made ∧
        (attempt.advance loader).1 =
          { loader with
            memo := (loader.memo.intern attempt.ticket.name).rememberMiss attempt.ticket.name
              made } ∧
        (attempt.advance loader).2.stage =
          .stored made (loader.memo.keptMiss attempt.ticket.name made)) ∨
      (∃ made kept, attempt.stage = .stored made kept ∧ (attempt.advance loader).1 = loader ∧
        (loader.generation = attempt.ticket.generation ∧
            (attempt.advance loader).2.stage = .finished made kept ∨
          (attempt.advance loader).2.stage = .doubting made kept)) ∨
      (∃ made kept, attempt.stage = .doubting made kept ∧
        (attempt.advance loader).1 =
          { loader with memo := loader.memo.forgetMiss attempt.ticket.name kept } ∧
        (attempt.advance loader).2.stage = .finished made kept) ∨
      (∃ made reply, attempt.stage = .finished made reply ∧
        attempt.advance loader = (loader, attempt))) := by
  obtain ⟨ticket, stage⟩ := attempt
  cases stage with
  | searching =>
    refine ⟨rfl, .inl ⟨rfl, rfl, ?_⟩⟩
    dsimp only [Attempt.advance]
    split <;> rfl
  | admitted made => exact ⟨rfl, .inr (.inl ⟨made, rfl, rfl, rfl⟩)⟩
  | stored made kept =>
    -- The second comparison: the same generation ends the lookup, and another one makes it doubt.
    refine ⟨rfl, .inr (.inr (.inl ⟨made, kept, rfl, rfl, ?_⟩))⟩
    dsimp only [Attempt.advance]
    split
    · next hsame => exact .inl ⟨hsame, rfl⟩
    · exact .inr rfl
  | doubting made kept =>
    exact ⟨rfl, .inr (.inr (.inr (.inl ⟨made, kept, rfl, rfl, rfl⟩)))⟩
  | finished made reply => exact ⟨rfl, .inr (.inr (.inr (.inr ⟨made, reply, rfl, rfl⟩)))⟩

/-- The lookup has found its own record stored and has not compared again, or it is going to take
it out. -/
def Holds (stage : Stage) (miss : Shared Miss) : Prop :=
  stage = .stored miss miss ∨ stage = .doubting miss miss

/-- The lookup that made a stored record, and why the record is not out of date for good: it is of
the current generation, or a clear is going to drop it, or the lookup itself is going to take it
out. -/
structure Explains (race : Race) (attempt : Attempt) (name : String) (miss : Shared Miss) :
    Prop where
  made : attempt.stage.made? = some miss
  name_eq : attempt.ticket.name = name
  settled : attempt.ticket.generation = race.loader.generation ∨ 0 < race.clearing ∨
    Holds attempt.stage miss

/-- The invariant of a race: every miss that is remembered is explained by a lookup, and each lookup
has a record of its own. -/
structure Sound (race : Race) : Prop where
  explained : ∀ name miss, race.loader.memo.misses.get? name = some miss →
    ∃ (index : Nat) (attempt : Attempt), race.attempts[index]? = some attempt ∧
      Explains race attempt name miss
  /-- The records that lookups have made are instances that the loader has issued, -/
  issued : ∀ (index : Nat) (attempt : Attempt) made, race.attempts[index]? = some attempt →
    attempt.stage.made? = some made →
      made.token.maker = race.loader.tag ∧ made.token.serial < race.loader.issued
  /-- and no two are the same. -/
  distinct : ∀ (index other : Nat) (attempt attempt' : Attempt) made made',
    race.attempts[index]? = some attempt → race.attempts[other]? = some attempt' →
      attempt.stage.made? = some made → attempt'.stage.made? = some made' →
        made.token = made'.token → index = other

theorem sound_start {loader : Loader} (hempty : loader.memo.misses = .empty) :
    Sound ⟨loader, [], 0⟩ where
  explained := by
    intro name miss hget
    rw [hempty] at hget
    cases hget
  issued := by
    intro index attempt made hindex
    cases hindex
  distinct := by
    intro index other attempt attempt' made made' hindex
    cases hindex

/-! ## The parts of a lookup keep the invariant -/

/-- A record stays the record of its lookup, whatever becomes of it in the memory. -/
theorem made_advance {attempt : Attempt} {made : Shared Miss} (loader : Loader)
    (h : attempt.stage.made? = some made) :
    (attempt.advance loader).2.stage.made? = some made := by
  rcases (advance_cases attempt loader).2 with
    ⟨hstage, -, -⟩ | ⟨own, hstage, -, hnew⟩ | ⟨own, kept, hstage, -, hnew⟩ |
    ⟨own, kept, hstage, -, hnew⟩ | ⟨own, reply, hstage, hnew⟩
  · rw [hstage] at h
    cases h
  · rw [hstage] at h
    rw [hnew]
    exact h
  · rw [hstage] at h
    rcases hnew with ⟨-, hnew⟩ | hnew <;> rw [hnew] <;> exact h
  · rw [hstage] at h
    rw [hnew]
    exact h
  · rw [hnew]
    exact h

/-- A record of a lookup has been its record before, or the loader has issued it just now. -/
theorem advance_made {attempt : Attempt} {made : Shared Miss} (loader : Loader)
    (h : (attempt.advance loader).2.stage.made? = some made) :
    attempt.stage.made? = some made ∨
      (made = loader.freshMiss attempt.ticket ∧ (attempt.advance loader).1 = loader.issue) := by
  cases hmade : attempt.stage.made? with
  | some own => exact .inl ((made_advance loader hmade).symm.trans h)
  | none =>
    rcases (advance_cases attempt loader).2 with
      ⟨-, hloader, hnew⟩ | ⟨own, hstage, -⟩ | ⟨own, kept, hstage, -⟩ | ⟨own, kept, hstage, -⟩ |
      ⟨own, reply, hstage, -⟩
    · exact .inr ⟨Option.some.inj (h.symm.trans hnew), hloader⟩
    all_goals
      rw [hstage] at hmade
      cases hmade

/-- The parts of a lookup leave the generation alone and never take an instance back. -/
theorem advance_loader (attempt : Attempt) (loader : Loader) :
    (attempt.advance loader).1.generation = loader.generation ∧
      (attempt.advance loader).1.tag = loader.tag ∧
      loader.issued ≤ (attempt.advance loader).1.issued := by
  rcases (advance_cases attempt loader).2 with
    ⟨-, hloader, -⟩ | ⟨own, -, hloader, -⟩ | ⟨own, kept, -, hloader, -⟩ |
    ⟨own, kept, -, hloader, -⟩ | ⟨own, reply, -, hloader⟩ <;> rw [hloader]
  · exact ⟨rfl, rfl, Nat.le_succ _⟩
  all_goals exact ⟨rfl, rfl, Nat.le_refl _⟩

/-- The race after the next part of a lookup. -/
def advanced (race : Race) (index : Nat) (attempt : Attempt) : Race :=
  { race with
    loader := (attempt.advance race.loader).1
    attempts := race.attempts.set index (attempt.advance race.loader).2 }

section

variable {race : Race} {index : Nat} {attempt : Attempt}

/-- The records after the next part of a lookup: its own if it has put it in, and otherwise
records that were stored before, without the one that it has taken out. -/
theorem stored_advanced {name : String} {miss : Shared Miss}
    (hget : (race.advanced index attempt).loader.memo.misses.get? name = some miss) :
    (attempt.ticket.name = name ∧ (attempt.advance race.loader).2.stage = .stored miss miss) ∨
    (race.loader.memo.misses.get? name = some miss ∧
      (attempt.ticket.name = name → attempt.stage ≠ .doubting miss miss)) := by
  unfold advanced at hget
  dsimp only at hget
  rcases (advance_cases attempt race.loader).2 with
    ⟨hstage, hloader, -⟩ | ⟨made, hstage, hloader, hnew⟩ | ⟨made, kept, hstage, hloader, -⟩ |
    ⟨made, kept, hstage, hloader, -⟩ | ⟨made, reply, hstage, hloader⟩ <;>
    rw [hloader] at hget <;> rw [hstage]
  · exact .inr ⟨hget, by simp⟩
  · rw [Memo.misses_rememberMiss, Memo.misses_intern, Table.get?_insertNew] at hget
    split at hget
    · next hname =>
      subst hname
      cases hheld : race.loader.memo.misses.get? attempt.ticket.name with
      | some held =>
        -- The record of another lookup is there, and stays.
        rw [Table.kept_of_some _ hheld] at hget
        exact .inr ⟨hget, by simp⟩
      | none =>
        unfold Memo.keptMiss at hnew
        rw [Table.kept_of_none _ hheld] at hget hnew
        cases hget
        exact .inl ⟨rfl, hnew⟩
    · exact .inr ⟨hget, by simp⟩
  · exact .inr ⟨hget, by simp⟩
  · rw [Memo.misses_forgetMiss] at hget
    refine .inr ?_
    split at hget
    · rw [Table.get?_erase] at hget
      split at hget
      · cases hget
      · next hname => exact ⟨hget, fun heq => absurd heq.symm hname⟩
    · next hother =>
      -- Nothing was taken out, so the lookup did not hold what is stored.
      refine ⟨hget, ?_⟩
      rintro rfl hdoubting
      cases hdoubting
      exact hother (by simp [hget, Shared.same])
  · exact .inr ⟨hget, by simp⟩

/-- The lookup that made a stored record explains it after its own next part. -/
theorem Explains.advanced {name : String} {miss : Shared Miss}
    (h : Explains race attempt name miss)
    (hkept : attempt.ticket.name = name → attempt.stage ≠ .doubting miss miss) :
    Explains (race.advanced index attempt) (attempt.advance race.loader).2 name miss := by
  obtain ⟨hticket, hcases⟩ := advance_cases attempt race.loader
  obtain ⟨hgeneration, -, -⟩ := advance_loader attempt race.loader
  refine ⟨made_advance race.loader h.made, by rw [hticket]; exact h.name_eq, ?_⟩
  rw [hticket]
  show _ = (attempt.advance race.loader).1.generation ∨ _
  rw [hgeneration]
  rcases h.settled with hsame | hclearing | hstored | hdoubting
  · exact .inl hsame
  · exact .inr (.inl hclearing)
  · -- The second comparison: either the generation is the same, or the lookup goes on to doubt.
    rw [hstored] at hcases
    rcases hcases with ⟨hstage, -⟩ | ⟨made, hstage, -⟩ | ⟨made, kept, hstage, -, hnew⟩ |
      ⟨made, kept, hstage, -⟩ | ⟨made, reply, hstage, -⟩ <;> cases hstage
    rcases hnew with ⟨hsame, -⟩ | hnew
    · exact .inl hsame.symm
    · exact .inr (.inr (.inr hnew))
  · exact absurd hdoubting (hkept h.name_eq)

variable (hindex : race.attempts[index]? = some attempt)

include hindex

theorem attempts_advanced (other : Nat) :
    (race.advanced index attempt).attempts[other]? =
      if index = other then some (attempt.advance race.loader).2 else race.attempts[other]? := by
  have hlt : index < race.attempts.length := (List.getElem?_eq_some_iff.mp hindex).1
  unfold advanced
  rw [List.getElem?_set, if_pos hlt]

theorem explained_advanced (h : Sound race) {name : String} {miss : Shared Miss}
    (hget : (race.advanced index attempt).loader.memo.misses.get? name = some miss) :
    ∃ (other : Nat) (creator : Attempt),
      (race.advanced index attempt).attempts[other]? = some creator ∧
        Explains (race.advanced index attempt) creator name miss := by
  rcases stored_advanced hget with ⟨hname, hstored⟩ | ⟨hold, hkept⟩
  · refine ⟨index, _, (attempts_advanced hindex index).trans (if_pos rfl), ?_⟩
    refine ⟨by rw [hstored]; rfl, ?_, .inr (.inr (.inl hstored))⟩
    rw [(advance_cases attempt race.loader).1]
    exact hname
  · -- The record was stored before. The lookup that made it may be this one or another one.
    obtain ⟨other, creator, hother, hexplains⟩ := h.explained name miss hold
    by_cases heq : index = other
    · subst heq
      cases Option.some.inj (hindex.symm.trans hother)
      exact ⟨index, _, (attempts_advanced hindex index).trans (if_pos rfl),
        hexplains.advanced hkept⟩
    · refine ⟨other, creator, ?_, hexplains.made, hexplains.name_eq, ?_⟩
      · rw [attempts_advanced hindex, if_neg heq]
        exact hother
      · show _ = (attempt.advance race.loader).1.generation ∨ _
        rw [(advance_loader attempt race.loader).1]
        exact hexplains.settled

theorem issued_advanced (h : Sound race) {other : Nat} {creator : Attempt} {made : Shared Miss}
    (hother : (race.advanced index attempt).attempts[other]? = some creator)
    (hmade : creator.stage.made? = some made) :
    made.token.maker = (race.advanced index attempt).loader.tag ∧
      made.token.serial < (race.advanced index attempt).loader.issued := by
  obtain ⟨-, htag, hissued⟩ := advance_loader attempt race.loader
  have hold : made.token.maker = race.loader.tag ∧ made.token.serial < race.loader.issued →
      made.token.maker = (race.advanced index attempt).loader.tag ∧
        made.token.serial < (race.advanced index attempt).loader.issued :=
    fun ⟨hmaker, hserial⟩ => ⟨hmaker.trans htag.symm, Nat.lt_of_lt_of_le hserial hissued⟩
  rw [attempts_advanced hindex] at hother
  split at hother
  · cases hother
    rcases advance_made race.loader hmade with hmade | ⟨rfl, hloader⟩
    · exact hold (h.issued index attempt made hindex hmade)
    · unfold Race.advanced
      rw [hloader]
      exact ⟨rfl, Nat.lt_succ_self _⟩
  · exact hold (h.issued other creator made hother hmade)

/-- The record that a lookup makes now differs from all others, since those have been issued
before. -/
theorem distinct_advanced (h : Sound race) {other : Nat} {creator : Attempt}
    {made made' : Shared Miss} (hne : index ≠ other)
    (hother : race.attempts[other]? = some creator)
    (hmade : (attempt.advance race.loader).2.stage.made? = some made)
    (hmade' : creator.stage.made? = some made') : made.token ≠ made'.token := by
  intro heq
  rcases advance_made race.loader hmade with hmade | ⟨rfl, -⟩
  · exact hne (h.distinct index other attempt creator made made' hindex hother hmade hmade' heq)
  · have hserial := (h.issued other creator made' hother hmade').2
    rw [← heq] at hserial
    exact Nat.lt_irrefl _ hserial

theorem sound_advanced (h : Sound race) : Sound (race.advanced index attempt) where
  explained := by
    intro name miss hget
    exact explained_advanced hindex h hget
  issued := by
    intro other creator made hother hmade
    exact issued_advanced hindex h hother hmade
  distinct := by
    intro first second creator creator' made made' hfirst hsecond hmade hmade' heq
    rw [attempts_advanced hindex] at hfirst hsecond
    split at hfirst <;> split at hsecond
    · next h₁ h₂ => exact h₁.symm.trans h₂
    · next h₁ h₂ =>
      cases hfirst
      subst h₁
      exact absurd heq (distinct_advanced hindex h h₂ hsecond hmade hmade')
    · next h₁ h₂ =>
      cases hsecond
      subst h₂
      exact absurd heq.symm (distinct_advanced hindex h h₁ hfirst hmade' hmade)
    · exact h.distinct first second creator creator' made made' hfirst hsecond hmade hmade' heq

end

/-! ## Every move keeps the invariant -/

theorem sound_read {race : Race} (h : Sound race) (name : String) :
    Sound (race.next (.read name)) := by
  have hold : ∀ (index : Nat) (attempt : Attempt) made,
      (race.next (.read name)).attempts[index]? = some attempt →
        attempt.stage.made? = some made → race.attempts[index]? = some attempt := by
    intro index attempt made hindex hmade
    change (race.attempts ++ [_])[index]? = some attempt at hindex
    rw [List.getElem?_append] at hindex
    split at hindex
    · exact hindex
    · -- The new lookup has made no record.
      obtain rfl := List.mem_singleton.mp (List.mem_of_getElem? hindex)
      cases hmade
  refine ⟨?_, ?_, ?_⟩
  · intro name miss hget
    obtain ⟨index, attempt, hindex, hmade, hname, hsettled⟩ := h.explained name miss hget
    have hlt := (List.getElem?_eq_some_iff.mp hindex).1
    exact ⟨index, attempt, (List.getElem?_append_left hlt).trans hindex, hmade, hname, hsettled⟩
  · intro index attempt made hindex hmade
    exact h.issued index attempt made (hold index attempt made hindex hmade) hmade
  · intro index other attempt attempt' made made' hindex hother hmade hmade' heq
    exact h.distinct index other attempt attempt' made made' (hold index attempt made hindex hmade)
      (hold other attempt' made' hother hmade') hmade hmade' heq

theorem sound_next {race : Race} (h : Sound race) (move : Move) : Sound (race.next move) := by
  cases move with
  | read name => exact sound_read h name
  | advance index =>
    unfold next
    dsimp only
    split
    · exact h
    · next attempt hindex => exact sound_advanced hindex h
  | bump =>
    -- Every record may be out of date now, but the clear has yet to drop them.
    refine ⟨?_, h.issued, h.distinct⟩
    intro name miss hget
    obtain ⟨index, attempt, hindex, hmade, hname, -⟩ := h.explained name miss hget
    exact ⟨index, attempt, hindex, hmade, hname, .inr (.inl (Nat.succ_pos _))⟩
  | drop =>
    unfold next
    dsimp only
    split
    · exact h
    · refine ⟨?_, h.issued, h.distinct⟩
      intro name miss hget
      cases hget
  | elsewhere other =>
    refine ⟨?_, ?_, h.distinct⟩
    · intro name miss hget
      obtain ⟨index, attempt, hindex, hmade, hname, hsettled⟩ := h.explained name miss hget
      exact ⟨index, attempt, hindex, hmade, hname, hsettled⟩
    · intro index attempt made hindex hmade
      obtain ⟨hmaker, hserial⟩ := h.issued index attempt made hindex hmade
      exact ⟨hmaker, Nat.lt_add_right _ hserial⟩

theorem sound_after {race : Race} (h : Sound race) (moves : List Move) :
    Sound (race.after moves) := by
  induction moves generalizing race with
  | nil => exact h
  | cons move rest ih => exact ih (sound_next h move)

/-- Every stored record has been made by one lookup, under its name, and the generation that this
lookup has read is the current one. -/
def Current (race : Race) : Prop :=
  ∀ name miss, race.loader.memo.misses.get? name = some miss →
    ∃ (index : Nat) (attempt : Attempt), race.attempts[index]? = some attempt ∧
      attempt.stage.made? = some miss ∧ attempt.ticket.name = name ∧
      attempt.ticket.generation = race.loader.generation ∧
      ∀ (other : Nat) (attempt' : Attempt) made, race.attempts[other]? = some attempt' →
        attempt'.stage.made? = some made → made.same miss = true → other = index

/-- However lookups and clears come between each other: when nobody is in the middle of anything,
every stored record is of the current generation. A clear that races an insertion wins. -/
theorem clear_wins (start : Loader) (hempty : start.memo.misses = .empty) (moves : List Move)
    (hquiet : (after ⟨start, [], 0⟩ moves).Quiet) : (after ⟨start, [], 0⟩ moves).Current := by
  have hsound : Sound (after ⟨start, [], 0⟩ moves) := sound_after (sound_start hempty) moves
  generalize after ⟨start, [], 0⟩ moves = race at hquiet hsound
  intro name miss hget
  obtain ⟨index, attempt, hindex, hmade, hname, hsettled⟩ := hsound.explained name miss hget
  refine ⟨index, attempt, hindex, hmade, hname, ?_, ?_⟩
  · have hidle := hquiet.2 attempt (List.mem_of_getElem? hindex)
    rcases hsettled with hsame | hclearing | hstored | hdoubting
    · exact hsame
    · rw [hquiet.1] at hclearing
      exact absurd hclearing (Nat.lt_irrefl 0)
    · rw [hstored] at hidle
      cases hidle
    · rw [hdoubting] at hidle
      cases hidle
  · intro other attempt' made hother hmade' hsame
    exact hsound.distinct other index attempt' attempt made miss hother hindex hmade' hmade
      (of_decide_eq_true hsame)

/-- A clear comes between the first comparison of a lookup and its insertion. Another lookup has
put its record in by the time the first one takes its own out, and that record stays. -/
def raced : List Move :=
  [.read "a", .advance 0, .bump, .advance 0, .drop, .read "a", .advance 1, .advance 1, .advance 0,
    .advance 0, .advance 1]

theorem clear_wins_raced :
    (after ⟨.create 0 {} {}, [], 0⟩ raced).loader.memo.misses.get? "a" =
      some ⟨⟨0, 2⟩, Loader.missOf "a" {}⟩ ∧
    (after ⟨.create 0 {} {}, [], 0⟩ raced).Current := by
  have hquiet : (after ⟨.create 0 {} {}, [], 0⟩ raced).Quiet := ⟨rfl, by decide⟩
  exact ⟨rfl, clear_wins (.create 0 {} {}) rfl raced hquiet⟩

end Race

end LayeredUnits
