import LayeredUnits.Layers.Basic
import LayeredUnits.Proofs.Lookup
import LayeredUnits.Proofs.Scene

/-!
# Nested calls are histories

A call to stacked loaders runs to its end in one go: `Layers.callWithin`
recurses through the hosts, and a host that is asked for a unit may call the
loader that asks it. A `Scene` has no recursion; there a lookup waits while
other things happen. This module says that the first is an instance of the
second: whatever a call does to the loader at some place, a list of happenings
does to the scene of that loader, and the lookups that wait around the call
are waiting again when it has returned.

* `callWithin_leads` — this for every call, every place and every depth. The
  induction is on the depth, and each operation needs it for the calls it makes.
* `wanted_outcome` — what a call that asks for a unit gets is the outcome of the
  happening that ends its lookup.

So what is proved of every history holds of every call, with hosts that call
back nested in it. Files change in such a history only if a call or a host
changes them: `LeadsTo` keeps count of that, because what is found depends on
the files.
-/

namespace LayeredUnits.Layers

/-- The loader at a place. -/
def loaderAt? (layers : Layers) (place : Nat) : Option Loader :=
  layers.layers[place]?.map (·.loader)

theorem loaderAt?_of_some {layers : Layers} {place : Nat} {layer : Layer}
    (h : layers.layers[place]? = some layer) : layers.loaderAt? place = some layer.loader := by
  simp [loaderAt?, h]

@[simp] theorem loaderAt?_setHost (layers : Layers) (index place : Nat) (host : Host) :
    (layers.setHost index host).loaderAt? place = layers.loaderAt? place := by
  unfold loaderAt? setHost
  rw [List.getElem?_modify, Option.map_eq_map, Option.map_map]
  congr 1
  funext layer
  by_cases h : index = place <;> simp [h]

theorem loaderAt?_setLoader_self {layers : Layers} {index : Nat} {layer : Layer} (loader : Loader)
    (h : layers.layers[index]? = some layer) :
    (layers.setLoader index loader).loaderAt? index = some loader := by
  unfold loaderAt? setLoader
  rw [List.getElem?_modify, h]
  simp

theorem loaderAt?_setLoader_of_ne (layers : Layers) {index place : Nat} (loader : Loader)
    (h : place ≠ index) :
    (layers.setLoader index loader).loaderAt? place = layers.loaderAt? place := by
  unfold loaderAt? setLoader
  rw [List.getElem?_modify]
  simp [Ne.symm h]

@[simp] theorem hostAt_setLoader (layers : Layers) (index place : Nat) (loader : Loader) :
    (layers.setLoader index loader).hostAt place = layers.hostAt place := by
  unfold hostAt setLoader
  rw [List.getElem?_modify]
  cases layers.layers[place]? with
  | none => rfl
  | some layer => by_cases h : index = place <;> simp [h]

theorem hostAt_setHost {layers : Layers} {index : Nat} {old new : Host} (place : Nat)
    (h : layers.hostAt index = old) (hold : old ≠ .none) :
    (layers.setHost index new).hostAt place = if index = place then new else layers.hostAt place := by
  unfold hostAt setHost at *
  rw [List.getElem?_modify]
  by_cases hplace : index = place
  · subst hplace
    cases hlayer : layers.layers[index]? with
    | none =>
      rw [hlayer] at h
      exact absurd h.symm hold
    | some layer => simp
  · cases layers.layers[place]? with
    | none => simp [hplace]
    | some layer => simp [hplace]

/-! ## Hosts that leave the files alone -/

/-- Whether a call changes files. All other calls only look at them. -/
def edits : Call → Bool
  | .edit _ => true
  | _ => false

/-- No host changes files while it is asked. Hosts may still make any other call. -/
def Still (layers : Layers) : Prop :=
  ∀ index embedder, layers.hostAt index = .embedder embedder →
    ∀ habit ∈ embedder.habits, ∀ one ∈ habit.2, edits one = false

/-- The habits of a host stay as they are when it takes a note, so a stack that is still
stays so. -/
theorem Still.setHost {layers : Layers} {index : Nat} {old new : Embedder} (h : layers.Still)
    (hold : layers.hostAt index = .embedder old) (hhabits : new.habits = old.habits) :
    (layers.setHost index (.embedder new)).Still := by
  intro place embedder hhost
  rw [hostAt_setHost place hold (by simp)] at hhost
  split at hhost
  · cases hhost
    rw [hhabits]
    exact h index old hold
  · exact h place embedder hhost

theorem Still.setLoader {layers : Layers} (h : layers.Still) (index : Nat) (loader : Loader) :
    (layers.setLoader index loader).Still := by
  intro place embedder hhost
  rw [hostAt_setLoader] at hhost
  exact h place embedder hhost

theorem Still.currentHabit {layers : Layers} {index : Nat} {embedder : Embedder}
    (h : layers.Still) (hhost : layers.hostAt index = .embedder embedder) :
    ∀ one ∈ embedder.currentHabit, edits one = false := by
  intro one hone
  obtain ⟨habit, hhabit, hone⟩ := List.mem_flatMap.mp hone
  exact h index embedder hhost habit (List.mem_filter.mp hhabit).1 one hone

/-! ## Histories between two states of the layers -/

/-- What happens to the loader at a place from one state of the layers to another is a
history. The lookups that wait before it wait after it, and no others. If `quiet` holds and the
hosts leave the files alone, no file changes on the way. -/
structure LeadsTo (quiet : Prop) (place : Nat) (start finish : Layers) : Prop where
  still : start.Still → finish.Still
  history : ∀ loader, start.loaderAt? place = some loader →
    ∃ loader', finish.loaderAt? place = some loader' ∧
      ∀ waiting begun, ∃ history begun',
        Scene.after ⟨loader, start.volume, waiting, begun⟩ history =
          ⟨loader', finish.volume, waiting, begun'⟩ ∧
        (quiet → start.Still → ∀ volume, .change volume ∉ history)

namespace LeadsTo

variable {quiet : Prop} {place : Nat} {first second third : Layers}

/-- Nothing happens to the loader: its history is the empty one. -/
theorem of_same (hstill : first.Still → second.Still) (hvolume : second.volume = first.volume)
    (hloader : second.loaderAt? place = first.loaderAt? place) :
    LeadsTo quiet place first second := by
  refine ⟨hstill, ?_⟩
  intro loader h
  refine ⟨loader, hloader.trans h, ?_⟩
  intro waiting begun
  exact ⟨[], begun, by rw [Scene.after_nil, hvolume], fun _ _ _ => List.not_mem_nil⟩

theorem refl (layers : Layers) : LeadsTo quiet place layers layers := of_same id rfl rfl

theorem trans (h₁ : LeadsTo quiet place first second) (h₂ : LeadsTo quiet place second third) :
    LeadsTo quiet place first third := by
  refine ⟨fun hstill => h₂.still (h₁.still hstill), ?_⟩
  intro loader h
  obtain ⟨middle, hmiddle, hhistory⟩ := h₁.history loader h
  obtain ⟨last, hlast, hmore⟩ := h₂.history middle hmiddle
  refine ⟨last, hlast, ?_⟩
  intro waiting begun
  obtain ⟨history, begun', hafter, hfiles⟩ := hhistory waiting begun
  obtain ⟨more, begun'', hafter', hfiles'⟩ := hmore waiting begun'
  refine ⟨history ++ more, begun'', by rw [Scene.after_append, hafter, hafter'], ?_⟩
  intro hquiet hstill volume hmem
  rcases List.mem_append.mp hmem with hmem | hmem
  · exact hfiles hquiet hstill volume hmem
  · exact hfiles' hquiet (h₁.still hstill) volume hmem

theorem mono {quiet' : Prop} (h : LeadsTo quiet place first second)
    (hquiet : quiet' → first.Still → quiet) : LeadsTo quiet' place first second := by
  refine ⟨h.still, ?_⟩
  intro loader hloader
  obtain ⟨loader', hloader', hhistory⟩ := h.history loader hloader
  refine ⟨loader', hloader', ?_⟩
  intro waiting begun
  obtain ⟨history, begun', hafter, hfiles⟩ := hhistory waiting begun
  exact ⟨history, begun', hafter, fun hq hstill => hfiles (hquiet hq hstill) hstill⟩

/-- The other loaders stay where they are, since nothing takes a layer away. -/
theorem layer_of_some {layer : Layer} (h : LeadsTo quiet place first second)
    (hlayer : first.layers[place]? = some layer) : ∃ layer', second.layers[place]? = some layer' := by
  obtain ⟨loader', hloader', -⟩ := h.history _ (loaderAt?_of_some hlayer)
  obtain ⟨layer', hlayer', -⟩ := Option.map_eq_some_iff.mp hloader'
  exact ⟨layer', hlayer'⟩

/-- The host at `index` has taken a note. -/
theorem of_setHost {layers : Layers} {index : Nat} {old new : Embedder}
    (hold : layers.hostAt index = .embedder old) (hhabits : new.habits = old.habits) :
    LeadsTo quiet place layers (layers.setHost index (.embedder new)) :=
  of_same (fun hstill => hstill.setHost hold hhabits) rfl (loaderAt?_setHost ..)

/-- One thing happens to the loader at `index`, without a host. To any other loader
nothing happens. -/
theorem of_next {layers : Layers} {index : Nat} {layer : Layer} {loader : Loader}
    (one : Happening) (hlayer : layers.layers[index]? = some layer)
    (hone : ∀ volume, one ≠ .change volume)
    (hnext : ∀ waiting begun,
      Scene.next ⟨layer.loader, layers.volume, waiting, begun⟩ one =
        ⟨loader, layers.volume, waiting, begun⟩) :
    LeadsTo quiet place layers (layers.setLoader index loader) := by
  by_cases hplace : place = index
  · subst hplace
    refine ⟨fun hstill => hstill.setLoader place loader, ?_⟩
    intro start hstart
    rw [loaderAt?_of_some hlayer] at hstart
    cases hstart
    refine ⟨loader, loaderAt?_setLoader_self loader hlayer, ?_⟩
    intro waiting begun
    refine ⟨[one], begun, hnext waiting begun, ?_⟩
    intro _ _ volume hmem
    exact hone volume (List.mem_singleton.mp hmem).symm
  · exact of_same (fun hstill => hstill.setLoader index loader) rfl
      (loaderAt?_setLoader_of_ne layers loader hplace)

/-- The loader at `index` is put back as it was, which nobody notices. -/
theorem of_setLoader_same {layers : Layers} {index : Nat} {layer : Layer}
    (hlayer : layers.layers[index]? = some layer) :
    LeadsTo quiet place (layers.setLoader index layer.loader) layers := by
  refine of_same ?_ rfl ?_
  · intro hstill other embedder hhost
    exact hstill other embedder ((hostAt_setLoader ..).trans hhost)
  · by_cases hplace : place = index
    · subst hplace
      rw [loaderAt?_of_some hlayer, loaderAt?_setLoader_self _ hlayer]
    · rw [loaderAt?_setLoader_of_ne _ _ hplace]

/-- The history of a lookup that waits for the host: that of the host, with the two ends of the
lookup around it. The lookup is the one that was begun last, so its end finds it in front. -/
theorem around_self {layers answered : Layers} {layer layer' : Layer} {begins ends : Loader}
    (errand : Errand) (first : Happening) (last : Nat → Happening)
    (hlayer : layers.layers[place]? = some layer)
    (hfirst : ∀ waiting begun,
      Scene.next ⟨layer.loader, layers.volume, waiting, begun⟩ first =
        ⟨begins, layers.volume, (begun, errand) :: waiting, begun + 1⟩)
    (hhost : LeadsTo quiet place (layers.setLoader place begins) answered)
    (hlayer' : answered.layers[place]? = some layer')
    (hlast : ∀ number waiting begun,
      Scene.next ⟨layer'.loader, answered.volume, (number, errand) :: waiting, begun⟩
        (last number) = ⟨ends, answered.volume, waiting, begun⟩)
    (waiting : List (Nat × Errand)) (begun : Nat) :
    ∃ during begun',
      Scene.after ⟨layer.loader, layers.volume, waiting, begun⟩ (first :: during) =
        ⟨layer'.loader, answered.volume, (begun, errand) :: waiting, begun'⟩ ∧
      Scene.after ⟨layer.loader, layers.volume, waiting, begun⟩
        (first :: during ++ [last begun]) = ⟨ends, answered.volume, waiting, begun'⟩ ∧
      (quiet → layers.Still → ∀ volume, .change volume ∉ during) := by
  obtain ⟨loader, hloader, hduring⟩ :=
    hhost.history begins (loaderAt?_setLoader_self begins hlayer)
  rw [loaderAt?_of_some hlayer'] at hloader
  cases hloader
  -- The history of the host is the same whatever waits, so it may be taken
  -- with this lookup in front.
  obtain ⟨during, begun', hduring, hfiles⟩ := hduring ((begun, errand) :: waiting) (begun + 1)
  have hbefore : Scene.after ⟨layer.loader, layers.volume, waiting, begun⟩ (first :: during) =
      ⟨layer'.loader, answered.volume, (begun, errand) :: waiting, begun'⟩ := by
    rw [Scene.after_cons, hfirst]
    exact hduring
  refine ⟨during, begun', hbefore, ?_, fun hquiet hstill =>
    hfiles hquiet (hstill.setLoader place begins)⟩
  rw [Scene.after_concat, hbefore]
  exact hlast begun waiting begun'

theorem around {layers answered : Layers} {index : Nat} {layer layer' : Layer}
    {begins ends : Loader} (errand : Errand) (first : Happening) (last : Nat → Happening)
    (hlayer : layers.layers[index]? = some layer)
    (hfirst : ∀ waiting begun,
      Scene.next ⟨layer.loader, layers.volume, waiting, begun⟩ first =
        ⟨begins, layers.volume, (begun, errand) :: waiting, begun + 1⟩)
    (hhost : LeadsTo quiet place (layers.setLoader index begins) answered)
    (hlayer' : answered.layers[index]? = some layer')
    (hlast : ∀ number waiting begun,
      Scene.next ⟨layer'.loader, answered.volume, (number, errand) :: waiting, begun⟩
        (last number) = ⟨ends, answered.volume, waiting, begun⟩)
    (hends : ∀ volume, first ≠ .change volume ∧ ∀ number, last number ≠ .change volume) :
    LeadsTo quiet place layers (answered.setLoader index ends) := by
  by_cases hplace : place = index
  · subst hplace
    refine ⟨fun hstill => (hhost.still (hstill.setLoader place begins)).setLoader place ends, ?_⟩
    intro start hstart
    rw [loaderAt?_of_some hlayer] at hstart
    cases hstart
    refine ⟨ends, loaderAt?_setLoader_self ends hlayer', ?_⟩
    intro waiting begun
    obtain ⟨during, begun', -, hafter, hfiles⟩ :=
      around_self errand first last hlayer hfirst hhost hlayer' hlast waiting begun
    refine ⟨first :: during ++ [last begun], begun', hafter, ?_⟩
    intro hquiet hstill volume hmem
    rcases List.mem_append.mp hmem with hmem | hmem
    · rcases List.mem_cons.mp hmem with heq | hmem
      · exact (hends volume).1 heq.symm
      · exact hfiles hquiet hstill volume hmem
    · exact (hends volume).2 begun (List.mem_singleton.mp hmem).symm
  · -- At other places only what the host does counts.
    have hbefore : LeadsTo quiet place layers (layers.setLoader index begins) :=
      of_same (fun hstill => hstill.setLoader index begins) rfl
        (loaderAt?_setLoader_of_ne layers begins hplace)
    have hafter : LeadsTo quiet place answered (answered.setLoader index ends) :=
      of_same (fun hstill => hstill.setLoader index ends) rfl
        (loaderAt?_setLoader_of_ne answered ends hplace)
    exact (hbefore.trans hhost).trans hafter

end LeadsTo

/-! ## Units -/

theorem step_ask_answered {loader loader' : Loader} {name : String} {volume : Volume}
    {waiting : List (Nat × Errand)} {begun : Nat} {events : List Event}
    {result : Except Fault (Shared CodeUnit)}
    (h : loader.beginLookup name = ⟨.answered result, loader', events⟩) :
    Scene.step ⟨loader, volume, waiting, begun⟩ (.ask name) =
      ⟨.unit name result, ⟨loader', volume, waiting, begun⟩, events⟩ := by
  simp only [Scene.step, Scene.ask, h]
  rfl

theorem step_ask_waiting {loader loader' : Loader} {name : String} {volume : Volume}
    {waiting : List (Nat × Errand)} {begun : Nat} {events : List Event} {ticket : Ticket}
    (h : loader.beginLookup name = ⟨.waiting ticket, loader', events⟩) :
    Scene.step ⟨loader, volume, waiting, begun⟩ (.ask name) =
      ⟨.nothing, ⟨loader', volume, (begun, .unit ticket) :: waiting, begun + 1⟩, events⟩ := by
  simp only [Scene.step, Scene.ask, h]
  rfl

theorem step_answer (loader : Loader) (volume : Volume) (waiting : List (Nat × Errand))
    (begun number : Nat) (ticket : Ticket) (found : Option (Shared CodeUnit)) :
    Scene.step ⟨loader, volume, (number, .unit ticket) :: waiting, begun⟩ (.answer number found) =
      ⟨.unit ticket.name (loader.finishLookup volume ticket found).reply,
        ⟨(loader.finishLookup volume ticket found).loader, volume, waiting, begun⟩,
        (loader.finishLookup volume ticket found).events⟩ := by
  simp [Scene.step, Scene.answer, Scene.settle, Scene.dismiss, Scene.withLoader]

section

variable {call : Caller} {quiet : Prop} (hcall : ∀ place layers index one,
  LeadsTo (edits one = false) place layers (call layers index one).layers)

include hcall

theorem callAll_leads (place index : Nat) (calls : List Call) (layers : Layers) :
    LeadsTo (∀ one ∈ calls, edits one = false) place layers
      (callAll call index calls layers).1 := by
  induction calls generalizing layers with
  | nil => exact .refl layers
  | cons one rest ih =>
    have hfirst := (hcall place layers index one).mono
      fun (h : ∀ other ∈ one :: rest, edits other = false) _ => h one List.mem_cons_self
    exact hfirst.trans ((ih _).mono fun h _ other hmem => h other (List.mem_cons_of_mem one hmem))

theorem askUnit_leads (place index : Nat) (name : String) (layers : Layers) :
    LeadsTo quiet place layers (askUnit call layers index name).layers := by
  unfold askUnit
  split
  · next parent _ =>
    have hparent : LeadsTo quiet place layers (call layers parent (.find name)).layers :=
      (hcall place layers parent (.find name)).mono fun _ _ => rfl
    split <;> rename_i heq <;> rw [heq] at hparent <;> exact hparent
  · next embedder hhost =>
    have hnoted : (layers.setHost index (.embedder (embedder.askUnit name))).hostAt index =
        .embedder (embedder.askUnit name) := by
      rw [hostAt_setHost index hhost (by simp), if_pos rfl]
    have hasked : LeadsTo quiet place layers
        (layers.setHost index (.embedder (embedder.askUnit name))) := .of_setHost hhost rfl
    exact hasked.trans
      ((callAll_leads hcall place index _ _).mono fun _ hstill => hstill.currentHabit hnoted)
  · exact .refl layers

/-- A lookup is answered from what is remembered, or it waits for the host and is finished at
the loader as it is then. -/
theorem lookUp_cases {layers : Layers} {index : Nat} {layer : Layer} (name : String)
    (hlayer : layers.layers[index]? = some layer) :
    (∃ result loader events,
      layer.loader.beginLookup name = ⟨.answered result, loader, events⟩ ∧
      lookUp call layers index name = ⟨result, layers.setLoader index loader, events⟩) ∨
    (∃ ticket loader events answered layer',
      layer.loader.beginLookup name = ⟨.waiting ticket, loader, events⟩ ∧
      answered = askUnit call (layers.setLoader index loader) index name ∧
      answered.layers.layers[index]? = some layer' ∧
      (lookUp call layers index name).reply =
        (layer'.loader.finishLookup answered.layers.volume ticket answered.reply).reply ∧
      (lookUp call layers index name).layers = answered.layers.setLoader index
        (layer'.loader.finishLookup answered.layers.volume ticket answered.reply).loader) := by
  unfold lookUp
  simp only [hlayer]
  cases hbegin : layer.loader.beginLookup name with
  | mk beginning loader events =>
    cases beginning with
    | answered result => exact .inl ⟨result, loader, events, rfl, rfl⟩
    | waiting ticket =>
      -- The host may have called this loader, but it is still there.
      have hleads := @askUnit_leads call True hcall index index name (layers.setLoader index loader)
      obtain ⟨other, hother, -⟩ :=
        hleads.history loader (loaderAt?_setLoader_self loader hlayer)
      obtain ⟨layer', hlayer', -⟩ := Option.map_eq_some_iff.mp hother
      refine .inr ⟨ticket, loader, events, _, layer', rfl, rfl, hlayer', ?_, ?_⟩
      · simp only [hlayer']
        rfl
      · simp only [hlayer']
        rfl

theorem lookUp_leads (place index : Nat) (name : String) (layers : Layers) :
    LeadsTo quiet place layers (lookUp call layers index name).layers := by
  cases hlayer : layers.layers[index]? with
  | none =>
    unfold lookUp
    simp only [hlayer]
    exact .refl layers
  | some layer =>
    rcases lookUp_cases hcall name hlayer with
      ⟨result, loader, events, hbegin, heq⟩ |
      ⟨ticket, loader, events, answered, layer', hbegin, hanswered, hlayer', -, heq⟩
    · rw [heq]
      refine .of_next (.ask name) hlayer (by simp) ?_
      intro waiting begun
      exact congrArg Scene.Step.scene (step_ask_answered hbegin)
    · -- The ticket in front when the host has answered is the one of this lookup.
      have hhost : LeadsTo quiet place (layers.setLoader index loader) answered.layers :=
        hanswered ▸ askUnit_leads hcall place index name _
      rw [heq]
      refine .around (.unit ticket) (.ask name) (.answer · answered.reply) hlayer ?_ hhost
        hlayer' ?_ (by simp)
      · intro waiting begun
        exact congrArg Scene.Step.scene (step_ask_waiting hbegin)
      · intro number waiting begun
        exact congrArg Scene.Step.scene (step_answer ..)

end

/-- What happens while a lookup is made, and what ends it: its beginning, or the answer to it. -/
inductive Lasts (scene : Scene) (name : String) : List Happening → Happening → Prop
  | atOnce : Lasts scene name [] (.ask name)
  | waits (nested : List Happening) (found : Option (Shared CodeUnit))
      (hwaiting : (scene.after (.ask name :: nested)).waiting.lookup scene.begun =
        some (.unit (scene.ticket name))) :
      Lasts scene name (.ask name :: nested) (.answer scene.begun found)

/-- The reply of a lookup is the outcome of the happening that ends it. -/
theorem lookUp_replies {call : Caller} (hcall : ∀ place layers index one,
      LeadsTo (edits one = false) place layers (call layers index one).layers)
    {layers : Layers} {index : Nat} {layer : Layer} (name : String)
    (hlayer : layers.layers[index]? = some layer) (waiting : List (Nat × Errand)) (begun : Nat) :
    let scene : Scene := ⟨layer.loader, layers.volume, waiting, begun⟩
    ∃ loader' begun' during last,
      (lookUp call layers index name).layers.loaderAt? index = some loader' ∧
      Lasts scene name during last ∧
      (layers.Still → ∀ volume, .change volume ∉ during) ∧
      ((scene.after during).step last).outcome =
        .unit name (lookUp call layers index name).reply ∧
      ((scene.after during).step last).scene =
        ⟨loader', (lookUp call layers index name).layers.volume, waiting, begun'⟩ := by
  intro scene
  rcases lookUp_cases hcall name hlayer with
    ⟨result, loader, events, hbegin, heq⟩ |
    ⟨ticket, loader, events, answered, layer', hbegin, hanswered, hlayer', hreply, hlayers⟩
  · -- The lookup is answered at once: one happening, and nothing during it.
    rw [heq]
    refine ⟨loader, begun, [], .ask name, loaderAt?_setLoader_self loader hlayer, .atOnce,
      fun _ _ => List.not_mem_nil, ?_⟩
    rw [Scene.after_nil, step_ask_answered hbegin]
    exact ⟨rfl, rfl⟩
  · -- The host is asked. What it does is a history of its own, and the beginning and the end of the
    -- lookup stand around it.
    have hhost : LeadsTo True index (layers.setLoader index loader) answered.layers :=
      hanswered ▸ askUnit_leads hcall index index name _
    have hlast := fun number waiting begun =>
      congrArg Scene.Step.scene (step_answer layer'.loader answered.layers.volume waiting begun
        number ticket answered.reply)
    obtain ⟨nested, begun', hduring, -, hfiles⟩ :=
      LeadsTo.around_self (.unit ticket) (.ask name) (.answer · answered.reply) hlayer
        (fun _ _ => congrArg Scene.Step.scene (step_ask_waiting hbegin)) hhost hlayer' hlast
        waiting begun
    have hticket : ticket = scene.ticket name := Loader.beginLookup_ticket hbegin
    rw [hreply, hlayers]
    refine ⟨_, begun', .ask name :: nested, .answer begun answered.reply,
      loaderAt?_setLoader_self _ hlayer', .waits nested answered.reply ?_, ?_, ?_⟩
    · rw [hduring, ← hticket]
      exact List.lookup_cons_self
    · -- The beginning of a lookup changes no file, so a change would be one of the host.
      intro hstill volume hmem
      rcases List.mem_cons.mp hmem with heq | hmem
      · cases heq
      · exact hfiles trivial hstill volume hmem
    · rw [hduring, step_answer, hticket]
      exact ⟨rfl, rfl⟩

/-! ## Resources -/

theorem next_seek_waiting {loader : Loader} {name : String} (volume : Volume)
    (waiting : List (Nat × Errand)) (begun : Nat)
    (h : loader.recallResource (ResourceName.normalize name) = none) :
    Scene.next ⟨loader, volume, waiting, begun⟩ (.seek name) =
      ⟨loader, volume, (begun, .resource (ResourceName.normalize name)
        (loader.sources.locate? volume (ResourceName.normalize name))) :: waiting, begun + 1⟩ := by
  simp only [Scene.next, Scene.step, Scene.seek, h]
  rfl

theorem next_locate (loader : Loader) (volume : Volume) (waiting : List (Nat × Errand))
    (begun number : Nat) (name : String) (own found : Option Location) :
    Scene.next ⟨loader, volume, (number, .resource name own) :: waiting, begun⟩
        (.locate number found) =
      ⟨(loader.rememberResource name (own <|> found)).loader, volume, waiting, begun⟩ := by
  simp [Scene.next, Scene.step, Scene.locate, Scene.settle, Scene.dismiss, Scene.withLoader]

theorem next_seekAll_waiting {loader : Loader} {name : String} (volume : Volume)
    (waiting : List (Nat × Errand)) (begun : Nat)
    (h : loader.recallList (ResourceName.normalize name) = none) :
    Scene.next ⟨loader, volume, waiting, begun⟩ (.seekAll name) =
      ⟨loader, volume, (begun, .resources (ResourceName.normalize name)
        (loader.sources.locations volume (ResourceName.normalize name))) :: waiting, begun + 1⟩ := by
  simp only [Scene.next, Scene.step, Scene.seekAll, h]
  rfl

theorem next_locateAll (loader : Loader) (volume : Volume) (waiting : List (Nat × Errand))
    (begun number : Nat) (name : String) (own found : List Location) :
    Scene.next ⟨loader, volume, (number, .resources name own) :: waiting, begun⟩
        (.locateAll number found) =
      ⟨(loader.rememberList name (own ++ found)).loader, volume, waiting, begun⟩ := by
  simp [Scene.next, Scene.step, Scene.locateAll, Scene.settle, Scene.dismiss, Scene.withLoader]

section

variable {call : Caller} {quiet : Prop} (hcall : ∀ place layers index one,
  LeadsTo (edits one = false) place layers (call layers index one).layers)

include hcall

theorem askResource_leads (place index : Nat) (name : String) (layers : Layers) :
    LeadsTo quiet place layers (askResource call layers index name).layers := by
  unfold askResource
  split
  · next parent _ =>
    have hparent : LeadsTo quiet place layers (call layers parent (.resource name)).layers :=
      (hcall place layers parent (.resource name)).mono fun _ _ => rfl
    split <;> rename_i heq <;> rw [heq] at hparent <;> exact hparent
  · next hhost => exact .of_setHost hhost rfl
  · exact .refl layers

theorem askResources_leads (place index : Nat) (name : String) (layers : Layers) :
    LeadsTo quiet place layers (askResources call layers index name).layers := by
  unfold askResources
  split
  · next parent _ =>
    have hparent : LeadsTo quiet place layers (call layers parent (.resources name)).layers :=
      (hcall place layers parent (.resources name)).mono fun _ _ => rfl
    split <;> rename_i heq <;> rw [heq] at hparent <;> exact hparent
  · next hhost => exact .of_setHost hhost rfl
  · exact .refl layers

/-- A location that is not remembered is searched for and remembered. The host is asked only
if the sources have none. -/
theorem findResource_of_unknown {layers : Layers} {index : Nat} {layer : Layer} {name : String}
    (hlayer : layers.layers[index]? = some layer)
    (hrecall : layer.loader.recallResource (ResourceName.normalize name) = none) :
    ∃ answered : Step (Option Location), ∃ layer',
      (∀ place, LeadsTo quiet place layers answered.layers) ∧
      answered.layers.layers[index]? = some layer' ∧
      (layer.loader.sources.locate? layers.volume (ResourceName.normalize name) <|>
        answered.reply) = answered.reply ∧
      (findResource call layers index name).layers = answered.layers.setLoader index
        (layer'.loader.rememberResource (ResourceName.normalize name) answered.reply).loader := by
  unfold findResource
  simp only [hlayer, hrecall]
  cases layer.loader.sources.locate? layers.volume (ResourceName.normalize name) with
  | some location =>
    -- What the sources have wins over any answer, so an answer that repeats it does no harm.
    refine ⟨⟨some location, layers, []⟩, layer, fun place => .refl layers, hlayer, rfl, ?_⟩
    simp only [hlayer]
    rfl
  | none =>
    have hleads : ∀ place, LeadsTo quiet place layers
        (askResource call layers index (ResourceName.normalize name)).layers :=
      fun place => askResource_leads hcall place index _ layers
    obtain ⟨layer', hlayer'⟩ := (hleads index).layer_of_some hlayer
    refine ⟨_, layer', hleads, hlayer', rfl, ?_⟩
    simp only [hlayer']
    rfl

theorem findResource_leads (place index : Nat) (name : String) (layers : Layers) :
    LeadsTo quiet place layers (findResource call layers index name).layers := by
  cases hlayer : layers.layers[index]? with
  | none =>
    unfold findResource
    simp only [hlayer]
    exact .refl layers
  | some layer =>
    cases hrecall : layer.loader.recallResource (ResourceName.normalize name) with
    | some found =>
      unfold findResource
      simp only [hlayer, hrecall]
      exact .refl layers
    | none =>
      obtain ⟨answered, layer', hhost, hlayer', hown, heq⟩ :=
        findResource_of_unknown hcall hlayer hrecall
      have hseek := fun waiting begun =>
        next_seek_waiting layers.volume waiting begun hrecall
      rw [heq]
      refine .around _ (.seek name) (.locate · answered.reply) hlayer hseek
        ((LeadsTo.of_setLoader_same hlayer).trans (hhost place)) hlayer' ?_ (by simp)
      intro number waiting begun
      rw [next_locate, hown]

/-- Locations that are not remembered are searched for, at the host too, and remembered. -/
theorem findResources_of_unknown {layers : Layers} {index : Nat} {layer : Layer} {name : String}
    (hlayer : layers.layers[index]? = some layer)
    (hrecall : layer.loader.recallList (ResourceName.normalize name) = none) :
    ∃ answered : Step (List Location), ∃ layer',
      (∀ place, LeadsTo quiet place layers answered.layers) ∧
      answered.layers.layers[index]? = some layer' ∧
      (findResources call layers index name).layers = answered.layers.setLoader index
        (layer'.loader.rememberList (ResourceName.normalize name)
          (layer.loader.sources.locations layers.volume (ResourceName.normalize name) ++
            answered.reply)).loader := by
  unfold findResources
  simp only [hlayer, hrecall]
  have hleads : ∀ place, LeadsTo quiet place layers
      (askResources call layers index (ResourceName.normalize name)).layers :=
    fun place => askResources_leads hcall place index _ layers
  obtain ⟨layer', hlayer'⟩ := (hleads index).layer_of_some hlayer
  refine ⟨_, layer', hleads, hlayer', ?_⟩
  simp only [hlayer']
  rfl

theorem findResources_leads (place index : Nat) (name : String) (layers : Layers) :
    LeadsTo quiet place layers (findResources call layers index name).layers := by
  cases hlayer : layers.layers[index]? with
  | none =>
    unfold findResources
    simp only [hlayer]
    exact .refl layers
  | some layer =>
    cases hrecall : layer.loader.recallList (ResourceName.normalize name) with
    | some found =>
      unfold findResources
      simp only [hlayer, hrecall]
      exact .refl layers
    | none =>
      obtain ⟨answered, layer', hhost, hlayer', heq⟩ :=
        findResources_of_unknown hcall hlayer hrecall
      have hseek := fun waiting begun =>
        next_seekAll_waiting layers.volume waiting begun hrecall
      rw [heq]
      refine .around _ (.seekAll name) (.locateAll · answered.reply) hlayer hseek
        ((LeadsTo.of_setLoader_same hlayer).trans (hhost place)) hlayer' ?_ (by simp)
      intro number waiting begun
      rw [next_locateAll]

end

/-! ## Calls -/

theorem link_same (place : Nat) (name : String) (fuel index : Nat) (layers : Layers) :
    (layers.link name fuel index).loaderAt? place = layers.loaderAt? place ∧
      (layers.link name fuel index).volume = layers.volume := by
  induction fuel generalizing index with
  | zero => exact ⟨rfl, rfl⟩
  | succ fuel ih =>
    unfold link
    split
    · exact ih _
    · exact ⟨loaderAt?_setHost .., rfl⟩
    · exact ⟨rfl, rfl⟩

theorem link_habits (embedder : Embedder) (name : String) :
    (embedder.link name).habits = embedder.habits := by
  unfold Embedder.link
  split <;> rfl

theorem link_leads {quiet : Prop} (place : Nat) (name : String) (fuel index : Nat)
    (layers : Layers) : LeadsTo quiet place layers (layers.link name fuel index) := by
  induction fuel generalizing index with
  | zero => exact .refl layers
  | succ fuel ih =>
    unfold link
    split
    · exact ih _
    · next embedder hhost => exact .of_setHost hhost (link_habits embedder name)
    · exact .refl layers

theorem openLocation_habits (embedder : Embedder) (location : Location) :
    (embedder.openLocation location).2.habits = embedder.habits := by
  unfold Embedder.openLocation
  split
  · rfl
  · dsimp only
    split <;> rfl

theorem openLocation_leads {quiet : Prop} (place : Nat) (location : Location) (fuel index : Nat)
    (layers : Layers) :
    LeadsTo quiet place layers (layers.openLocation location fuel index).layers := by
  induction fuel generalizing index with
  | zero => exact .refl layers
  | succ fuel ih =>
    unfold openLocation
    split
    · exact .refl layers
    · next layer hlayer =>
      split
      · exact .refl layers
      · split
        · exact .refl layers
        · exact ih _
        · next embedder hhost =>
          have hat : layers.hostAt index = .embedder embedder := by
            unfold hostAt
            rw [hlayer]
            exact hhost
          exact .of_setHost hat (openLocation_habits embedder location)

section

variable {call : Caller} (hcall : ∀ place layers index one,
  LeadsTo (edits one = false) place layers (call layers index one).layers)

include hcall

theorem perform_leads (place : Nat) (layers : Layers) (index : Nat) (one : Call) :
    LeadsTo (edits one = false) place layers (perform call layers index one).layers := by
  cases one with
  | load name wantsLink =>
    -- First the lookup, and then, for a unit that it finds, the links. Those change hosts only.
    have hlookup : LeadsTo (edits (.load name wantsLink) = false) place layers
        (lookUp call layers index name).layers := lookUp_leads hcall place index name layers
    unfold perform
    dsimp only
    generalize lookUp call layers index name = looked at hlookup ⊢
    obtain ⟨reply, layers', events⟩ := looked
    cases reply with
    | error fault => exact hlookup
    | ok unit =>
      cases wantsLink with
      | false => exact hlookup
      | true => exact hlookup.trans (link_leads place unit.value.name _ index layers')
  | find name =>
    have hlookup : LeadsTo (edits (.find name) = false) place layers
        (lookUp call layers index name).layers := lookUp_leads hcall place index name layers
    unfold perform
    dsimp only
    generalize lookUp call layers index name = looked at hlookup ⊢
    obtain ⟨reply, layers', events⟩ := looked
    cases reply <;> exact hlookup
  | preload unit =>
    -- What is done to the loader itself is one happening, if there is such a loader.
    unfold perform
    dsimp only
    split
    · exact .refl layers
    · next layer hlayer => exact .of_next (.preload unit) hlayer (by simp) fun waiting begun => rfl
  | resource name => exact findResource_leads hcall place index name layers
  | resources name => exact findResources_leads hcall place index name layers
  | openResource name =>
    have hfind : LeadsTo (edits (.openResource name) = false) place layers
        (findResource call layers index name).layers :=
      findResource_leads hcall place index name layers
    unfold perform
    dsimp only
    generalize findResource call layers index name = found at hfind ⊢
    obtain ⟨reply, layers', events⟩ := found
    cases reply with
    | none => exact hfind
    | some location => exact hfind.trans (openLocation_leads place location _ index layers')
  | registerDirectory path =>
    unfold perform
    dsimp only
    split
    · exact .refl layers
    · next layer hlayer =>
      exact .of_next (.registerDirectory path) hlayer (by simp) fun waiting begun => rfl
  | registerArchive path =>
    unfold perform
    dsimp only
    split
    · exact .refl layers
    · next layer hlayer =>
      exact .of_next (.registerArchive path) hlayer (by simp) fun waiting begun => rfl
  | registerImage image origin =>
    unfold perform
    dsimp only
    split
    · exact .refl layers
    · next layer hlayer =>
      exact .of_next (.registerImage image origin) hlayer (by simp) fun waiting begun => rfl
  | forgetMisses =>
    unfold perform
    dsimp only
    split
    · exact .refl layers
    · next layer hlayer => exact .of_next .forgetMisses hlayer (by simp) fun waiting begun => rfl
  | edit edit =>
    -- A change of the files is one happening too, the only one that a quiet call cannot make.
    refine ⟨id, ?_⟩
    intro loader hloader
    refine ⟨loader, hloader, ?_⟩
    intro waiting begun
    refine ⟨[.change (edit.apply layers.volume)], begun, rfl, ?_⟩
    intro hquiet
    cases hquiet

end

/-- Whatever a call does to the loader at a place, a history does to its scene. -/
theorem callWithin_leads (depth : Nat) (place : Nat) (layers : Layers) (index : Nat)
    (one : Call) :
    LeadsTo (edits one = false) place layers (callWithin depth layers index one).layers := by
  induction depth generalizing place layers index one with
  | zero => exact .refl layers
  | succ depth ih => exact perform_leads ih place layers index one

/-- The unit that a call asks for. A call that is not about a unit asks for none. -/
def wanted? : Call → Option String
  | .load name _ => some name
  | .find name => some name
  | _ => none

/-- The unit that a call got, in whichever of the two replies it stands. -/
def loaded? : Reply → Option (Shared CodeUnit)
  | .unit (.ok unit) => some unit
  | .found (.ok found) => found
  | _ => none

/-- What asking for a unit does to the loader and gets is what looking it up does and gets. -/
theorem perform_of_wanted {one : Call} {name : String} (call : Caller) (layers : Layers)
    (index place : Nat) (hwanted : wanted? one = some name) :
    (∀ unit, loaded? (perform call layers index one).reply = some unit ↔
        (lookUp call layers index name).reply = .ok unit) ∧
      (perform call layers index one).layers.loaderAt? place =
        (lookUp call layers index name).layers.loaderAt? place ∧
      (perform call layers index one).layers.volume =
        (lookUp call layers index name).layers.volume := by
  cases one with
  | load wanted wantsLink =>
    cases hwanted
    unfold perform
    dsimp only
    generalize lookUp call layers index name = looked
    obtain ⟨reply, layers', events⟩ := looked
    cases reply with
    | error fault => simp [loaded?]
    | ok found =>
      cases wantsLink with
      | false => simp [loaded?]
      | true =>
        -- Links are noted by hosts, so the loader and the files are those of the lookup.
        have hlinked := link_same place found.value.name layers'.layers.length index layers'
        exact ⟨by simp [loaded?], hlinked⟩
  | find wanted =>
    cases hwanted
    unfold perform
    dsimp only
    generalize lookUp call layers index name = looked
    obtain ⟨reply, layers', events⟩ := looked
    cases reply with
    | ok found => simp [loaded?]
    | error fault => cases h : fault.isNotFound <;> simp [h, loaded?]
  | _ => cases hwanted

/-- A load replies with what the lookup replies. Linking changes nothing of it. -/
theorem load_reply (call : Caller) (layers : Layers) (index : Nat) (name : String)
    (wantsLink : Bool) : (perform call layers index (.load name wantsLink)).reply =
      .unit (lookUp call layers index name).reply := by
  unfold perform
  dsimp only
  generalize lookUp call layers index name = looked
  obtain ⟨reply, layers', events⟩ := looked
  cases reply <;> rfl

/-- Only a loader can get a unit: a place that is not taken replies with none. -/
theorem layer_of_loaded {depth : Nat} {layers : Layers} {index : Nat} {one : Call} {name : String}
    {unit : Shared CodeUnit} (hwanted : wanted? one = some name)
    (hloaded : loaded? (callWithin depth layers index one).reply = some unit) :
    ∃ layer, layers.layers[index]? = some layer := by
  cases depth with
  | zero => cases hloaded
  | succ depth =>
    obtain ⟨hreply, -⟩ := perform_of_wanted (callWithin depth) layers index index hwanted
    have hreply := (hreply unit).mp hloaded
    cases hlayer : layers.layers[index]? with
    | some layer => exact ⟨layer, rfl⟩
    | none =>
      unfold lookUp at hreply
      simp only [hlayer] at hreply
      cases hreply

/-- A call that asks for a unit is a lookup, and it gets the unit if that is the outcome. -/
theorem wanted_outcome {layers : Layers} {index : Nat} {layer : Layer} {one : Call}
    {name : String} (depth : Nat) (hlayer : layers.layers[index]? = some layer)
    (hwanted : wanted? one = some name) (waiting : List (Nat × Errand)) (begun : Nat) :
    let scene : Scene := ⟨layer.loader, layers.volume, waiting, begun⟩
    ∃ loader' begun' during last result,
      (callWithin (depth + 1) layers index one).layers.loaderAt? index = some loader' ∧
      Lasts scene name during last ∧
      (layers.Still → ∀ volume, .change volume ∉ during) ∧
      (∀ unit, loaded? (callWithin (depth + 1) layers index one).reply = some unit ↔
        result = .ok unit) ∧
      ((scene.after during).step last).outcome = .unit name result ∧
      ((scene.after during).step last).scene =
        ⟨loader', (callWithin (depth + 1) layers index one).layers.volume, waiting, begun'⟩ := by
  intro scene
  obtain ⟨hreply, hloader, hvolume⟩ :=
    perform_of_wanted (callWithin depth) layers index index hwanted
  obtain ⟨loader', begun', during, last, hloader', hlasts, hfiles, houtcome, hscene⟩ :=
    lookUp_replies (callWithin_leads depth) name hlayer waiting begun
  refine ⟨loader', begun', during, last, _, hloader.trans hloader', hlasts, hfiles, hreply,
    houtcome, ?_⟩
  rw [hscene]
  exact congrArg (Scene.mk loader' · waiting begun') hvolume.symm

/-! ## Sequences of calls -/

/-- A call may nest others: the depth that is reckoned with is never zero. -/
theorem exists_depth (layers : Layers) :
    ∃ depth, ∀ index one, layers.call index one = callWithin (depth + 1) layers index one := by
  have hpos : 0 < layers.depth := Nat.mul_pos (Nat.succ_pos _) (Nat.succ_pos _)
  obtain ⟨depth, hdepth⟩ := Nat.exists_eq_succ_of_ne_zero (Nat.ne_of_gt hpos)
  refine ⟨depth, ?_⟩
  intro index one
  unfold call
  rw [hdepth]

/-- The layers after some calls, each to the loader at its place. Between two of them
nothing waits. -/
def after (layers : Layers) (calls : List (Nat × Call)) : Layers :=
  calls.foldl (fun layers one => (layers.call one.1 one.2).layers) layers

theorem after_cons (layers : Layers) (one : Nat × Call) (rest : List (Nat × Call)) :
    layers.after (one :: rest) = (layers.call one.1 one.2).layers.after rest := rfl

theorem after_append (layers : Layers) (calls more : List (Nat × Call)) :
    layers.after (calls ++ more) = (layers.after calls).after more := List.foldl_append

theorem after_leads (place : Nat) (layers : Layers) (calls : List (Nat × Call)) :
    LeadsTo (∀ one ∈ calls, edits one.2 = false) place layers (layers.after calls) := by
  induction calls generalizing layers with
  | nil => exact .refl layers
  | cons one rest ih =>
    have hfirst := (callWithin_leads layers.depth place layers one.1 one.2).mono
      fun (h : ∀ other ∈ one :: rest, edits other.2 = false) _ => h one List.mem_cons_self
    exact hfirst.trans ((ih _).mono fun h _ other hmem => h other (List.mem_cons_of_mem one hmem))

end LayeredUnits.Layers
