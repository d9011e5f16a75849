import Mathlib
import LayeredUnits.Proofs.Locations

/-!
# Calls stay below

A loader that is a host was there before the loaders that sit on it, so the
hosts of a stack are always earlier in it. A call to one loader then changes
that one and loaders before it, whatever the programs do that embed them while
they are asked. None of the loaders above takes part.

* `callWithin_below` — this for every call. The induction is on how deep calls
  nest, and each operation needs it for the calls that it makes.
* `LeftAlone` — the host of a loader that is asked does nothing to the loader.
* `leftAlone_of_parent`, `leftAlone_of_quiet` — it is so if the host is another
  loader, and if it is a program that makes no calls (`KeepsOff`).
-/

namespace LayeredUnits.Layers

open ResourceName (normalize)

/-- The loaders above a place are as they were, and hosts are still earlier loaders. -/
structure Below (index : Nat) (layers after : Layers) : Prop where
  stacked : after.Stacked
  above : ∀ p, index < p → after.loaderAt? p = layers.loaderAt? p

namespace Below

variable {index : Nat} {first second third layers : Layers}

theorem refl (h : layers.Stacked) : Below index layers layers := ⟨h, fun _ _ => rfl⟩

theorem trans (h₁ : Below index first second) (h₂ : Below index second third) :
    Below index first third :=
  ⟨h₂.stacked, fun p hp => (h₂.above p hp).trans (h₁.above p hp)⟩

theorem mono {parent : Nat} (h : Below parent first second) (hlt : parent < index) :
    Below index first second :=
  ⟨h.stacked, fun p hp => h.above p (Nat.lt_trans hlt hp)⟩

theorem of_setLoader (h : layers.Stacked) (loader : Loader) :
    Below index layers (layers.setLoader index loader) := by
  refine ⟨?_, fun p hp => loaderAt?_setLoader_of_ne layers loader (Nat.ne_of_gt hp)⟩
  intro place parent hhost
  rw [hostAt_setLoader] at hhost
  exact h place parent hhost

/-- A program is no loader, whatever it has noted, and so its notes are no change to any loader. -/
theorem of_setHost {place : Nat} {old new : Embedder} (h : layers.Stacked)
    (hold : layers.hostAt place = .embedder old) :
    Below index layers (layers.setHost place (.embedder new)) := by
  refine ⟨?_, fun p _ => loaderAt?_setHost ..⟩
  intro other parent hhost
  rw [hostAt_setHost other hold (by simp)] at hhost
  split at hhost
  · cases hhost
  · exact h other parent hhost

/-- A lookup of a resource asks the host or does not, and then remembers what it has found or does
not. Above the loader it leaves everything as it was when asking the host does. -/
theorem of_asked {hosted asked after : Layers} (h : layers.Stacked)
    (hhosted : Below index layers hosted) (hasked : asked = layers ∨ asked = hosted)
    (hafter : after = asked ∨ ∃ loader, after = asked.setLoader index loader) :
    Below index layers after := by
  have hbelow : Below index layers asked := by
    rcases hasked with rfl | rfl
    · exact .refl h
    · exact hhosted
  rcases hafter with rfl | ⟨loader, rfl⟩
  · exact hbelow
  · exact hbelow.trans (.of_setLoader hbelow.stacked loader)

end Below

theorem link_below (index : Nat) (name : String) (fuel : Nat) {layers : Layers}
    (h : layers.Stacked) : ∀ place, Below index layers (layers.link name fuel place) := by
  induction fuel with
  | zero =>
    intro place
    exact .refl h
  | succ fuel ih =>
    intro place
    unfold link
    split
    · exact ih _
    · next embedder hhost => exact .of_setHost h hhost
    · exact .refl h

theorem openLocation_below (index : Nat) (location : Location) (fuel : Nat) {layers : Layers}
    (h : layers.Stacked) :
    ∀ place, Below index layers (layers.openLocation location fuel place).layers := by
  induction fuel with
  | zero =>
    intro place
    exact .refl h
  | succ fuel ih =>
    intro place
    unfold openLocation
    split
    · exact .refl h
    · next layer hlayer =>
      split
      · exact .refl h
      · split
        · exact .refl h
        · exact ih _
        · next embedder hhost => exact .of_setHost h ((hostAt_of_some hlayer).trans hhost)

/-- To open a location is to change no loader. The hosts that are gone through may take a note at
most. -/
theorem openLocation_same (place : Nat) (location : Location) (fuel : Nat) (layers : Layers) :
    ∀ index, (layers.openLocation location fuel index).layers.loaderAt? place =
      layers.loaderAt? place := by
  induction fuel with
  | zero =>
    intro index
    rfl
  | succ fuel ih =>
    intro index
    unfold openLocation
    split
    · rfl
    · split
      · rfl
      · split
        · rfl
        · exact ih _
        · exact loaderAt?_setHost ..

section

variable {depth : Nat} (hcall : ∀ layers index one, layers.Stacked →
  Below index layers (callWithin depth layers index one).layers)

include hcall

theorem callAll_below (index : Nat) (calls : List Call) :
    ∀ layers : Layers, layers.Stacked →
      Below index layers (callAll (callWithin depth) index calls layers).1 := by
  induction calls with
  | nil =>
    intro layers h
    exact .refl h
  | cons one rest ih =>
    intro layers h
    have hfirst := hcall layers index one h
    exact hfirst.trans (ih _ hfirst.stacked)

theorem askUnit_below {layers : Layers} (index : Nat) (name : String) (h : layers.Stacked) :
    Below index layers (askUnit (callWithin depth) layers index name).layers := by
  unfold askUnit
  split
  · next parent hhost =>
    have hparent := (hcall layers parent (.find name) h).mono (h index parent hhost)
    split <;> rename_i heq <;> rw [heq] at hparent <;> exact hparent
  · next embedder hhost =>
    have hnoted : Below index layers (layers.setHost index (.embedder (embedder.askUnit name))) :=
      .of_setHost h hhost
    exact hnoted.trans (callAll_below hcall index _ _ hnoted.stacked)
  · exact .refl h

theorem lookUp_below {layers : Layers} (index : Nat) (name : String) (h : layers.Stacked) :
    Below index layers (lookUp (callWithin depth) layers index name).layers := by
  cases hlayer : layers.layers[index]? with
  | none =>
    unfold lookUp
    simp only [hlayer]
    exact .refl h
  | some layer =>
    rcases lookUp_cases (callWithin_leads depth) name hlayer with
      ⟨result, loader, events, -, hlooked⟩ |
      ⟨ticket, loader, events, answered, layer', -, hanswered, -, -, hlooked⟩
    · rw [hlooked]
      exact .of_setLoader h loader
    · have hbegun : Below index layers (layers.setLoader index loader) := .of_setLoader h loader
      have hasked := hanswered ▸ askUnit_below hcall index name hbegun.stacked
      rw [hlooked]
      exact (hbegun.trans hasked).trans (.of_setLoader hasked.stacked _)

theorem askResource_below {layers : Layers} (index : Nat) (name : String) (h : layers.Stacked) :
    Below index layers (askResource (callWithin depth) layers index name).layers := by
  unfold askResource
  split
  · next parent hhost =>
    have hparent := (hcall layers parent (.resource name) h).mono (h index parent hhost)
    split <;> rename_i heq <;> rw [heq] at hparent <;> exact hparent
  · next embedder hhost => exact .of_setHost h hhost
  · exact .refl h

theorem askResources_below {layers : Layers} (index : Nat) (name : String) (h : layers.Stacked) :
    Below index layers (askResources (callWithin depth) layers index name).layers := by
  unfold askResources
  split
  · next parent hhost =>
    have hparent := (hcall layers parent (.resources name) h).mono (h index parent hhost)
    split <;> rename_i heq <;> rw [heq] at hparent <;> exact hparent
  · next embedder hhost => exact .of_setHost h hhost
  · exact .refl h

theorem findResource_below {layers : Layers} (index : Nat) (name : String) (h : layers.Stacked) :
    Below index layers (findResource (callWithin depth) layers index name).layers := by
  obtain ⟨asked, hasked, hafter⟩ := findResource_cases (callWithin depth) layers index name
  exact Below.of_asked h (askResource_below hcall index _ h) hasked
    (hafter.imp_right fun ⟨_, _, _, heq⟩ => ⟨_, heq⟩)

theorem findResources_below {layers : Layers} (index : Nat) (name : String) (h : layers.Stacked) :
    Below index layers (findResources (callWithin depth) layers index name).layers := by
  obtain ⟨asked, hasked, hafter⟩ := findResources_cases (callWithin depth) layers index name
  exact Below.of_asked h (askResources_below hcall index _ h) hasked
    (hafter.imp_right fun ⟨_, _, _, heq⟩ => ⟨_, heq⟩)

theorem perform_below {layers : Layers} (index : Nat) (one : Call) (h : layers.Stacked) :
    Below index layers (perform (callWithin depth) layers index one).layers := by
  cases one with
  | load name wantsLink =>
    have hlooked := lookUp_below hcall index name h
    unfold perform
    dsimp only
    generalize lookUp (callWithin depth) layers index name = looked at hlooked ⊢
    obtain ⟨reply, layers', events⟩ := looked
    cases reply with
    | error fault => exact hlooked
    | ok unit =>
      cases wantsLink with
      | false => exact hlooked
      | true => exact hlooked.trans (link_below index _ _ hlooked.stacked index)
  | find name =>
    rw [find_eq]
    exact lookUp_below hcall index name h
  | resource name => exact findResource_below hcall index name h
  | resources name => exact findResources_below hcall index name h
  | openResource name =>
    -- The location may be opened by an earlier loader, which is below as well.
    have hfound := findResource_below hcall index name h
    unfold perform
    dsimp only
    generalize findResource (callWithin depth) layers index name = found at hfound ⊢
    obtain ⟨reply, layers', events⟩ := found
    cases reply with
    | none => exact hfound
    | some location => exact hfound.trans (openLocation_below index _ _ hfound.stacked index)
  | edit edit => exact ⟨h, fun _ _ => rfl⟩
  | _ =>
    -- The rest is done to the called loader and to no other.
    unfold perform
    dsimp only
    split
    · exact .refl h
    · exact .of_setLoader h _

end

/-- A call leaves the loaders above the one that is called as they are. -/
theorem callWithin_below (depth : Nat) : ∀ (layers : Layers) (index : Nat) (one : Call),
    layers.Stacked → Below index layers (callWithin depth layers index one).layers := by
  induction depth with
  | zero =>
    intro layers index one h
    exact .refl h
  | succ depth ih =>
    intro layers index one h
    exact perform_below ih index one h

/-! ## Hosts that do nothing to the loader -/

/-- Whatever the host of a loader is asked for, it does nothing to the loader meanwhile. -/
structure LeftAlone (layers : Layers) (depth place : Nat) : Prop where
  unit : ∀ loader name, (layers.setLoader place loader).loaderAt? place = some loader →
    (askUnit (callWithin depth) (layers.setLoader place loader) place name).layers.loaderAt? place =
      some loader
  resource : ∀ name, (askResource (callWithin depth) layers place name).layers.loaderAt? place =
    layers.loaderAt? place
  resources : ∀ name, (askResources (callWithin depth) layers place name).layers.loaderAt? place =
    layers.loaderAt? place

/-- A host that is an earlier loader does nothing to the loader that asks it. -/
theorem leftAlone_of_parent {layers : Layers} {place parent : Nat} (depth : Nat)
    (hstacked : layers.Stacked) (hhost : layers.hostAt place = .loader parent) :
    layers.LeftAlone depth place := by
  have hlt := hstacked place parent hhost
  -- What the parent is called for stays below the parent, and so below this loader.
  have hcall {layers : Layers} (one : Call) (h : layers.Stacked) :
      (callWithin depth layers parent one).layers.loaderAt? place = layers.loaderAt? place :=
    (callWithin_below depth layers parent one h).above place hlt
  constructor
  · intro loader name hloader
    have hbegun : Below place layers (layers.setLoader place loader) :=
      .of_setLoader hstacked loader
    have hasked := (hcall (.find name) hbegun.stacked).trans hloader
    unfold askUnit
    rw [hostAt_setLoader, hhost]
    dsimp only
    split <;> rename_i heq <;> rw [heq] at hasked <;> exact hasked
  · intro name
    have hasked := hcall (.resource name) hstacked
    unfold askResource
    rw [hhost]
    dsimp only
    split <;> rename_i heq <;> rw [heq] at hasked <;> exact hasked
  · intro name
    have hasked := hcall (.resources name) hstacked
    unfold askResources
    rw [hhost]
    dsimp only
    split <;> rename_i heq <;> rw [heq] at hasked <;> exact hasked

/-- Nor does a host that only answers: it makes no calls, so it has no way to the loader. -/
theorem leftAlone_of_quiet {layers : Layers} {place : Nat} {layer : Layer} (depth : Nat)
    (hlayer : layers.layers[place]? = some layer) (hquiet : layer.host.IsQuiet) :
    layers.LeftAlone depth place := by
  constructor
  · intro loader name _
    have hbegun := setLoader_eq loader hlayer
    have hput := layer_setLayer_self { layer with loader := loader } hlayer
    obtain ⟨host, -, hasked⟩ := askUnit_of_quiet (callWithin depth) name hput hquiet
    rw [hbegun, hasked]
    exact loaderAt?_of_some (layer_setLayer_self _ hput)
  · intro name
    exact (askResource_of_quiet hlayer (callWithin depth) hquiet).2.others place List.not_mem_nil
  · intro name
    exact (askResources_of_quiet hlayer (callWithin depth) hquiet).2.others place List.not_mem_nil

/-- The host of a loader has no way to call it: it is an earlier loader, or it only answers. -/
inductive KeepsOff (layers : Layers) (place : Nat) : Prop
  | parent {parent : Nat} (hstacked : layers.Stacked) (hhost : layers.hostAt place = .loader parent)
  | quiet {layer : Layer} (hlayer : layers.layers[place]? = some layer)
      (hquiet : layer.host.IsQuiet)

theorem KeepsOff.leftAlone {layers : Layers} {place : Nat} (h : layers.KeepsOff place)
    (depth : Nat) : layers.LeftAlone depth place := by
  cases h with
  | parent hstacked hhost => exact leftAlone_of_parent depth hstacked hhost
  | quiet hlayer hquiet => exact leftAlone_of_quiet depth hlayer hquiet

end LayeredUnits.Layers
