import Mathlib
import LayeredUnits.Proofs.QuietHost

/-!
# A chain of loaders is one layered loader

Each loader of a chain has the next one as its host, and the last one sits over
a host that only answers. A unit that is asked for at the top is asked for all
the way down, and on the way back every loader searches its own sources if
those below had nothing. So units come from the loader that is furthest down.
Resources are searched for on the way down, and come from the loader that is
nearest to the top.

* `lookUp_chain` — a lookup at the top of a chain is a lookup at each loader,
  over what those below it answer. The induction is on the loaders below, and
  it carries along that loaders outside of the chain stay as they are.
* `answerOf_of_host`, `answerOf_of_own`, `answerOf_of_nothing` — what the
  loaders below answer.
* `findResource_chain`, `findResources_chain` — the same for resources.
* `chain_is_one_loader` — all of this for calls at the top: `LoadsAsOne` for a
  unit that no loader knows, and the two equations for resources.
-/

namespace LayeredUnits.Layers

/-- The loader at `place` has the loaders `below` under it, the nearest first, and the last of
all sits over a quiet host. -/
inductive Chain (layers : Layers) : Nat → List Nat → Host → Prop
  | bottom {place : Nat} {layer : Layer} (hlayer : layers.layers[place]? = some layer)
      (hquiet : layer.host.IsQuiet) : Chain layers place [] layer.host
  | stacked {place parent : Nat} {below : List Nat} {layer : Layer} {host : Host}
      (hlayer : layers.layers[place]? = some layer) (hhost : layer.host = .loader parent)
      (hnew : place ∉ parent :: below) (hparent : Chain layers parent below host) :
      Chain layers place (parent :: below) host

namespace Chain

variable {layers : Layers} {place : Nat} {below : List Nat} {host : Host}

theorem exists_loader (h : Chain layers place below host) :
    ∀ p ∈ place :: below, ∃ loader, layers.loaderAt? p = some loader := by
  induction h with
  | bottom hlayer hquiet =>
    intro p hp
    rw [List.mem_singleton.mp hp]
    exact ⟨_, loaderAt?_of_some hlayer⟩
  | stacked hlayer hhost hnew hparent ih =>
    intro p hp
    rcases List.mem_cons.mp hp with rfl | hp
    · exact ⟨_, loaderAt?_of_some hlayer⟩
    · exact ih p hp

theorem nodup (h : Chain layers place below host) : (place :: below).Nodup := by
  induction h with
  | bottom => exact List.nodup_singleton _
  | stacked hlayer hhost hnew hparent ih => exact List.nodup_cons.mpr ⟨hnew, ih⟩

/-- The loaders of a chain are different ones, so there are not more of them than there are. -/
theorem length_le (h : Chain layers place below host) :
    (place :: below).length ≤ layers.layers.length := by
  have hsub : place :: below ⊆ List.range layers.layers.length := by
    intro p hp
    obtain ⟨loader, hloader⟩ := h.exists_loader p hp
    obtain ⟨layer, hlayer, -⟩ := Option.map_eq_some_iff.mp hloader
    exact List.mem_range.mpr (List.getElem?_eq_some_iff.mp hlayer).1
  have hlength := (h.nodup.subperm hsub).length_le
  rwa [List.length_range] at hlength

/-- Calls can nest as deep as a chain is long, so an induction along the chain never comes to the
bottom too early. -/
theorem exists_depth (h : Chain layers place below host) :
    ∃ depth, below.length ≤ depth ∧
      ∀ index one, layers.call index one = callWithin (depth + 1) layers index one := by
  have hlength := h.length_le
  rw [List.length_cons] at hlength
  have hdeep : layers.layers.length + 1 ≤ layers.depth := Nat.le_mul_of_pos_left _ (Nat.succ_pos _)
  have hpositive : layers.depth ≠ 0 := by omega
  obtain ⟨depth, hdepth⟩ := Nat.exists_eq_succ_of_ne_zero hpositive
  refine ⟨depth, by omega, ?_⟩
  intro index one
  unfold call
  rw [hdepth]

/-- What a loader knows does not make a chain. Only the hosts do. -/
theorem setLoader (h : Chain layers place below host) (index : Nat) (loader : Loader) :
    Chain (layers.setLoader index loader) place below host := by
  have hkept : ∀ {p : Nat} {layer : Layer}, layers.layers[p]? = some layer →
      ∃ layer' : Layer, (layers.setLoader index loader).layers[p]? = some layer' ∧
        layer'.host = layer.host := by
    intro p layer hlayer
    unfold Layers.setLoader
    rw [List.getElem?_modify, hlayer]
    by_cases hp : index = p
    · exact ⟨{ layer with loader := loader }, by simp [hp], rfl⟩
    · exact ⟨layer, by simp [hp], rfl⟩
  induction h with
  | bottom hlayer hquiet =>
    obtain ⟨layer', hlayer', hsame⟩ := hkept hlayer
    rw [← hsame] at hquiet ⊢
    exact .bottom hlayer' hquiet
  | stacked hlayer hhost hnew hparent ih =>
    obtain ⟨layer', hlayer', hsame⟩ := hkept hlayer
    exact .stacked hlayer' (hsame.trans hhost) hnew ih

end Chain

/-- Nothing but the loaders at some places has changed, hosts apart. -/
structure Within (layers : Layers) (places : List Nat) (after : Layers) : Prop where
  volume : after.volume = layers.volume
  others : ∀ p ∉ places, after.loaderAt? p = layers.loaderAt? p

theorem Within.setLoader {layers after : Layers} {places : List Nat}
    (h : layers.Within places after) (place : Nat) (loader : Loader) :
    layers.Within (place :: places) (after.setLoader place loader) := by
  refine ⟨h.volume, ?_⟩
  intro p hp
  have hne : p ≠ place := fun heq => hp (heq ▸ List.mem_cons_self)
  rw [loaderAt?_setLoader_of_ne _ _ hne]
  exact h.others p fun hmem => hp (List.mem_cons_of_mem place hmem)

/-- A loader that is set aside first counts as one of those that have changed. -/
theorem Within.of_setLoader {layers after : Layers} {places : List Nat} {place : Nat}
    {loader : Loader} (h : (layers.setLoader place loader).Within places after) :
    layers.Within (place :: places) after := by
  refine ⟨h.volume, ?_⟩
  intro p hp
  have hne : p ≠ place := fun heq => hp (heq ▸ List.mem_cons_self)
  rw [h.others p fun hmem => hp (List.mem_cons_of_mem place hmem),
    loaderAt?_setLoader_of_ne _ _ hne]

/-- One loader changes, whether those below it have been asked or not. -/
theorem Within.of_setLoader_or {layers asked after : Layers} {places : List Nat} {place : Nat}
    {loader : Loader} (h : layers.Within places asked)
    (hafter : after = layers.setLoader place loader ∨ after = asked.setLoader place loader) :
    layers.Within (place :: places) after := by
  rcases hafter with rfl | rfl
  · exact Within.of_setLoader ⟨rfl, fun _ _ => rfl⟩
  · exact h.setLoader place loader

/-! ## Units -/

/-- What the first of these loaders answers, each over the next one, and the last over the
host. -/
def answerOf (layers : Layers) (host : Host) (name : String) :
    List Nat → Option (Shared CodeUnit)
  | [] => host.unit? name
  | place :: below =>
    (layers.loaderAt? place).bind fun loader =>
      (loader.resolve layers.volume name (layers.answerOf host name below)).reply.toOption

theorem answerOf_cons {layers : Layers} {place : Nat} {loader : Loader} (host : Host)
    (name : String) (below : List Nat) (h : layers.loaderAt? place = some loader) :
    layers.answerOf host name (place :: below) =
      (loader.resolve layers.volume name (layers.answerOf host name below)).reply.toOption :=
  congrArg (Option.bind · _) h

theorem answerOf_congr {layers other : Layers} (host : Host) (name : String) {places : List Nat}
    (hvolume : other.volume = layers.volume)
    (hloaders : ∀ p ∈ places, other.loaderAt? p = layers.loaderAt? p) :
    other.answerOf host name places = layers.answerOf host name places := by
  induction places with
  | nil => rfl
  | cons place below ih =>
    unfold answerOf
    rw [hloaders place List.mem_cons_self, hvolume,
      ih fun p hp => hloaders p (List.mem_cons_of_mem place hp)]

/-- No loader at these places answers a lookup of the name from what it remembers. -/
def Unrecalled (layers : Layers) (places : List Nat) (name : String) : Prop :=
  ∀ p ∈ places, ∀ loader, layers.loaderAt? p = some loader → loader.Unrecalled name

/-- What has happened when a lookup has gone through a chain: each loader has looked the name up
over what those below it answer. -/
structure Passed (layers : Layers) (host : Host) (name : String) (places : List Nat)
    (after : Layers) : Prop extends layers.Within places after where
  resolved : ∀ above p below, places = above ++ p :: below →
    after.loaderAt? p = (layers.loaderAt? p).map fun loader =>
      (loader.resolve layers.volume name (layers.answerOf host name below)).loader

/-- A loader that is asked as a host answers with the unit of its lookup, if that has one. -/
theorem askUnit_of_parent {layers : Layers} {index parent : Nat} (depth : Nat) (name : String)
    (hhost : layers.hostAt index = .loader parent) :
    (askUnit (callWithin (depth + 1)) layers index name).reply =
        (lookUp (callWithin depth) layers parent name).reply.toOption ∧
      (askUnit (callWithin (depth + 1)) layers index name).layers =
        (lookUp (callWithin depth) layers parent name).layers := by
  have hcall : callWithin (depth + 1) layers parent (.find name) =
      perform (callWithin depth) layers parent (.find name) := rfl
  unfold askUnit
  simp only [hhost, hcall, find_eq]
  generalize lookUp (callWithin depth) layers parent name = looked
  obtain ⟨reply, layers', events⟩ := looked
  cases reply with
  | ok unit => exact ⟨rfl, rfl⟩
  | error fault => cases h : fault.isNotFound <;> simp [foundReply, h, Except.toOption]

theorem lookUp_bottom (call : Caller) {layers : Layers} {place : Nat} {layer : Layer}
    (name : String) (hlayer : layers.layers[place]? = some layer) (hquiet : layer.host.IsQuiet) :
    (lookUp call layers place name).reply =
        (layer.loader.resolve layers.volume name (layer.host.unit? name)).reply ∧
      Passed layers layer.host name [place] (lookUp call layers place name).layers := by
  obtain ⟨host, -, hlooked⟩ := lookUp_of_quiet call name hlayer hquiet
  rw [hlooked]
  refine ⟨rfl, ⟨rfl, ?_⟩, ?_⟩
  · intro p hp
    have hne : p ≠ place := fun heq => hp (List.mem_singleton.mpr heq)
    unfold loaderAt?
    rw [layer_setLayer_of_ne layers _ hne]
  · intro above p below hplaces
    obtain ⟨rfl, rfl, rfl⟩ : above = [] ∧ place = p ∧ below = [] := by
      cases above with
      | nil => exact ⟨rfl, (List.cons.inj hplaces).1, (List.cons.inj hplaces).2.symm⟩
      | cons first rest => cases rest <;> cases (List.cons.inj hplaces).2
    rw [loaderAt?_of_some (layer_setLayer_self _ hlayer), loaderAt?_of_some hlayer]
    rfl

/-- A lookup whose host is another loader is resolved with what that one answers. -/
theorem lookUp_of_parent {layers : Layers} {place parent : Nat} {layer : Layer} (depth : Nat)
    {name : String} (hlayer : layers.layers[place]? = some layer)
    (hhost : layer.host = .loader parent) (hunrecalled : layer.loader.Unrecalled name) :
    let asked := lookUp (callWithin depth) (layers.setLoader place layer.loader.asking) parent name
    asked.layers.volume = layers.volume →
    asked.layers.loaderAt? place = some layer.loader.asking →
    let turn := layer.loader.resolve layers.volume name asked.reply.toOption
    (lookUp (callWithin (depth + 1)) layers place name).reply = turn.reply ∧
      (lookUp (callWithin (depth + 1)) layers place name).layers =
        asked.layers.setLoader place turn.loader := by
  intro asked hvolume hkept turn
  have hbegin := Loader.beginLookup_of_unrecalled hunrecalled
  obtain ⟨haskreply, hasklayers⟩ := @askUnit_of_parent
    (layers.setLoader place layer.loader.asking) place parent depth name
    (by rw [hostAt_setLoader, hostAt_of_some hlayer, hhost])
  rcases lookUp_cases (callWithin_leads (depth + 1)) name hlayer with
    ⟨result, loader, events, habsurd, -⟩ |
    ⟨ticket, loader, events, answered, layer', hwaiting, hanswered, hlayer', hreply, hlayers⟩
  · -- Nothing is known of the name, so the lookup does not end as it begins.
    cases hbegin.symm.trans habsurd
  · cases hbegin.symm.trans hwaiting
    rw [← hanswered] at haskreply hasklayers
    have hsame : layer'.loader = layer.loader.asking := by
      rw [hasklayers] at hlayer'
      exact Option.some.inj ((loaderAt?_of_some hlayer').symm.trans hkept)
    -- The parent has touched neither the loader nor the files, so the end of the lookup is that of
    -- a resolution on the spot.
    have hfinish : layer'.loader.finishLookup answered.layers.volume (layer.loader.ticketFor name)
        answered.reply = turn := by
      rw [hsame, haskreply, hasklayers, hvolume]
      exact (Loader.resolve_of_unrecalled _ _ hunrecalled).symm
    rw [hfinish] at hreply hlayers
    exact ⟨hreply, hlayers.trans (by rw [hasklayers])⟩

/-- Above a chain that a lookup has passed, one more loader is resolved. The ones below were asked
while it waited, and are another place each. -/
theorem Passed.stack {layers after : Layers} {host : Host} {name : String} {place : Nat}
    {layer : Layer} {below : List Nat} {waiting : Loader}
    (h : Passed (layers.setLoader place waiting) host name below after)
    (hlayer : layers.layers[place]? = some layer) (hnew : place ∉ below) :
    Passed layers host name (place :: below) (after.setLoader place
      (layer.loader.resolve layers.volume name (layers.answerOf host name below)).loader) := by
  have hbefore : ∀ p ∈ below, (layers.setLoader place waiting).loaderAt? p = layers.loaderAt? p :=
    fun p hp => loaderAt?_setLoader_of_ne layers waiting fun heq => hnew (heq ▸ hp)
  refine ⟨⟨h.volume, ?_⟩, ?_⟩
  · intro p hp
    have hne : p ≠ place := fun heq => hp (heq ▸ List.mem_cons_self)
    rw [loaderAt?_setLoader_of_ne _ _ hne]
    exact h.toWithin.of_setLoader.others p hp
  · intro above p deeper hplaces
    -- The top has been set last, and the rest is as the lookup has left it.
    cases above with
    | nil =>
      obtain ⟨rfl, rfl⟩ := List.cons.inj hplaces
      have hthere := h.others place hnew
      rw [loaderAt?_setLoader_self _ hlayer] at hthere
      obtain ⟨layer', hlayer', -⟩ := Option.map_eq_some_iff.mp hthere
      rw [loaderAt?_setLoader_self _ hlayer', loaderAt?_of_some hlayer]
      rfl
    | cons first above =>
      have hrest : below = above ++ p :: deeper := (List.cons.inj hplaces).2
      have hmem : ∀ q ∈ p :: deeper, q ∈ below := fun q hq => hrest ▸ List.mem_append_right above hq
      have hne : p ≠ place := fun heq => hnew (heq ▸ hmem p List.mem_cons_self)
      have hanswer : (layers.setLoader place waiting).answerOf host name deeper =
          layers.answerOf host name deeper :=
        answerOf_congr host name rfl fun q hq => hbefore q (hmem q (List.mem_cons_of_mem p hq))
      rw [loaderAt?_setLoader_of_ne _ _ hne, h.resolved above p deeper hrest,
        hbefore p (hmem p List.mem_cons_self), hanswer]
      rfl

/-- A lookup at the top of a chain is a lookup at each of its loaders. -/
theorem lookUp_chain {below : List Nat} {host : Host} (name : String) :
    ∀ {layers : Layers} {place : Nat} (depth : Nat), Chain layers place below host →
      layers.Unrecalled (place :: below) name → below.length ≤ depth →
        (lookUp (callWithin depth) layers place name).reply.toOption =
            layers.answerOf host name (place :: below) ∧
          (∃ loader, layers.loaderAt? place = some loader ∧
            (lookUp (callWithin depth) layers place name).reply =
              (loader.resolve layers.volume name (layers.answerOf host name below)).reply) ∧
          Passed layers host name (place :: below)
            (lookUp (callWithin depth) layers place name).layers := by
  induction below with
  | nil =>
    intro layers place depth hchain _ _
    cases hchain with
    | @bottom _ layer hlayer hquiet =>
      obtain ⟨hreply, hpassed⟩ := lookUp_bottom (callWithin depth) name hlayer hquiet
      have hloader : layers.loaderAt? place = some layer.loader := loaderAt?_of_some hlayer
      exact ⟨by rw [hreply, answerOf_cons _ name [] hloader]; rfl, ⟨_, hloader, hreply⟩, hpassed⟩
  | cons parent below ih =>
    intro layers place depth hchain hunrecalled hdepth
    cases hchain with
    | @stacked _ _ _ layer _ hlayer hhost hnew hparent =>
      obtain ⟨depth, rfl⟩ : ∃ less, depth = less + 1 :=
        Nat.exists_eq_succ_of_ne_zero (by rintro rfl; exact Nat.not_succ_le_zero _ hdepth)
      have hloader : layers.loaderAt? place = some layer.loader := loaderAt?_of_some hlayer
      have htop := hunrecalled place List.mem_cons_self layer.loader hloader
      have hbefore : ∀ p ∈ parent :: below,
          (layers.setLoader place layer.loader.asking).loaderAt? p = layers.loaderAt? p :=
        fun p hp => loaderAt?_setLoader_of_ne layers _ fun heq => hnew (heq ▸ hp)
      have hbelow : (layers.setLoader place layer.loader.asking).Unrecalled (parent :: below) name :=
        fun p hp loader hthere =>
          hunrecalled p (List.mem_cons_of_mem place hp) loader ((hbefore p hp).symm.trans hthere)
      -- The parent is asked while this loader waits. It is another place, so it stays as it is.
      obtain ⟨hanswer, -, hpassed⟩ := ih depth (hparent.setLoader place layer.loader.asking) hbelow
        (Nat.le_of_succ_le_succ hdepth)
      have hkept := (hpassed.others place hnew).trans (loaderAt?_setLoader_self _ hlayer)
      obtain ⟨hreply, hlayers⟩ := lookUp_of_parent depth hlayer hhost htop hpassed.volume hkept
      have hsame : (layers.setLoader place layer.loader.asking).answerOf host name (parent :: below) =
          layers.answerOf host name (parent :: below) := answerOf_congr host name rfl hbefore
      rw [hanswer, hsame] at hreply hlayers
      refine ⟨by rw [hreply, answerOf_cons host name _ hloader], ⟨_, hloader, hreply⟩, ?_⟩
      rw [hlayers]
      exact hpassed.stack hlayer hnew

/-- A load at the top of a chain. Its reply is the answer of the chain, and every loader that was
passed on the way has learnt it. -/
theorem load_chain {layers : Layers} {place : Nat} {below : List Nat} {host : Host} {name : String}
    (hchain : Chain layers place below host) (hunrecalled : layers.Unrecalled (place :: below) name)
    (wantsLink : Bool) :
    (∃ loader, layers.loaderAt? place = some loader ∧
      (layers.call place (.load name wantsLink)).reply =
        .unit (loader.resolve layers.volume name (layers.answerOf host name below)).reply) ∧
      Passed layers host name (place :: below) (layers.call place (.load name wantsLink)).layers := by
  obtain ⟨depth, hdeep, hdepth⟩ := hchain.exists_depth
  obtain ⟨-, ⟨loader, hloader, hreply⟩, hpassed⟩ := lookUp_chain name depth hchain hunrecalled hdeep
  have hwanted : wanted? (.load name wantsLink) = some name := rfl
  have hsame := fun p => (perform_of_wanted (callWithin depth) layers place p hwanted).2
  rw [hdepth]
  refine ⟨⟨loader, hloader, (load_reply ..).trans (congrArg Reply.unit hreply)⟩, ⟨?_, ?_⟩, ?_⟩
  · exact (hsame place).2.trans hpassed.volume
  · intro p hp
    exact (hsame p).1.trans (hpassed.others p hp)
  · intro above p deeper hplaces
    exact (hsame p).1.trans (hpassed.resolved above p deeper hplaces)

/-- The miss that the loader at a place remembers. -/
def missAt? (layers : Layers) (place : Nat) (name : String) : Option (Shared Miss) :=
  (layers.loaderAt? place).bind (·.memo.misses.get? name)

/-- Whether the options of the loader at a place allow to remember that a lookup failed. -/
def allowsMissAt (layers : Layers) (place : Nat) (name : String) : Bool :=
  (layers.loaderAt? place).any fun loader =>
    loader.options.remembersMisses && loader.options.probes.remembersMiss name

/-- The unit that the loader at a place finds in its own sources, were it asked for it alone. -/
def ownUnitAt? (layers : Layers) (place : Nat) (name : String) : Option (Shared CodeUnit) :=
  (layers.loaderAt? place).bind (·.ownUnit? layers.volume name)

theorem ownUnitAt?_of_some {layers : Layers} {place : Nat} {loader : Loader} (name : String)
    (h : layers.loaderAt? place = some loader) :
    layers.ownUnitAt? place name = loader.ownUnit? layers.volume name :=
  congrArg (Option.bind · _) h

/-- The loader at a place knows neither a unit nor a miss for the name. -/
structure UnknownAt (layers : Layers) (place : Nat) (name : String) : Prop where
  unbound : layers.bindingAt? place name = none
  unmissed : layers.missAt? place name = none

/-- There are loaders at all these places, and none knows the name. -/
def Fresh (layers : Layers) (places : List Nat) (name : String) : Prop :=
  ∀ p ∈ places, ∃ loader, layers.loaderAt? p = some loader ∧ loader.Unknown name

theorem Chain.fresh {layers : Layers} {place : Nat} {below : List Nat} {host : Host} {name : String}
    (h : Chain layers place below host)
    (hunknown : ∀ p ∈ place :: below, layers.UnknownAt p name) :
    layers.Fresh (place :: below) name := by
  intro p hp
  obtain ⟨loader, hloader⟩ := h.exists_loader p hp
  obtain ⟨hunbound, hunmissed⟩ := hunknown p hp
  unfold bindingAt? at hunbound
  unfold missAt? at hunmissed
  rw [hloader] at hunbound hunmissed
  exact ⟨loader, hloader, hunbound, hunmissed⟩

theorem Fresh.unrecalled {layers : Layers} {places : List Nat} {name : String}
    (h : layers.Fresh places name) : layers.Unrecalled places name := by
  intro p hp loader hloader
  obtain ⟨known, hknown, hunknown⟩ := h p hp
  obtain rfl := Option.some.inj (hknown.symm.trans hloader)
  exact hunknown.unrecalled

theorem Fresh.of_append {layers : Layers} {above below : List Nat} {name : String}
    (h : layers.Fresh (above ++ below) name) : layers.Fresh below name :=
  fun p hp => h p (List.mem_append_right above hp)

theorem Fresh.tail {layers : Layers} {place : Nat} {below : List Nat} {name : String}
    (h : layers.Fresh (place :: below) name) : layers.Fresh below name :=
  fun p hp => h p (List.mem_cons_of_mem place hp)

/-- What the host has is answered by every loader, whatever they have in their own sources: the
outermost comes first. -/
theorem answerOf_of_host {layers : Layers} {host : Host} {name : String} {places : List Nat}
    {unit : Shared CodeUnit} (hfresh : layers.Fresh places name)
    (hhost : host.unit? name = some unit) : layers.answerOf host name places = some unit := by
  induction places with
  | nil => exact hhost
  | cons place below ih =>
    obtain ⟨loader, hloader, hunknown⟩ := hfresh place List.mem_cons_self
    rw [answerOf_cons host name below hloader, ih hfresh.tail,
      Loader.resolve_of_answer layers.volume unit hunknown.unrecalled]
    rfl

/-- Where nobody has the unit, there is no answer, however long the chain is. -/
theorem answerOf_of_nothing {layers : Layers} {host : Host} {name : String} {places : List Nat}
    (hfresh : layers.Fresh places name) (hhost : host.unit? name = none)
    (hown : ∀ p ∈ places, layers.ownUnitAt? p name = none) :
    layers.answerOf host name places = none := by
  induction places with
  | nil => exact hhost
  | cons place below ih =>
    obtain ⟨loader, hloader, hunknown⟩ := hfresh place List.mem_cons_self
    have hnothing : loader.ownUnit? layers.volume name = none :=
      (ownUnitAt?_of_some name hloader).symm.trans (hown place List.mem_cons_self)
    obtain ⟨miss, -, hreply, -⟩ := Loader.resolve_of_nothing hunknown hnothing
    rw [answerOf_cons host name below hloader,
      ih hfresh.tail fun p hp => hown p (List.mem_cons_of_mem place hp), hreply]
    rfl

/-- The unit of the loader that is furthest down and has it is answered by every loader above. -/
theorem answerOf_of_own {layers : Layers} {host : Host} {name : String} {above below : List Nat}
    {source : Nat} {unit : Shared CodeUnit} (hfresh : layers.Fresh (above ++ source :: below) name)
    (hhost : host.unit? name = none) (hown : ∀ p ∈ below, layers.ownUnitAt? p name = none)
    (hsource : layers.ownUnitAt? source name = some unit) :
    layers.answerOf host name (above ++ source :: below) = some unit := by
  induction above with
  | nil =>
    obtain ⟨loader, hloader, hunknown⟩ := hfresh source List.mem_cons_self
    have hfound : loader.ownUnit? layers.volume name = some unit :=
      (ownUnitAt?_of_some name hloader).symm.trans hsource
    have hbelow : layers.answerOf host name below = none :=
      answerOf_of_nothing (fun p hp => hfresh p (List.mem_cons_of_mem source hp)) hhost hown
    rw [List.nil_append, answerOf_cons host name below hloader, hbelow,
      (Loader.resolve_of_own hunknown.unrecalled hfound).1]
    rfl
  | cons place above ih =>
    obtain ⟨loader, hloader, hunknown⟩ := hfresh place List.mem_cons_self
    rw [List.cons_append, answerOf_cons host name _ hloader,
      ih fun p hp => hfresh p (List.mem_cons_of_mem place hp),
      Loader.resolve_of_answer layers.volume unit hunknown.unrecalled]
    rfl

/-- A lookup of the name has left the loader at a place without a unit, and it remembers that
exactly if its own options allow it. -/
structure MissedAt (layers : Layers) (name : String) (after : Layers) (place : Nat) : Prop where
  unbound : after.bindingAt? place name = none
  remembers : (after.missAt? place name).isSome = layers.allowsMissAt place name

namespace Passed

variable {layers after : Layers} {host : Host} {name : String} {places above below : List Nat}
  {p : Nat}

theorem loader (h : Passed layers host name places after) (hfresh : layers.Fresh places name)
    (hplaces : places = above ++ p :: below) :
    ∃ loader, layers.loaderAt? p = some loader ∧ loader.Unknown name ∧
      after.loaderAt? p =
        some (loader.resolve layers.volume name (layers.answerOf host name below)).loader := by
  obtain ⟨loader, hloader, hunknown⟩ :=
    hfresh p (hplaces ▸ List.mem_append_right above List.mem_cons_self)
  refine ⟨loader, hloader, hunknown, ?_⟩
  rw [h.resolved above p below hplaces, hloader]
  rfl

/-- A loader binds what those below it answer, and so the whole chain above has one instance of a
unit. -/
theorem bound_of_answer {unit : Shared CodeUnit} (h : Passed layers host name places after)
    (hfresh : layers.Fresh places name) (hplaces : places = above ++ p :: below)
    (hanswer : layers.answerOf host name below = some unit) :
    after.bindingAt? p name = some unit := by
  obtain ⟨loader, -, hunknown, hafter⟩ := h.loader hfresh hplaces
  unfold bindingAt?
  rw [hafter, hanswer, Loader.resolve_of_answer layers.volume unit hunknown.unrecalled]
  show (loader.memo.units.insertNew name unit).get? name = some unit
  rw [Table.get?_insertNew_self, Table.kept_of_none unit hunknown.unbound]

/-- A loader binds what it finds itself if those below it have no answer. -/
theorem bound_of_own {unit : Shared CodeUnit} (h : Passed layers host name places after)
    (hfresh : layers.Fresh places name) (hplaces : places = above ++ p :: below)
    (hanswer : layers.answerOf host name below = none)
    (hown : layers.ownUnitAt? p name = some unit) : after.bindingAt? p name = some unit := by
  obtain ⟨loader, hloader, hunknown, hafter⟩ := h.loader hfresh hplaces
  rw [ownUnitAt?_of_some name hloader] at hown
  unfold bindingAt?
  rw [hafter, hanswer]
  exact (Loader.resolve_of_own hunknown.unrecalled hown).2

/-- A loader that finds nothing remembers that, if its own options allow it. -/
theorem missed (h : Passed layers host name places after)
    (hfresh : layers.Fresh places name) (hplaces : places = above ++ p :: below)
    (hanswer : layers.answerOf host name below = none)
    (hown : layers.ownUnitAt? p name = none) : layers.MissedAt name after p := by
  obtain ⟨loader, hloader, hunknown, hafter⟩ := h.loader hfresh hplaces
  rw [ownUnitAt?_of_some name hloader] at hown
  obtain ⟨miss, -, -, hunbound, hmiss⟩ := Loader.resolve_of_nothing hunknown hown
  constructor
  · unfold bindingAt?
    rw [hafter, hanswer]
    exact hunbound
  unfold missAt? allowsMissAt
  rw [hafter, hanswer, hloader]
  show ((loader.resolve layers.volume name none).loader.memo.misses.get? name).isSome = _
  rw [hmiss]
  cases hallowed : loader.options.remembersMisses && loader.options.probes.remembersMiss name <;>
    simp [hallowed]

end Passed

/-! ## Resources -/

/-- The first location that the loader at a place has in its own sources. -/
def ownLocationAt? (layers : Layers) (name : String) (place : Nat) : Option Location :=
  (layers.loaderAt? place).bind (·.sources.locate? layers.volume name)

/-- All locations that the loader at a place has in its own sources. -/
def ownLocationsAt (layers : Layers) (name : String) (place : Nat) : List Location :=
  ((layers.loaderAt? place).map (·.sources.locations layers.volume name)).getD []

/-- What the loader at a place remembers as the first location of a resource. -/
def locationMemoAt? (layers : Layers) (name : String) (place : Nat) : Option (Option Location) :=
  (layers.loaderAt? place).bind (·.recallResource name)

/-- What the loader at a place remembers as the locations of a resource. -/
def listMemoAt? (layers : Layers) (name : String) (place : Nat) : Option (List Location) :=
  (layers.loaderAt? place).bind (·.recallList name)

section

variable {layers : Layers} {place : Nat} {loader : Loader} (name : String)
  (hloader : layers.loaderAt? place = some loader)

include hloader

theorem ownLocationAt?_of_some :
    layers.ownLocationAt? name place = loader.sources.locate? layers.volume name :=
  congrArg (Option.bind · _) hloader

theorem locationMemoAt?_of_some :
    layers.locationMemoAt? name place = loader.recallResource name :=
  congrArg (Option.bind · _) hloader

theorem listMemoAt?_of_some : layers.listMemoAt? name place = loader.recallList name :=
  congrArg (Option.bind · _) hloader

theorem ownLocationsAt_of_some :
    layers.ownLocationsAt name place = loader.sources.locations layers.volume name := by
  unfold ownLocationsAt
  rw [hloader]
  rfl

end

theorem rememberResource_of_unknown {loader : Loader} {name : String} (found : Option Location)
    (h : loader.recallResource name = none) : (loader.rememberResource name found).reply = found := by
  unfold Loader.recallResource at h
  unfold Loader.rememberResource
  split
  · next hremembers =>
    rw [if_pos hremembers] at h
    exact Table.kept_of_none found h
  · rfl

theorem rememberList_of_unknown {loader : Loader} {name : String} (found : List Location)
    (h : loader.recallList name = none) : (loader.rememberList name found).reply = found := by
  unfold Loader.recallList at h
  unfold Loader.rememberList
  split
  · next hremembers =>
    rw [if_pos hremembers] at h
    exact Table.kept_of_none found h
  · rfl

section

variable {layers : Layers} {place : Nat} {layer : Layer} {name : String}
  (hlayer : layers.layers[place]? = some layer)

include hlayer

/-- The first location of a resource that is not remembered: what the sources have, or else what
the host answers. -/
theorem findResource_of_unrecalled (call : Caller)
    (hrecall : layer.loader.recallResource (ResourceName.normalize name) = none)
    {asked : Step (Option Location)}
    (hasked : askResource call layers place (ResourceName.normalize name) = asked)
    (hkept : asked.layers.loaderAt? place = some layer.loader) :
    (findResource call layers place name).reply =
        (layer.loader.sources.locate? layers.volume (ResourceName.normalize name)).or asked.reply ∧
      ∃ loader, (findResource call layers place name).layers = layers.setLoader place loader ∨
        (findResource call layers place name).layers = asked.layers.setLoader place loader := by
  unfold findResource
  simp only [hlayer, hrecall]
  cases layer.loader.sources.locate? layers.volume (ResourceName.normalize name) with
  | some location =>
    simp only [hlayer]
    exact ⟨rememberResource_of_unknown (some location) hrecall, _, .inl rfl⟩
  | none =>
    obtain ⟨layer', hlayer', hsame⟩ := Option.map_eq_some_iff.mp hkept
    simp only [hasked, hlayer', hsame]
    exact ⟨rememberResource_of_unknown asked.reply hrecall, _, .inr rfl⟩

/-- All locations of a resource that are not remembered: what the sources have, and then what the
host answers. -/
theorem findResources_of_unrecalled (call : Caller)
    (hrecall : layer.loader.recallList (ResourceName.normalize name) = none)
    {asked : Step (List Location)}
    (hasked : askResources call layers place (ResourceName.normalize name) = asked)
    (hkept : asked.layers.loaderAt? place = some layer.loader) :
    (findResources call layers place name).reply =
        layer.loader.sources.locations layers.volume (ResourceName.normalize name) ++ asked.reply ∧
      ∃ loader, (findResources call layers place name).layers =
        asked.layers.setLoader place loader := by
  obtain ⟨layer', hlayer', hsame⟩ := Option.map_eq_some_iff.mp hkept
  unfold findResources
  simp only [hlayer, hrecall, hasked, hlayer', hsame]
  exact ⟨rememberList_of_unknown _ hrecall, _, rfl⟩

/-- A quiet host that is asked for a resource answers, and at most takes a note. -/
theorem askResource_of_quiet (call : Caller) (hquiet : layer.host.IsQuiet) :
    (askResource call layers place name).reply = layer.host.location? name ∧
      layers.Within [] (askResource call layers place name).layers := by
  obtain ⟨loader, host⟩ := layer
  unfold askResource
  rw [hostAt_of_some hlayer]
  cases host with
  | none => exact ⟨rfl, rfl, fun _ _ => rfl⟩
  | loader parent => exact absurd hquiet id
  | embedder embedder => exact ⟨rfl, rfl, fun _ _ => loaderAt?_setHost ..⟩

theorem askResources_of_quiet (call : Caller) (hquiet : layer.host.IsQuiet) :
    (askResources call layers place name).reply = layer.host.locations name ∧
      layers.Within [] (askResources call layers place name).layers := by
  obtain ⟨loader, host⟩ := layer
  unfold askResources
  rw [hostAt_of_some hlayer]
  cases host with
  | none => exact ⟨rfl, rfl, fun _ _ => rfl⟩
  | loader parent => exact absurd hquiet id
  | embedder embedder => exact ⟨rfl, rfl, fun _ _ => loaderAt?_setHost ..⟩

/-- A loader that is asked for a resource as a host looks it up, in its memory first and then in its
own sources. -/
theorem askResource_of_parent {parent : Nat} (depth : Nat) (hhost : layer.host = .loader parent) :
    askResource (callWithin (depth + 1)) layers place name =
      findResource (callWithin depth) layers parent name := by
  have hcall : callWithin (depth + 1) layers parent (.resource name) =
      perform (callWithin depth) layers parent (.resource name) := rfl
  unfold askResource
  rw [hostAt_of_some hlayer, hhost]
  simp only [hcall, perform]

theorem askResources_of_parent {parent : Nat} (depth : Nat) (hhost : layer.host = .loader parent) :
    askResources (callWithin (depth + 1)) layers place name =
      findResources (callWithin depth) layers parent name := by
  have hcall : callWithin (depth + 1) layers parent (.resources name) =
      perform (callWithin depth) layers parent (.resources name) := rfl
  unfold askResources
  rw [hostAt_of_some hlayer, hhost]
  simp only [hcall, perform]

end

/-- The first location that a chain has: that of the loader nearest to the top, or else that of the
host. -/
theorem findResource_chain {layers : Layers} {below : List Nat} {host : Host} :
    ∀ {place : Nat} (depth : Nat) (name : String), Chain layers place below host →
      (∀ p ∈ place :: below, layers.locationMemoAt? (ResourceName.normalize name) p = none) →
      below.length ≤ depth →
        (findResource (callWithin depth) layers place name).reply =
            ((place :: below).findSome? (layers.ownLocationAt? (ResourceName.normalize name))).or
              (host.location? (ResourceName.normalize name)) ∧
          layers.Within (place :: below)
            (findResource (callWithin depth) layers place name).layers := by
  induction below with
  | nil =>
    intro place depth name hchain hunlocated _
    cases hchain with
    | @bottom _ layer hlayer hquiet =>
      have hloader : layers.loaderAt? place = some layer.loader := loaderAt?_of_some hlayer
      obtain ⟨hanswer, hwithin⟩ := @askResource_of_quiet layers place layer
        (ResourceName.normalize name) hlayer (callWithin depth) hquiet
      obtain ⟨hreply, loader, hlayers⟩ := findResource_of_unrecalled hlayer (callWithin depth)
        ((locationMemoAt?_of_some _ hloader).symm.trans (hunlocated place List.mem_cons_self)) rfl
        ((hwithin.others place List.not_mem_nil).trans hloader)
      refine ⟨?_, hwithin.of_setLoader_or hlayers⟩
      rw [hreply, hanswer, List.findSome?_singleton, ownLocationAt?_of_some _ hloader]
  | cons parent below ih =>
    intro place depth name hchain hunlocated hdepth
    cases hchain with
    | @stacked _ _ _ layer _ hlayer hhost hnew hparent =>
      obtain ⟨depth, rfl⟩ : ∃ less, depth = less + 1 :=
        Nat.exists_eq_succ_of_ne_zero (by rintro rfl; exact Nat.not_succ_le_zero _ hdepth)
      have hloader : layers.loaderAt? place = some layer.loader := loaderAt?_of_some hlayer
      obtain ⟨hanswer, hwithin⟩ := ih depth (ResourceName.normalize name) hparent
        (by
          rw [ResourceName.normalize_normalize]
          exact fun p hp => hunlocated p (List.mem_cons_of_mem place hp))
        (Nat.le_of_succ_le_succ hdepth)
      -- Every loader normalizes the name again, which changes nothing.
      rw [ResourceName.normalize_normalize] at hanswer
      rw [← askResource_of_parent hlayer depth hhost] at hanswer hwithin
      obtain ⟨hreply, loader, hlayers⟩ := findResource_of_unrecalled hlayer (callWithin (depth + 1))
        ((locationMemoAt?_of_some _ hloader).symm.trans (hunlocated place List.mem_cons_self)) rfl
        ((hwithin.others place hnew).trans hloader)
      refine ⟨?_, hwithin.of_setLoader_or hlayers⟩
      rw [hreply, hanswer, List.findSome?_cons (a := place), ownLocationAt?_of_some _ hloader]
      cases layer.loader.sources.locate? layers.volume (ResourceName.normalize name) <;> rfl

/-- All locations that a chain has: those of each loader from the top on, and then those of the
host. -/
theorem findResources_chain {layers : Layers} {below : List Nat} {host : Host} :
    ∀ {place : Nat} (depth : Nat) (name : String), Chain layers place below host →
      (∀ p ∈ place :: below, layers.listMemoAt? (ResourceName.normalize name) p = none) →
      below.length ≤ depth →
        (findResources (callWithin depth) layers place name).reply =
            (place :: below).flatMap (layers.ownLocationsAt (ResourceName.normalize name)) ++
              host.locations (ResourceName.normalize name) ∧
          layers.Within (place :: below)
            (findResources (callWithin depth) layers place name).layers := by
  induction below with
  | nil =>
    -- The last loader asks the host, which answers from its own table.
    intro place depth name hchain hunlisted _
    cases hchain with
    | @bottom _ layer hlayer hquiet =>
      have hloader : layers.loaderAt? place = some layer.loader := loaderAt?_of_some hlayer
      obtain ⟨hanswer, hwithin⟩ := @askResources_of_quiet layers place layer
        (ResourceName.normalize name) hlayer (callWithin depth) hquiet
      obtain ⟨hreply, loader, hlayers⟩ := findResources_of_unrecalled hlayer (callWithin depth)
        ((listMemoAt?_of_some _ hloader).symm.trans (hunlisted place List.mem_cons_self)) rfl
        ((hwithin.others place List.not_mem_nil).trans hloader)
      refine ⟨?_, hwithin.of_setLoader_or (.inr hlayers)⟩
      rw [hreply, hanswer, List.flatMap_singleton, ownLocationsAt_of_some _ hloader]
  | cons parent below ih =>
    -- A name is spelled in one way after the first loader, so the parents look for
    -- what the first one looks for.
    intro place depth name hchain hunlisted hdepth
    cases hchain with
    | @stacked _ _ _ layer _ hlayer hhost hnew hparent =>
      obtain ⟨depth, rfl⟩ : ∃ less, depth = less + 1 :=
        Nat.exists_eq_succ_of_ne_zero (by rintro rfl; exact Nat.not_succ_le_zero _ hdepth)
      have hloader : layers.loaderAt? place = some layer.loader := loaderAt?_of_some hlayer
      obtain ⟨hanswer, hwithin⟩ := ih depth (ResourceName.normalize name) hparent
        (by
          rw [ResourceName.normalize_normalize]
          exact fun p hp => hunlisted p (List.mem_cons_of_mem place hp))
        (Nat.le_of_succ_le_succ hdepth)
      rw [ResourceName.normalize_normalize] at hanswer
      rw [← askResources_of_parent hlayer depth hhost] at hanswer hwithin
      obtain ⟨hreply, loader, hlayers⟩ := findResources_of_unrecalled hlayer
        (callWithin (depth + 1))
        ((listMemoAt?_of_some _ hloader).symm.trans (hunlisted place List.mem_cons_self)) rfl
        ((hwithin.others place hnew).trans hloader)
      refine ⟨?_, hwithin.of_setLoader_or (.inr hlayers)⟩
      rw [hreply, hanswer, List.flatMap_cons (x := place), List.append_assoc,
        ownLocationsAt_of_some _ hloader]

/-! ## Calls at the top -/

/-- What a load at the top of a chain comes to. The cases are about where the unit is, from the host
at the end up to the loader at the top. -/
structure LoadsAsOne (layers : Layers) (host : Host) (name : String) (places : List Nat)
    (loaded : Step Reply) : Prop where
  /-- The host comes first, and then every loader has its unit. -/
  hosted : ∀ unit, host.unit? name = some unit →
    loaded.reply = .unit (.ok unit) ∧ ∀ p ∈ places, loaded.layers.bindingAt? p name = some unit
  /-- Then comes the loader that is furthest down of those that find the unit in their own sources.
  It and those above have its unit, and those below have missed. -/
  found : host.unit? name = none → ∀ above source deeper unit, places = above ++ source :: deeper →
    layers.ownUnitAt? source name = some unit → (∀ p ∈ deeper, layers.ownUnitAt? p name = none) →
      loaded.reply = .unit (.ok unit) ∧
        (∀ p ∈ above ++ [source], loaded.layers.bindingAt? p name = some unit) ∧
        ∀ p ∈ deeper, layers.MissedAt name loaded.layers p
  /-- If there is none, all have missed. -/
  missed : host.unit? name = none → (∀ p ∈ places, layers.ownUnitAt? p name = none) →
    (∃ miss, loaded.reply = .unit (.error (.unitNotFound miss)) ∧ miss.value.name = name) ∧
      ∀ p ∈ places, layers.MissedAt name loaded.layers p

private theorem eq_ok_of_toOption {α ε : Type} {result : Except ε α} {value : α}
    (h : result.toOption = some value) : result = .ok value := by
  cases result with
  | ok _ => exact congrArg Except.ok (Option.some.inj h)
  | error _ => cases h

theorem loadsAsOne_of_chain {layers : Layers} {top : Nat} {below : List Nat} {host : Host}
    {name : String} (hchain : Chain layers top below host)
    (hunknown : ∀ p ∈ top :: below, layers.UnknownAt p name) (wantsLink : Bool) :
    layers.LoadsAsOne host name (top :: below) (layers.call top (.load name wantsLink)) := by
  have hfresh := hchain.fresh hunknown
  obtain ⟨⟨loader, hloader, hreply⟩, hpassed⟩ := load_chain hchain hfresh.unrecalled wantsLink
  have hwhole : ∀ unit, layers.answerOf host name (top :: below) = some unit →
      (layers.call top (.load name wantsLink)).reply = .unit (.ok unit) := by
    intro unit hanswer
    rw [answerOf_cons host name below hloader] at hanswer
    rw [hreply, eq_ok_of_toOption hanswer]
  constructor
  case hosted =>
    intro unit hunit
    refine ⟨hwhole unit (answerOf_of_host hfresh hunit), ?_⟩
    intro p hp
    obtain ⟨above, deeper, hplaces⟩ := List.append_of_mem hp
    have hdeeper : layers.Fresh (p :: deeper) name := (hplaces ▸ hfresh).of_append
    exact hpassed.bound_of_answer hfresh hplaces (answerOf_of_host hdeeper.tail hunit)
  case found =>
    intro hnone above source deeper unit hplaces hsource hdeeper
    refine ⟨hwhole unit ?_, ?_, ?_⟩
    · rw [hplaces] at hfresh ⊢
      exact answerOf_of_own hfresh hnone hdeeper hsource
    · intro p hp
      -- Those above are answered by the source, which finds the unit itself.
      rcases List.mem_append.mp hp with hp | hp
      · obtain ⟨first, second, rfl⟩ := List.append_of_mem hp
        rw [List.append_assoc, List.cons_append] at hplaces
        have hrest : layers.Fresh (p :: (second ++ source :: deeper)) name :=
          (hplaces ▸ hfresh).of_append
        exact hpassed.bound_of_answer hfresh hplaces
          (answerOf_of_own hrest.tail hnone hdeeper hsource)
      · obtain rfl := List.mem_singleton.mp hp
        have hrest : layers.Fresh (p :: deeper) name := (hplaces ▸ hfresh).of_append
        exact hpassed.bound_of_own hfresh hplaces
          (answerOf_of_nothing hrest.tail hnone hdeeper) hsource
    · intro p hp
      obtain ⟨first, second, rfl⟩ := List.append_of_mem hp
      rw [← List.cons_append, ← List.append_assoc] at hplaces
      have hrest : layers.Fresh (p :: second) name := (hplaces ▸ hfresh).of_append
      have hsecond : ∀ q ∈ second, layers.ownUnitAt? q name = none :=
        fun q hq => hdeeper q (List.mem_append_right first (List.mem_cons_of_mem p hq))
      exact hpassed.missed hfresh hplaces (answerOf_of_nothing hrest.tail hnone hsecond)
        (hdeeper p hp)
  case missed =>
    intro hnone hown
    have hbelow : layers.answerOf host name below = none :=
      answerOf_of_nothing hfresh.tail hnone fun p hp => hown p (List.mem_cons_of_mem top hp)
    refine ⟨?_, ?_⟩
    · have hnothing := (ownUnitAt?_of_some name hloader).symm.trans (hown top List.mem_cons_self)
      have hknown : loader.Unknown name := by
        obtain ⟨known, hknown, hunknown⟩ := hfresh top List.mem_cons_self
        rwa [Option.some.inj (hloader.symm.trans hknown)]
      obtain ⟨miss, hmiss, hfault, -⟩ := Loader.resolve_of_nothing hknown hnothing
      refine ⟨miss, ?_, by rw [hmiss]; rfl⟩
      rw [hreply, hbelow, hfault]
    · intro p hp
      obtain ⟨above, deeper, hplaces⟩ := List.append_of_mem hp
      have hrest : layers.Fresh (p :: deeper) name := (hplaces ▸ hfresh).of_append
      refine hpassed.missed hfresh hplaces (answerOf_of_nothing hrest.tail hnone ?_) (hown p hp)
      exact fun q hq =>
        hown q (hplaces ▸ List.mem_append_right above (List.mem_cons_of_mem p hq))

/-- The first location that a chain has: that of the first loader from the top on that has one, or
else that of the host. -/
theorem resource_of_chain {layers : Layers} {top : Nat} {below : List Nat} {host : Host}
    (hchain : Chain layers top below host) {name : String}
    (hunlocated : ∀ p ∈ top :: below,
      layers.locationMemoAt? (ResourceName.normalize name) p = none) :
    (layers.call top (.resource name)).reply =
      .location (((top :: below).findSome?
        (layers.ownLocationAt? (ResourceName.normalize name))).or
          (host.location? (ResourceName.normalize name))) := by
  obtain ⟨depth, hdeep, hdepth⟩ := hchain.exists_depth
  rw [hdepth]
  exact congrArg Reply.location (findResource_chain depth name hchain hunlocated hdeep).1

/-- A chain of loaders behaves as one layered loader, for a unit that none of them knows and for a
resource that none of them remembers. -/
theorem chain_is_one_loader {layers : Layers} {top : Nat} {below : List Nat} {host : Host}
    (hchain : Chain layers top below host) :
    (∀ name wantsLink, (∀ p ∈ top :: below, layers.UnknownAt p name) →
      layers.LoadsAsOne host name (top :: below) (layers.call top (.load name wantsLink))) ∧
    (∀ name, (∀ p ∈ top :: below, layers.listMemoAt? (ResourceName.normalize name) p = none) →
      (layers.call top (.resources name)).reply =
        .locations ((top :: below).flatMap (layers.ownLocationsAt (ResourceName.normalize name)) ++
          host.locations (ResourceName.normalize name))) ∧
    (∀ name, (∀ p ∈ top :: below, layers.locationMemoAt? (ResourceName.normalize name) p = none) →
      (layers.call top (.resource name)).reply =
        .location (((top :: below).findSome?
          (layers.ownLocationAt? (ResourceName.normalize name))).or
            (host.location? (ResourceName.normalize name)))) := by
  refine ⟨?_, ?_, ?_⟩
  · intro name wantsLink hunknown
    exact loadsAsOne_of_chain hchain hunknown wantsLink
  · intro name hunlisted
    obtain ⟨depth, hdeep, hdepth⟩ := hchain.exists_depth
    rw [hdepth]
    exact congrArg Reply.locations (findResources_chain depth name hchain hunlisted hdeep).1
  · intro name hunlocated
    exact resource_of_chain hchain hunlocated

/-- Three loaders over a host that has two locations of a resource. The lowest loader remembers no
misses. The two others have a directory each, with a unit of the same name and the same resource. -/
def tiers : Layers :=
  Layers.after
    ⟨{ root := .directory [("lib", .directory [("a.unit", .file 0), ("t.txt", .file 0)]),
        ("more", .directory [("a.unit", .file 1), ("t.txt", .file 0)])]
       contents := #[⟨#[1]⟩, ⟨#[2]⟩] },
      [⟨.create 0 { remembersMisses := false } {},
        .embedder { resources := [("t.txt", [.hosted "first", .hosted "second"])] }⟩,
        ⟨.create 1 {} {}, .loader 0⟩, ⟨.create 2 {} {}, .loader 1⟩]⟩
    [(1, .registerDirectory "/lib"), (2, .registerDirectory "/more")]

/-- The unit comes from the loader in the middle, and the resource from the top. -/
theorem chain_is_one_loader_three :
    let loaded := tiers.call 2 (.load "a" false)
    let unit : Shared CodeUnit := ⟨⟨1, 1⟩, "a", ⟨#[1]⟩, .directory "/lib", ⟨⟨1, 0⟩, Domain.default⟩⟩
    (loaded.reply = .unit (.ok unit) ∧
      loaded.layers.bindingAt? 2 "a" = some unit ∧ loaded.layers.bindingAt? 1 "a" = some unit ∧
      loaded.layers.bindingAt? 0 "a" = none ∧ loaded.layers.missAt? 0 "a" = none) ∧
    (tiers.call 2 (.resources "/t.txt")).reply = .locations [.file "/more/t.txt",
      .file "/lib/t.txt", .hosted "first", .hosted "second"] ∧
    (tiers.call 2 (.resource "t.txt")).reply = .location (some (.file "/more/t.txt")) := by
  have hquiet : Host.IsQuiet
      (.embedder { resources := [("t.txt", [.hosted "first", .hosted "second"])] }) :=
    fun habit hhabit => absurd hhabit List.not_mem_nil
  have hchain : Chain tiers 2 [1, 0] _ :=
    .stacked rfl rfl (by decide) (.stacked rfl rfl (by decide) (.bottom rfl hquiet))
  have hall : ∀ {holds : Nat → Prop}, holds 2 → holds 1 → holds 0 → ∀ p ∈ [2, 1, 0], holds p := by
    intro holds h₂ h₁ h₀
    simp [h₂, h₁, h₀]
  obtain ⟨hunits, hlists, hfirsts⟩ := chain_is_one_loader hchain
  intro loaded unit
  refine ⟨?_, ?_, ?_⟩
  · have hown : tiers.ownUnitAt? 1 "a" = some unit := by cbv
    have hbelow : ∀ p ∈ [0], tiers.ownUnitAt? p "a" = none :=
      List.forall_mem_singleton.mpr (by cbv)
    have hunknown : ∀ p ∈ [2, 1, 0], tiers.UnknownAt p "a" :=
      hall ⟨by cbv, by cbv⟩ ⟨by cbv, by cbv⟩ ⟨by cbv, by cbv⟩
    obtain ⟨hreply, hbound, hmissed⟩ :=
      (hunits "a" false hunknown).found rfl [2] 1 [0] unit rfl hown hbelow
    obtain ⟨hunbound, hforgot⟩ := hmissed 0 List.mem_cons_self
    have hforbidden : tiers.allowsMissAt 0 "a" = false := by cbv
    refine ⟨hreply, hbound 2 (by simp), hbound 1 (by simp), hunbound, ?_⟩
    exact Option.not_isSome_iff_eq_none.mp (Bool.eq_false_iff.mp (hforgot.trans hforbidden))
  · rw [hlists "/t.txt" (hall (by cbv) (by cbv) (by cbv))]
    cbv
  · rw [hfirsts "t.txt" (hall (by cbv) (by cbv) (by cbv))]
    cbv

end LayeredUnits.Layers
