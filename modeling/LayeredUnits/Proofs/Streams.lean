import Mathlib
import LayeredUnits.Proofs.Locations

/-!
# Opening what was found

To open a resource is to look it up and then to open the location. For an entry
of an archive the location says the origin of the archive and the name of the
entry, and so the archive is looked for again: by its origin, in the loader that
was called and then in those below it. If each archive goes by an origin of its
own this gives the archive that was found. If an archive that comes before goes
by the same origin it is that one which is opened, whether it has the entry or
not.

* `findResource_same` — a lookup changes neither the sources of a loader nor the
  loaders that are hosts. The induction is on how deep calls nest.
* `openLocation_chain` — an entry is opened in the first archive of a chain that
  goes by the origin. The induction is on the chain.
* `stream_of_absent`, `stream_ne_absent` — an archive says that it has no such
  entry if it has none, and not if it has the file.
* `stream_of_found_entry` — what is opened when an entry of an archive is found.
-/

namespace LayeredUnits

/-! ## Entries of one archive -/

namespace Archive

/-- The stream of an entry. It is read whole before it is handed out. -/
def stream (archive : Archive) (volume : Volume) (name : String) : Except Fault (Option Stream) :=
  (archive.resourceBytes volume name).map fun bytes => some ⟨bytes, none⟩

theorem stream_of_absent {archive : Archive} {name : String} (volume : Volume)
    (h : ∀ record ∈ archive.entries, record.name ≠ name) :
    archive.stream volume name =
      .error (.archive ("opening " ++ archive.entryText name) .absent) := by
  have hnone : archive.entries.find? (·.name == name) = none := by
    rw [List.find?_eq_none]
    intro record hrecord
    simpa using h record hrecord
  simp only [stream, resourceBytes_eq, openEntry, Zip.entryBlob, hnone]
  rfl

theorem stream_ne_absent {archive : Archive} {name : String} (volume : Volume)
    (h : archive.hasFile name = true) (what : String) :
    archive.stream volume name ≠ .error (.archive what .absent) := by
  have hbytes := resourceBytes_ne_absent volume h what
  unfold stream
  cases hread : archive.resourceBytes volume name with
  | ok bytes => exact fun habsent => nomatch habsent
  | error fault =>
    intro habsent
    cases habsent
    exact hbytes hread

end Archive

namespace Sources

/-- The archive is where these sources have a file first: it comes after archives that do not have
the file, and no directory has it. -/
structure HeldBy (sources : Sources) (volume : Volume) (name : String) (before : List Archive)
    (archive : Archive) : Prop where
  undirected : ∀ directory ∈ sources.directories, directory.resourcePath? volume name = none
  among : ∃ rest, sources.archives = before ++ archive :: rest
  first : ∀ other ∈ before, other.hasFile name = false
  holds : archive.hasFile name = true

theorem HeldBy.locate?_eq {sources : Sources} {volume : Volume} {name : String}
    {before : List Archive} {archive : Archive} (h : sources.HeldBy volume name before archive) :
    sources.locate? volume name = some (.entry archive.origin name) := by
  obtain ⟨rest, harchives⟩ := h.among
  have hnone : (sources.directories.findSome? fun directory =>
      directory.resourcePath? volume name) = none := List.findSome?_eq_none_iff.mpr h.undirected
  have hbefore : before.findSome? (inArchive? name) = none := by
    rw [List.findSome?_eq_none_iff]
    intro other hother
    unfold inArchive?
    rw [h.first other hother]
    rfl
  have hthere : inArchive? name archive = some (.entry archive.origin name) := by
    unfold inArchive?
    rw [h.holds]
    rfl
  unfold locate?
  rw [hnone, harchives, List.findSome?_append, hbefore, List.findSome?_cons, hthere]
  rfl

end Sources

theorem Loader.sources_rememberResource (loader : Loader) (name : String)
    (found : Option Location) :
    (loader.rememberResource name found).loader.sources = loader.sources := by
  unfold rememberResource
  split <;> rfl

namespace Layers

open ResourceName (normalize)

/-! ## A lookup leaves the way to an archive as it is -/

/-- The same loaders with the same sources, one over the other in the same way. What they remember
may differ, and what a program has noted. -/
structure SameSources (layers after : Layers) : Prop where
  volume : after.volume = layers.volume
  length : after.layers.length = layers.layers.length
  layer : ∀ (p : Nat) (layer : Layer), layers.layers[p]? = some layer →
    ∃ layer', after.layers[p]? = some layer' ∧ layer'.loader.sources = layer.loader.sources ∧
      ∀ parent, layer.host = .loader parent → layer'.host = .loader parent

namespace SameSources

variable {first second third layers : Layers} {index : Nat}

theorem refl (layers : Layers) : SameSources layers layers :=
  ⟨rfl, rfl, fun _ layer hlayer => ⟨layer, hlayer, rfl, fun _ hhost => hhost⟩⟩

theorem trans (h₁ : SameSources first second) (h₂ : SameSources second third) :
    SameSources first third := by
  refine ⟨h₂.volume.trans h₁.volume, h₂.length.trans h₁.length, ?_⟩
  intro p layer hlayer
  obtain ⟨layer', hlayer', hsources, hparents⟩ := h₁.layer p layer hlayer
  obtain ⟨layer'', hlayer'', hsources', hparents'⟩ := h₂.layer p layer' hlayer'
  exact ⟨layer'', hlayer'', hsources'.trans hsources,
    fun parent hhost => hparents' parent (hparents parent hhost)⟩

/-- One layer is changed, but neither its sources nor the loader that is its host. -/
theorem of_modify {change : Layer → Layer}
    (hsources : ∀ layer, layers.layers[index]? = some layer →
      (change layer).loader.sources = layer.loader.sources)
    (hparents : ∀ layer, layers.layers[index]? = some layer →
      ∀ parent, layer.host = .loader parent → (change layer).host = .loader parent) :
    SameSources layers { layers with layers := layers.layers.modify index change } := by
  refine ⟨rfl, List.length_modify .., ?_⟩
  intro p layer hlayer
  rw [List.getElem?_modify, hlayer]
  by_cases hp : index = p
  · subst hp
    exact ⟨change layer, by simp, hsources layer hlayer, hparents layer hlayer⟩
  · exact ⟨layer, by simp [hp], rfl, fun _ hhost => hhost⟩

theorem setLoader {layer : Layer} {loader : Loader} (hlayer : layers.layers[index]? = some layer)
    (hsources : loader.sources = layer.loader.sources) :
    SameSources layers (layers.setLoader index loader) := by
  refine of_modify ?_ fun _ _ _ hhost => hhost
  intro other hother
  rw [← Option.some.inj (hlayer.symm.trans hother)]
  exact hsources

/-- A program is no loader, and is not taken for one after it has made a note. -/
theorem setHost {program : Embedder} (host : Host)
    (hhost : layers.hostAt index = .embedder program) :
    SameSources layers (layers.setHost index host) := by
  refine of_modify (fun _ _ => rfl) ?_
  intro layer hlayer parent hparent
  rw [hostAt_of_some hlayer, hparent] at hhost
  cases hhost

end SameSources

theorem askResource_same_of {call : Caller} {layers : Layers} {index : Nat} {name : String}
    (hparent : ∀ parent, layers.hostAt index = .loader parent →
      SameSources layers (call layers parent (.resource name)).layers) :
    SameSources layers (askResource call layers index name).layers := by
  unfold askResource
  split
  · next parent hhost =>
    have hcalled := hparent parent hhost
    split <;> rename_i heq <;> rw [heq] at hcalled <;> exact hcalled
  · next program hhost => exact .setHost _ hhost
  · exact .refl layers

theorem findResource_same_of {call : Caller} {layers : Layers} {index : Nat} {name : String}
    (hasked : SameSources layers (askResource call layers index (normalize name)).layers) :
    SameSources layers (findResource call layers index name).layers := by
  obtain ⟨asked, hhost, hafter⟩ := findResource_cases call layers index name
  have hsame : SameSources layers asked := by
    rcases hhost with rfl | rfl
    · exact .refl _
    · exact hasked
  rcases hafter with hafter | ⟨layer, found, hlayer, hafter⟩ <;> rw [hafter]
  · exact hsame
  · exact hsame.trans (.setLoader hlayer (Loader.sources_rememberResource _ _ found))

/-- A lookup of a resource leaves all sources as they are, so where a location leads can be said
before the lookup. -/
theorem findResource_same (depth : Nat) : ∀ (layers : Layers) (index : Nat) (name : String),
    SameSources layers (findResource (callWithin depth) layers index name).layers := by
  induction depth with
  | zero =>
    intro layers index name
    exact findResource_same_of (askResource_same_of fun _ _ => .refl layers)
  | succ depth ih =>
    intro layers index name
    exact findResource_same_of (askResource_same_of fun parent _ => ih layers parent _)

/-! ## The archive that an origin leads to -/

/-- The archives of the loader at a place, in the order of registration, which decides between
archives of one origin. -/
def archivesAt (layers : Layers) (place : Nat) : List Archive :=
  ((layers.loaderAt? place).map (·.sources.archives)).getD []

/-- The first archive on the way through these places that goes by an origin. -/
def archiveFor? (layers : Layers) (places : List Nat) (origin : String) : Option Archive :=
  (places.flatMap layers.archivesAt).find? (·.origin == origin)

theorem archivesAt_of_some {layers : Layers} {place : Nat} {layer : Layer}
    (h : layers.layers[place]? = some layer) :
    layers.archivesAt place = layer.loader.sources.archives := by
  unfold archivesAt
  rw [loaderAt?_of_some h]
  rfl

theorem archiveFor?_cons {layers : Layers} {place : Nat} {layer : Layer}
    (h : layers.layers[place]? = some layer) (below : List Nat) (origin : String) :
    layers.archiveFor? (place :: below) origin =
      (layer.loader.sources.archives.find? (·.origin == origin)).or
        (layers.archiveFor? below origin) := by
  unfold archiveFor?
  rw [List.flatMap_cons, List.find?_append, archivesAt_of_some h]

/-- What a loader opens itself, and what it leaves to its host: an entry is its own matter if an
archive of that origin is registered. -/
theorem openLocation_succ {layers : Layers} {place : Nat} {layer : Layer} (origin name : String)
    (fuel : Nat) (h : layers.layers[place]? = some layer) :
    (∀ archive, layer.loader.sources.archives.find? (·.origin == origin) = some archive →
      (layers.openLocation (.entry origin name) (fuel + 1) place).reply =
        archive.stream layers.volume name) ∧
    (∀ parent, layer.loader.sources.archives.find? (·.origin == origin) = none →
      layer.host = .loader parent →
        layers.openLocation (.entry origin name) (fuel + 1) place =
          layers.openLocation (.entry origin name) fuel parent) := by
  refine ⟨?_, ?_⟩
  · intro archive harchive
    simp only [openLocation, h, Loader.openLocation, harchive, Archive.stream]
    cases archive.resourceBytes layers.volume name <;> rfl
  · intro parent harchive hhost
    simp only [openLocation, h, Loader.openLocation, harchive, hhost]

/-- An entry is opened in the first archive of a chain that goes by the origin. -/
theorem openLocation_chain {layers after : Layers} {place : Nat} {below : List Nat} {host : Host}
    (hchain : Chain layers place below host) (hsame : SameSources layers after)
    {origin : String} {archive : Archive} (name : String) :
    ∀ fuel, below.length < fuel → layers.archiveFor? (place :: below) origin = some archive →
      (after.openLocation (.entry origin name) fuel place).reply =
        archive.stream layers.volume name := by
  induction hchain with
  | @bottom place layer hlayer hquiet =>
    intro fuel hfuel harchive
    obtain ⟨fuel, rfl⟩ := Nat.exists_eq_succ_of_ne_zero (Nat.ne_of_gt hfuel)
    obtain ⟨layer', hlayer', hsources, -⟩ := hsame.layer place layer hlayer
    have hopens := (openLocation_succ origin name fuel hlayer').1 archive
    rw [archiveFor?_cons hlayer [] origin] at harchive
    have hnone : layers.archiveFor? [] origin = none := rfl
    rw [hnone, Option.or_none] at harchive
    rw [hsources, hsame.volume] at hopens
    exact hopens harchive
  | @stacked place parent below layer host hlayer hhost hnew hparent ih =>
    intro fuel hfuel harchive
    obtain ⟨fuel, rfl⟩ := Nat.exists_eq_succ_of_ne_zero (Nat.ne_zero_of_lt hfuel)
    obtain ⟨layer', hlayer', hsources, hparents⟩ := hsame.layer place layer hlayer
    obtain ⟨hopens, hdefers⟩ := openLocation_succ origin name fuel hlayer'
    rw [archiveFor?_cons hlayer (parent :: below) origin] at harchive
    rw [hsources] at hopens hdefers
    cases hown : layer.loader.sources.archives.find? (·.origin == origin) with
    | some own =>
      rw [hown, Option.some_or] at harchive
      rw [hopens own hown, hsame.volume, Option.some.inj harchive]
    | none =>
      -- The archives of this loader go by other origins, so its parent is asked.
      rw [hown, Option.none_or] at harchive
      rw [hdefers parent hown (hparents parent hhost)]
      exact ih fuel (Nat.lt_of_succ_lt_succ hfuel) harchive

/-! ## Streams -/

theorem openResource_reply (call : Caller) {layers : Layers} {index : Nat} {name : String}
    {location : Location} (h : (findResource call layers index name).reply = some location) :
    (perform call layers index (.openResource name)).reply =
      .stream ((findResource call layers index name).layers.openLocation location
        (findResource call layers index name).layers.layers.length index).reply := by
  unfold perform
  dsimp only
  generalize findResource call layers index name = looked at h ⊢
  obtain ⟨reply, layers', events⟩ := looked
  cases h
  rfl

/-- An entry that was found is opened in the first archive that goes by the origin, however it was
found. -/
theorem openResource_of_location {layers : Layers} {top : Nat} {below : List Nat} {host : Host}
    (hchain : Chain layers top below host) {name origin entry : String} {archive : Archive}
    (hfound : (layers.call top (.resource name)).reply = .location (some (.entry origin entry)))
    (harchive : layers.archiveFor? (top :: below) origin = some archive) :
    (layers.call top (.openResource name)).reply =
      .stream (archive.stream layers.volume entry) := by
  obtain ⟨depth, -, hdepth⟩ := hchain.exists_depth
  rw [hdepth] at hfound ⊢
  have hlocated : (findResource (callWithin depth) layers top name).reply =
      some (.entry origin entry) := Reply.location.inj hfound
  have hsame := findResource_same depth layers top name
  -- A chain has no more loaders than there are, and the lookup has left as many.
  have hfuel : below.length <
      (findResource (callWithin depth) layers top name).layers.layers.length := by
    rw [hsame.length]
    exact Nat.lt_of_succ_le hchain.length_le
  have hopened := openLocation_chain hchain hsame entry _ hfuel harchive
  exact (openResource_reply _ hlocated).trans (congrArg Reply.stream hopened)

/-- What calls for a resource come to that this archive holds, which comes after those `before` in a
loader that is reached through the places `above`. -/
structure StreamsFrom (layers : Layers) (places above : List Nat) (name : String)
    (before : List Archive) (top : Nat) (archive : Archive) : Prop where
  /-- The entry is found if nothing is remembered and no loader comes before that has one. -/
  found : (∀ p ∈ places, layers.locationMemoAt? (normalize name) p = none) →
    (∀ p ∈ above, layers.ownLocationAt? (normalize name) p = none) →
    (layers.call top (.resource name)).reply =
      .location (some (.entry archive.origin (normalize name)))
  /-- What is opened is the entry of this name in the first archive that goes by the origin. -/
  opened : (layers.call top (.resource name)).reply =
      .location (some (.entry archive.origin (normalize name))) →
    (layers.call top (.openResource name)).reply = .stream
      ((((above.flatMap layers.archivesAt ++ before).find? (·.origin == archive.origin)).getD
        archive).stream layers.volume (normalize name))
  /-- If that archive has no such entry, it fails as one that has nothing to be found. -/
  closed : (layers.call top (.resource name)).reply =
      .location (some (.entry archive.origin (normalize name))) →
    ∀ first, (above.flatMap layers.archivesAt ++ before).find? (·.origin == archive.origin) =
        some first → (∀ record ∈ first.entries, record.name ≠ normalize name) →
      (layers.call top (.openResource name)).reply =
        .stream (.error (.archive ("opening " ++ first.entryText (normalize name)) .absent))
  /-- If none before goes by it, this is the entry that was found, and it is there. -/
  own : (layers.call top (.resource name)).reply =
      .location (some (.entry archive.origin (normalize name))) →
    (∀ other ∈ above.flatMap layers.archivesAt ++ before, other.origin ≠ archive.origin) →
    (layers.call top (.openResource name)).reply =
        .stream (archive.stream layers.volume (normalize name)) ∧
      ∀ what, archive.stream layers.volume (normalize name) ≠ .error (.archive what .absent)

/-- An archive comes after those in the loaders that are passed, and those before it. -/
theorem archiveFor?_of_among {layers : Layers} {above deeper : List Nat} {level : Nat}
    {loader : Loader} (hloader : layers.loaderAt? level = some loader)
    {before rest : List Archive} {archive : Archive}
    (hamong : loader.sources.archives = before ++ archive :: rest) :
    layers.archiveFor? (above ++ level :: deeper) archive.origin =
      some (((above.flatMap layers.archivesAt ++ before).find?
        (·.origin == archive.origin)).getD archive) := by
  have hlevel : layers.archivesAt level = before ++ archive :: rest := by
    unfold archivesAt
    rw [hloader]
    exact hamong
  unfold archiveFor?
  rw [List.flatMap_append, List.flatMap_cons, hlevel, List.append_assoc, List.cons_append,
    ← List.append_assoc, List.find?_append, List.find?_cons, beq_self_eq_true]
  cases (above.flatMap layers.archivesAt ++ before).find? (·.origin == archive.origin) <;> rfl

/-- If an entry of an archive is found, the archive that is opened is the first one on the way that
goes by the same origin. It is the one that was found if no earlier one does. -/
theorem stream_of_found_entry {layers : Layers} {top : Nat} {below : List Nat} {host : Host}
    (hchain : Chain layers top below host) {above deeper : List Nat} {level : Nat}
    (hplaces : top :: below = above ++ level :: deeper) {loader : Loader}
    (hloader : layers.loaderAt? level = some loader) {name : String} {before : List Archive}
    {archive : Archive}
    (hheld : loader.sources.HeldBy layers.volume (normalize name) before archive) :
    StreamsFrom layers (top :: below) above name before top archive := by
  obtain ⟨rest, hamong⟩ := hheld.among
  have hfor := @archiveFor?_of_among layers above deeper level loader hloader before rest archive
    hamong
  rw [← hplaces] at hfor
  have hopened := fun hfound =>
    @openResource_of_location layers top below host hchain name _ (normalize name) _ hfound hfor
  refine ⟨?_, hopened, ?_, ?_⟩
  · -- No loader above has a location, so the first one of the chain is that of this entry.
    intro hunlocated hnearest
    have habove : above.findSome? (layers.ownLocationAt? (normalize name)) = none :=
      List.findSome?_eq_none_iff.mpr hnearest
    rw [resource_of_chain hchain hunlocated, hplaces, List.findSome?_append, habove,
      List.findSome?_cons, ownLocationAt?_of_some _ hloader, hheld.locate?_eq]
    rfl
  · -- An earlier archive of that origin is opened instead, and has no such entry.
    intro hfound first hfirst habsent
    have hstream := hopened hfound
    rw [hfirst, Option.getD_some, Archive.stream_of_absent layers.volume habsent] at hstream
    exact hstream
  · -- No earlier archive goes by that origin, so the one that was found is the one that is opened.
    intro hfound hunique
    have hnone : (above.flatMap layers.archivesAt ++ before).find?
        (·.origin == archive.origin) = none := by
      rw [List.find?_eq_none]
      intro other hother
      simpa using hunique other hother
    have hstream := hopened hfound
    rw [hnone] at hstream
    exact ⟨hstream, fun what => Archive.stream_ne_absent layers.volume hheld.holds what⟩

/-- An archive without entries. It can be registered under any origin, and then stands in the way of
another one. -/
def hollow : Image := .held ⟨#[80, 75, 5, 6, 0, 0, 0, 0, 0, 0, 0, 0, 0, 0, 0, 0, 0, 0, 0, 0, 0, 0]⟩

/-- Two loaders with an archive each. The one below has a resource, at the origin `b`, and the one
above has nothing in an archive at this origin. -/
def covered (origin : String) : Layers :=
  Layers.after ⟨Scene.desk.volume, [⟨.create 0 {} {}, .none⟩, ⟨.create 1 {} {}, .loader 0⟩]⟩
    [(0, .registerImage Scene.bundle "b"), (1, .registerImage hollow origin)]

set_option maxRecDepth 20000 in
private theorem archivesAt_covered (origin : String) (h : origin ∈ ["b", "c"]) :
    ∃ archive, (covered origin).archivesAt 0 = [archive] ∧ archive.origin = "b" ∧
      archive.hasFile "t.txt" = true ∧
      archive.stream (covered origin).volume "t.txt" = .ok (some ⟨⟨#[7]⟩, none⟩) := by
  have hdata : ∀ origin ∈ ["b", "c"], ((covered origin).archivesAt 0).map (fun archive =>
      (archive.origin, archive.hasFile "t.txt", archive.stream (covered origin).volume "t.txt")) =
        [("b", true, .ok (some ⟨⟨#[7]⟩, none⟩))] := by
    intro origin horigin
    rcases List.mem_cons.mp horigin with rfl | horigin
    · cbv
    · obtain rfl := List.mem_singleton.mp horigin
      cbv
  obtain ⟨archive, harchives, hdata⟩ := List.map_eq_singleton_iff.mp (hdata origin h)
  obtain ⟨horigin, hrest⟩ := Prod.mk.inj hdata
  obtain ⟨hfile, hstream⟩ := Prod.mk.inj hrest
  exact ⟨archive, harchives, horigin, hfile, hstream⟩

set_option maxRecDepth 20000 in
private theorem fresh_covered :
    (covered "c").locationMemoAt? "t.txt" 1 = none ∧
      (covered "c").locationMemoAt? "t.txt" 0 = none ∧
      (covered "c").ownLocationAt? "t.txt" 1 = none ∧
      ((covered "c").archivesAt 1).map (·.origin) = ["c"] ∧
      ((covered "c").loaderAt? 0).map (·.sources.directories) = some [] :=
  ⟨by cbv, by cbv, by cbv, by cbv, by cbv⟩

/-- Where the archive above goes by another origin, the resource is opened. -/
theorem stream_of_found_entry_below :
    ((covered "c").call 1 (.resource "/t.txt")).reply = .location (some (.entry "b" "t.txt")) ∧
    ((covered "c").call 1 (.openResource "/t.txt")).reply =
      .stream (.ok (some ⟨⟨#[7]⟩, none⟩)) := by
  have hbelow : ∃ loader, (covered "c").layers[0]? = some ⟨loader, .none⟩ := ⟨_, rfl⟩
  obtain ⟨_, hbottom⟩ := hbelow
  have hchain : Chain (covered "c") 1 [0] .none :=
    .stacked rfl rfl (by decide) (.bottom hbottom trivial)
  have hname : normalize "/t.txt" = "t.txt" := by decide
  obtain ⟨hmemo, hmemo', hnone, horigins, hdirectories⟩ := fresh_covered
  obtain ⟨archive, harchives, horigin, hfile, hstream⟩ := archivesAt_covered "c" (by decide)
  obtain ⟨loader, hloader, hundirected⟩ := Option.map_eq_some_iff.mp hdirectories
  have hheld : loader.sources.HeldBy (covered "c").volume (normalize "/t.txt") [] archive := by
    refine ⟨?_, ⟨[], ?_⟩, nofun, hname ▸ hfile⟩
    · rw [hundirected]
      exact nofun
    · unfold archivesAt at harchives
      rwa [hloader] at harchives
  obtain ⟨hfound, -, -, hown⟩ :=
    @stream_of_found_entry (covered "c") 1 [0] .none hchain [1] [] 0 rfl loader hloader "/t.txt" []
      archive hheld
  rw [hname, horigin] at hfound hown
  have hentry := hfound (by simp [hmemo, hmemo']) (by simpa using hnone)
  -- The archive above goes by another origin, so it is not in the way.
  have hothers : ∀ other ∈ [1].flatMap (covered "c").archivesAt ++ [], other.origin ≠ "b" := by
    intro other hother
    rw [List.append_nil, List.flatMap_singleton] at hother
    have hnamed : other.origin ∈ ["c"] := horigins ▸ List.mem_map_of_mem hother
    rw [List.mem_singleton.mp hnamed]
    decide
  obtain ⟨hopened, -⟩ := hown hentry hothers
  rw [hstream] at hopened
  exact ⟨hentry, hopened⟩

set_option maxRecDepth 20000 in
/-- The resource of the loader below is found, and then it is looked for in the archive above. -/
theorem found_entry_may_stay_closed :
    (∃ archive, (covered "b").archivesAt 0 = [archive] ∧ archive.origin = "b" ∧
      archive.hasFile "t.txt" = true ∧
      archive.stream (covered "b").volume "t.txt" = .ok (some ⟨⟨#[7]⟩, none⟩)) ∧
    ((covered "b").call 1 (.resource "t.txt")).reply = .location (some (.entry "b" "t.txt")) ∧
    ((covered "b").call 1 (.openResource "t.txt")).reply =
      .stream (.error (.archive "opening b!/t.txt" .absent)) :=
  ⟨archivesAt_covered "b" (by decide), by cbv, by cbv⟩

end Layers

end LayeredUnits
