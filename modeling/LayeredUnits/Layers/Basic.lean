import LayeredUnits.Layers.Host
import LayeredUnits.Loader.Lookup
import LayeredUnits.Loader.Register
import LayeredUnits.Loader.Resource

/-!
# Loaders in layers

Several loaders over one volume, each with its host. A loader may have an
earlier loader as its host, and so units come from the outermost ancestor that
has them, while resources come from the nearest loader.

An embedding program that is asked for a unit may call the loader that asks
it, which may ask it again, and so on. Every habit of a program is followed
once, and between two habits a lookup can only go from a loader to an earlier
one; `depth` bounds how deep calls can nest.
-/

namespace LayeredUnits

/-- A loader and what it defers to. The loader itself does not know which of the three it is. -/
structure Layer where
  loader : Loader
  host : Host

/-- Loaders over one volume. They are known by their places, and a host that is a loader has an
earlier place. -/
structure Layers where
  volume : Volume
  layers : List Layer := []

/-- What a call comes to, one kind for each kind of call. -/
inductive Reply where
  | unit (result : Except Fault (Shared CodeUnit))
  | found (result : Except Fault (Option (Shared CodeUnit)))
  | location (found : Option Location)
  | locations (found : List Location)
  | stream (result : Except Fault (Option Stream))
  | count (result : Except Fault Nat)
  | done

namespace Layers

/-- A step of the layers: its reply, the layers afterwards, and what happened. A step may change
other loaders than the one that is called, and programs too. -/
structure Step (α : Type) where
  reply : α
  layers : Layers
  events : List Event := []

/-- The layers with another loader at a place. Hosts stay as they are, and there is no change if the
place is not taken. -/
def setLoader (layers : Layers) (index : Nat) (loader : Loader) : Layers :=
  { layers with
    layers := layers.layers.modify index fun layer => { layer with loader := loader } }

/-- The layers with another host at a place. This is how a program gets its notes. -/
def setHost (layers : Layers) (index : Nat) (host : Host) : Layers :=
  { layers with
    layers := layers.layers.modify index fun layer => { layer with host := host } }

/-- Puts the outcome of a loader's operation into the layers. -/
def settle {α : Type} (layers : Layers) (index : Nat) (turn : Turn α) : Step α :=
  ⟨turn.reply, layers.setLoader index turn.loader, turn.events⟩

/-- What the loader at a place defers to. A place that is not taken defers to nothing. -/
def hostAt (layers : Layers) (index : Nat) : Host :=
  match layers.layers[index]? with
  | some layer => layer.host
  | none => .none

/-- A way to make calls. What a lookup does is described for any such way, and then tied up by the
depth to which calls may nest. -/
abbrev Caller := Layers → Nat → Call → Step Reply

/-- Makes calls one after the other and drops the replies, as a program does with its habits. -/
def callAll (call : Caller) (index : Nat) : List Call → Layers → Layers × List Event
  | [], layers => (layers, [])
  | one :: rest, layers =>
    let ⟨_, layers, events⟩ := call layers index one
    let (layers, more) := callAll call index rest layers
    (layers, events ++ more)

/-- Asks the host of a loader for a unit. A loader that fails other than by not having the unit is
told of and counts as not having it; a program follows its habit first and answers then. -/
def askUnit (call : Caller) (layers : Layers) (index : Nat) (name : String) :
    Step (Option (Shared CodeUnit)) :=
  match layers.hostAt index with
  | .loader parent =>
    match call layers parent (.find name) with
    | ⟨.found (.ok found), layers, events⟩ => ⟨found, layers, events⟩
    | ⟨.found (.error fault), layers, events⟩ =>
      ⟨none, layers, events ++ [.hostFailed name fault]⟩
    | ⟨_, layers, events⟩ => ⟨none, layers, events⟩
  | .embedder embedder =>
    let embedder := embedder.askUnit name
    let layers := layers.setHost index (.embedder embedder)
    let (layers, events) := callAll call index embedder.currentHabit layers
    ⟨embedder.units.lookup name, layers, events⟩
  | .none => ⟨none, layers, []⟩

/-- Looks a unit up. Between the two parts of the lookup the host is asked, and the loader that goes
on is the one that is there when the host has answered. -/
def lookUp (call : Caller) (layers : Layers) (index : Nat) (name : String) :
    Step (Except Fault (Shared CodeUnit)) :=
  match layers.layers[index]? with
  | none => ⟨.error (.internal "no loader"), layers, []⟩
  | some layer =>
    match layer.loader.beginLookup name with
    | ⟨.answered result, loader, events⟩ => ⟨result, layers.setLoader index loader, events⟩
    | ⟨.waiting ticket, loader, events⟩ =>
      let ⟨answer, layers, more⟩ := askUnit call (layers.setLoader index loader) index name
      -- The loader is fetched again, since the host may have called it meanwhile.
      match layers.layers[index]? with
      | none => ⟨.error (.internal "no loader"), layers, events ++ more⟩
      | some layer =>
        let ⟨result, layers, last⟩ :=
          layers.settle index (layer.loader.finishLookup layers.volume ticket answer)
        ⟨result, layers, events ++ more ++ last⟩

/-- Has the hosts from a loader on link a unit: the question is passed down to the first program. -/
def link (layers : Layers) (name : String) : Nat → Nat → Layers
  | 0, _ => layers
  | fuel + 1, index =>
    match layers.hostAt index with
    | .loader parent => layers.link name fuel parent
    | .embedder embedder => layers.setHost index (.embedder (embedder.link name))
    | _ => layers

/-- Asks the host of a loader for the first location of a resource. A program answers from what it
has, without calling anybody. -/
def askResource (call : Caller) (layers : Layers) (index : Nat) (name : String) :
    Step (Option Location) :=
  match layers.hostAt index with
  | .loader parent =>
    match call layers parent (.resource name) with
    | ⟨.location found, layers, events⟩ => ⟨found, layers, events⟩
    | ⟨_, layers, events⟩ => ⟨none, layers, events⟩
  | .embedder embedder =>
    ⟨(embedder.locations name).head?,
      layers.setHost index (.embedder (embedder.note (.resource name))), []⟩
  | _ => ⟨none, layers, []⟩

/-- Asks the host of a loader for every location of a resource. This is a question of its own: a
host may answer the two in ways that do not fit together. -/
def askResources (call : Caller) (layers : Layers) (index : Nat) (name : String) :
    Step (List Location) :=
  match layers.hostAt index with
  | .loader parent =>
    match call layers parent (.resources name) with
    | ⟨.locations found, layers, events⟩ => ⟨found, layers, events⟩
    | ⟨_, layers, events⟩ => ⟨[], layers, events⟩
  | .embedder embedder =>
    ⟨embedder.locations name,
      layers.setHost index (.embedder (embedder.note (.resources name))), []⟩
  | _ => ⟨[], layers, []⟩

/-- Looks the first location of a resource up: in the memory, in the sources, and at the host only
if the sources do not have it. -/
def findResource (call : Caller) (layers : Layers) (index : Nat) (name : String) :
    Step (Option Location) :=
  let name := ResourceName.normalize name
  match layers.layers[index]? with
  | none => ⟨none, layers, []⟩
  | some layer =>
    match layer.loader.recallResource name with
    | some found => ⟨found, layers, []⟩
    | none =>
      let ⟨found, layers, events⟩ : Step (Option Location) :=
        match layer.loader.sources.locate? layers.volume name with
        | some location => ⟨some location, layers, []⟩
        | none => askResource call layers index name
      match layers.layers[index]? with
      | none => ⟨found, layers, events⟩
      | some layer =>
        let ⟨found, layers, more⟩ :=
          layers.settle index (layer.loader.rememberResource name found)
        ⟨found, layers, events ++ more⟩

/-- Looks every location of a resource up. Here the host is asked in any case, since it may add to
what the sources have. -/
def findResources (call : Caller) (layers : Layers) (index : Nat) (name : String) :
    Step (List Location) :=
  let name := ResourceName.normalize name
  match layers.layers[index]? with
  | none => ⟨[], layers, []⟩
  | some layer =>
    match layer.loader.recallList name with
    | some found => ⟨found, layers, []⟩
    | none =>
      let own := layer.loader.sources.locations layers.volume name
      let ⟨others, layers, events⟩ := askResources call layers index name
      match layers.layers[index]? with
      | none => ⟨own ++ others, layers, events⟩
      | some layer =>
        let ⟨found, layers, more⟩ :=
          layers.settle index (layer.loader.rememberList name (own ++ others))
        ⟨found, layers, events ++ more⟩

/-- Opens a location, if need be through the hosts. The first that knows what to do with the
location decides, for better or worse. -/
def openLocation (layers : Layers) (location : Location) :
    Nat → Nat → Step (Except Fault (Option Stream))
  | 0, _ => ⟨.ok none, layers, []⟩
  | fuel + 1, index =>
    match layers.layers[index]? with
    | none => ⟨.ok none, layers, []⟩
    | some layer =>
      match layer.loader.openLocation layers.volume location with
      | some result => ⟨result.map some, layers, []⟩
      | none =>
        match layer.host with
        | .none => ⟨.ok none, layers, []⟩
        | .loader parent => layers.openLocation location fuel parent
        | .embedder embedder =>
          let (result, embedder) := embedder.openLocation location
          ⟨result, layers.setHost index (.embedder embedder), []⟩

/-- What a call comes to, if the calls that it gives rise to are made with `call`. A place that no
loader has takes no calls. -/
def perform (call : Caller) (layers : Layers) (index : Nat) (one : Call) : Step Reply :=
  let operate (operation : Loader → Turn Reply) : Step Reply :=
    match layers.layers[index]? with
    | none => ⟨.done, layers, []⟩
    | some layer => layers.settle index (operation layer.loader)
  let counted (turn : Turn (Except Fault Nat)) : Turn Reply :=
    ⟨.count turn.reply, turn.loader, turn.events⟩
  match one with
  | .load name wantsLink =>
    -- Only a load tells the hosts to link, and only one that has found the unit.
    match lookUp call layers index name with
    | ⟨.ok unit, layers, events⟩ =>
      let layers :=
        if wantsLink then layers.link unit.value.name layers.layers.length index else layers
      ⟨.unit (.ok unit), layers, events⟩
    | ⟨.error fault, layers, events⟩ => ⟨.unit (.error fault), layers, events⟩
  | .find name =>
    match lookUp call layers index name with
    | ⟨.ok unit, layers, events⟩ => ⟨.found (.ok (some unit)), layers, events⟩
    | ⟨.error fault, layers, events⟩ =>
      ⟨.found (if fault.isNotFound then .ok none else .error fault), layers, events⟩
  | .preload unit =>
    operate fun loader =>
      let turn := loader.preload unit
      ⟨.unit turn.reply, turn.loader, turn.events⟩
  | .resource name =>
    let ⟨found, layers, events⟩ := findResource call layers index name
    ⟨.location found, layers, events⟩
  | .resources name =>
    let ⟨found, layers, events⟩ := findResources call layers index name
    ⟨.locations found, layers, events⟩
  | .openResource name =>
    -- The location is looked up, with or without the memory, and then opened by whoever has it.
    match findResource call layers index name with
    | ⟨none, layers, events⟩ => ⟨.stream (.ok none), layers, events⟩
    | ⟨some location, layers, events⟩ =>
      let ⟨result, layers, more⟩ := layers.openLocation location layers.layers.length index
      ⟨.stream result, layers, events ++ more⟩
  | .registerDirectory path =>
    operate fun loader => counted (loader.registerDirectory layers.volume path)
  | .registerArchive path =>
    operate fun loader => counted (loader.registerArchive layers.volume path)
  | .registerImage image origin =>
    operate fun loader => counted (loader.registerImage layers.volume image origin)
  | .forgetMisses =>
    operate fun loader =>
      let turn := loader.forgetMisses
      ⟨.done, turn.loader, turn.events⟩
  | .edit edit => ⟨.done, { layers with volume := edit.apply layers.volume }, []⟩

/-- Makes a call, with calls nested at most so deep. Deeper ones come to nothing, which is never the
case at `depth`. -/
def callWithin : Nat → Caller
  | 0 => fun layers _ _ => ⟨.done, layers, []⟩
  | depth + 1 => perform (callWithin depth)

/-- How many habits the embedding program of a layer has, and so how often calls can nest at this
layer. -/
def habitCount (layer : Layer) : Nat :=
  match layer.host with
  | .embedder embedder => embedder.habits.length
  | _ => 0

/-- How deep calls can nest: between two habits a lookup only goes from loader to earlier loader,
and each habit is followed once. -/
def depth (layers : Layers) : Nat :=
  (layers.layers.foldl (fun total layer => total + habitCount layer) 0 + 1) *
    (layers.layers.length + 1)

/-- Makes a call to the loader at a place, with room for all calls that can nest in it. -/
def call (layers : Layers) (index : Nat) (one : Call) : Step Reply :=
  callWithin layers.depth layers index one

/-- Loads one unit so many times in a row. Each load finds the layers as the last one has
left them. -/
def loadOften (index : Nat) (name : String) : Nat → Layers →
    List (Except Fault (Shared CodeUnit)) × Layers
  | 0, layers => ([], layers)
  | times + 1, layers =>
    match layers.call index (.load name false) with
    | ⟨.unit result, layers, _⟩ =>
      let (more, layers) := loadOften index name times layers
      (result :: more, layers)
    | ⟨_, layers, _⟩ => ([], layers)

/-- Whether two loads of a unit gave the same instance, or failed with the same record. It is a
question of identity in both cases. -/
def sameResult : Except Fault (Shared CodeUnit) → Except Fault (Shared CodeUnit) → Bool
  | .ok a, .ok b => a.same b
  | .error (.unitNotFound a), .error (.unitNotFound b) => a.same b
  | _, _ => false

end Layers

end LayeredUnits
