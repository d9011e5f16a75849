import LayeredUnits.Loader.Lookup
import LayeredUnits.Loader.Register
import LayeredUnits.Loader.Resource

/-!
# A loader at work

`Scene` is a loader with the volume it reads and the lookups that wait for the
host, and `Scene.step` is one thing that happens to it. A lookup is two
happenings, its beginning and the host's answer, and anything may happen in
between: the host may use the loader it is asked by, to any depth, other
callers may use it, files may change. The host itself is not part of a scene.
Its answers are part of what happens, so a statement about every list of
happenings is a statement about every host.

Lookups of resources are cut in the same way: the memory and the sources are
searched when a lookup begins, and the outcome is remembered when the host has
answered. A host that is not needed answers nothing.

`Layers` says that every call of stacked loaders is such a list of happenings.
-/

namespace LayeredUnits

/-- What a lookup that waits for the host still has to do. It holds all that the lookup has seen
before it turned to the host. -/
inductive Errand where
  | unit (ticket : Ticket)
  /-- The first location of a resource. `own` is what the sources have. -/
  | resource (name : String) (own : Option Location)
  /-- All locations of a resource. `own` is what the sources have. -/
  | resources (name : String) (own : List Location)

/-- One thing that happens to a loader. A nested call is a list of these between the beginning of a
lookup and its end. -/
inductive Happening where
  /-- A lookup of a unit begins. -/
  | ask (name : String)
  /-- The host has answered the lookup with this number, which comes to its end. -/
  | answer (number : Nat) (found : Option (Shared CodeUnit))
  /-- A lookup of the first location of a resource begins. -/
  | seek (name : String)
  | locate (number : Nat) (found : Option Location)
  /-- A lookup of all locations of a resource begins. -/
  | seekAll (name : String)
  | locateAll (number : Nat) (found : List Location)
  | preload (unit : Shared CodeUnit)
  | registerDirectory (path : String)
  | registerArchive (path : String)
  | registerImage (image : Image) (origin : String)
  | forgetMisses
  /-- Files change. -/
  | change (volume : Volume)

/-- What a happening replies to whoever caused it, or whoever waits for it. -/
inductive Outcome where
  /-- There is nothing to reply, or not yet. -/
  | nothing
  | unit (name : String) (result : Except Fault (Shared CodeUnit))
  | defined (result : Except Fault (Shared CodeUnit))
  | location (name : String) (found : Option Location)
  | locations (name : String) (found : List Location)
  | count (result : Except Fault Nat)

/-- A loader at work: the loader, the files as they are now, and the lookups that are under way. -/
structure Scene where
  loader : Loader
  volume : Volume := {}
  /-- The lookups that wait for the host by number, the latest first. -/
  waiting : List (Nat × Errand) := []
  /-- How many lookups have gone to the host. -/
  begun : Nat := 0

namespace Scene

/-- What a happening comes to: what is replied, how things are afterwards, and what is told. -/
structure Step where
  outcome : Outcome
  scene : Scene
  events : List Event := []

/-- The scene with another loader. Files and waiting lookups stay as they are. -/
def withLoader (scene : Scene) (loader : Loader) : Scene := { scene with loader := loader }

/-- The scene with one more lookup that waits, under the next number. -/
def await (scene : Scene) (errand : Errand) : Scene :=
  { scene with
    waiting := (scene.begun, errand) :: scene.waiting
    begun := scene.begun + 1 }

/-- The scene without a lookup that waits. Its number is not given out again. -/
def dismiss (scene : Scene) (number : Nat) : Scene :=
  { scene with waiting := scene.waiting.eraseP (·.1 == number) }

/-- The outcome of an operation that needs no host. It is over in one step. -/
def settle {α : Type} (scene : Scene) (turn : Turn α) (outcome : α → Outcome) : Step :=
  ⟨outcome turn.reply, scene.withLoader turn.loader, turn.events⟩

/-- A lookup of a unit begins. It is answered at once or goes to the host. -/
def ask (scene : Scene) (name : String) : Step :=
  match scene.loader.beginLookup name with
  | ⟨.answered result, loader, events⟩ => ⟨.unit name result, scene.withLoader loader, events⟩
  | ⟨.waiting ticket, loader, events⟩ =>
    ⟨.nothing, (scene.withLoader loader).await (.unit ticket), events⟩

/-- A lookup of the first location of a resource begins. The sources are searched at once; only if
they have nothing, it goes to the host. -/
def seek (scene : Scene) (name : String) : Step :=
  match scene.loader.recallResource name with
  | some found => ⟨.location name found, scene, []⟩
  | none =>
    let own := scene.loader.sources.locate? scene.volume name
    ⟨.nothing, scene.await (.resource name own), []⟩

/-- A lookup of all locations of a resource begins. It always goes to the host unless a list is
remembered. -/
def seekAll (scene : Scene) (name : String) : Step :=
  match scene.loader.recallList name with
  | some found => ⟨.locations name found, scene, []⟩
  | none =>
    let own := scene.loader.sources.locations scene.volume name
    ⟨.nothing, scene.await (.resources name own), []⟩

/-- The host has answered a lookup of a unit. An answer that no lookup waits for changes
nothing. -/
def answer (scene : Scene) (number : Nat) (found : Option (Shared CodeUnit)) : Step :=
  match scene.waiting.lookup number with
  | some (.unit ticket) =>
    (scene.dismiss number).settle (scene.loader.finishLookup scene.volume ticket found)
      (.unit ticket.name)
  | _ => ⟨.nothing, scene, []⟩

/-- The host has answered a lookup of the first location of a resource. -/
def locate (scene : Scene) (number : Nat) (found : Option Location) : Step :=
  match scene.waiting.lookup number with
  | some (.resource name own) =>
    (scene.dismiss number).settle (scene.loader.rememberResource name (own <|> found))
      (.location name)
  | _ => ⟨.nothing, scene, []⟩

/-- The host has answered a lookup of all locations of a resource. -/
def locateAll (scene : Scene) (number : Nat) (found : List Location) : Step :=
  match scene.waiting.lookup number with
  | some (.resources name own) =>
    (scene.dismiss number).settle (scene.loader.rememberList name (own ++ found))
      (.locations name)
  | _ => ⟨.nothing, scene, []⟩

/-- What one thing comes to. An answer that nothing waits for comes to nothing. -/
def step (scene : Scene) : Happening → Step
  | .ask name => scene.ask name
  | .answer number found => scene.answer number found
  | .seek name => scene.seek (ResourceName.normalize name)
  | .locate number found => scene.locate number found
  | .seekAll name => scene.seekAll (ResourceName.normalize name)
  | .locateAll number found => scene.locateAll number found
  | .preload unit => scene.settle (scene.loader.preload unit) .defined
  | .registerDirectory path =>
    scene.settle (scene.loader.registerDirectory scene.volume path) .count
  | .registerArchive path => scene.settle (scene.loader.registerArchive scene.volume path) .count
  | .registerImage image origin =>
    scene.settle (scene.loader.registerImage scene.volume image origin) .count
  | .forgetMisses => scene.settle scene.loader.forgetMisses fun _ => .nothing
  | .change volume => ⟨.nothing, { scene with volume := volume }, []⟩

/-- The scene after one thing has happened, whatever was replied. -/
def next (scene : Scene) (one : Happening) : Scene := (scene.step one).scene

/-- The scene after some things have happened, the first of the list first. -/
def after (scene : Scene) (history : List Happening) : Scene := history.foldl next scene

@[simp] theorem after_nil (scene : Scene) : scene.after [] = scene := rfl

@[simp] theorem after_cons (scene : Scene) (one : Happening) (rest : List Happening) :
    scene.after (one :: rest) = (scene.next one).after rest := rfl

theorem after_append (scene : Scene) (history more : List Happening) :
    scene.after (history ++ more) = (scene.after history).after more := List.foldl_append

theorem after_concat (scene : Scene) (history : List Happening) (one : Happening) :
    scene.after (history ++ [one]) = (scene.after history).next one := by
  rw [after_append, after_cons, after_nil]

/-- What every happening keeps, every history keeps. An invariant of histories is proved of one
happening. -/
theorem after_induction {motive : Scene → Prop} {scene : Scene} (history : List Happening)
    (hstart : motive scene) (hnext : ∀ s one, motive s → motive (s.next one)) :
    motive (scene.after history) := by
  induction history generalizing scene with
  | nil => exact hstart
  | cons one rest ih => exact ih (hnext scene one hstart)

/-! ## How a lookup begins -/

/-- A lookup of a name that is bound succeeds at once and is counted, nothing else. -/
theorem ask_of_bound {scene : Scene} {name : String} {unit : Shared CodeUnit}
    (h : scene.loader.memo.units.get? name = some unit) :
    scene.step (.ask name) = ⟨.unit name (.ok unit),
      scene.withLoader (scene.loader.count fun c => { c with cacheHits := c.cacheHits + 1 }),
      [.unitRecalled name]⟩ := by
  simp only [step, ask, Loader.beginLookup, h]

/-- The miss that a lookup would be answered with, which is none where misses do not count. -/
def recalledMiss (scene : Scene) (name : String) : Option (Shared Miss) :=
  if scene.loader.options.remembersMisses then scene.loader.memo.misses.get? name else none

/-- A lookup of a name that is not bound fails at once if a miss is remembered. -/
theorem ask_of_missed {scene : Scene} {name : String} {miss : Shared Miss}
    (hunit : scene.loader.memo.units.get? name = none)
    (hmiss : scene.recalledMiss name = some miss) :
    scene.step (.ask name) = ⟨.unit name (.error (.unitNotFound miss)),
      scene.withLoader (scene.loader.count fun c => { c with negativeHits := c.negativeHits + 1 }),
      [.missRecalled name]⟩ := by
  unfold recalledMiss at hmiss
  simp only [step, ask, Loader.beginLookup, hunit, hmiss]

/-- The ticket of a lookup that begins now, with the generation and the sources of this moment. -/
def ticket (scene : Scene) (name : String) : Ticket :=
  ⟨name, scene.loader.generation, scene.loader.sources⟩

/-- Any other lookup waits for the host. Its ticket is given now, and nothing but a counter has
changed. -/
theorem ask_of_unknown {scene : Scene} {name : String}
    (hunit : scene.loader.memo.units.get? name = none)
    (hmiss : scene.recalledMiss name = none) :
    scene.step (.ask name) = ⟨.nothing,
      (scene.withLoader (scene.loader.count fun c => { c with hostLookups := c.hostLookups + 1 })).await
        (.unit (scene.ticket name)), []⟩ := by
  unfold recalledMiss at hmiss
  simp only [step, ask, Loader.beginLookup, hunit, hmiss]
  rfl

/-! ## How a lookup ends -/

theorem answer_of_waiting {scene : Scene} {number : Nat} {ticket : Ticket}
    (found : Option (Shared CodeUnit))
    (h : scene.waiting.lookup number = some (.unit ticket)) :
    scene.step (.answer number found) =
      (scene.dismiss number).settle (scene.loader.finishLookup scene.volume ticket found)
        (.unit ticket.name) := by
  simp only [step, answer, h]

/-- A lookup that has been answered does not wait any more, and the others do. -/
theorem waiting_answer {scene : Scene} {number : Nat} {ticket : Ticket}
    (found : Option (Shared CodeUnit))
    (h : scene.waiting.lookup number = some (.unit ticket)) :
    (scene.next (.answer number found)).waiting =
      scene.waiting.eraseP (·.1 == number) := by
  unfold next
  rw [answer_of_waiting found h]
  rfl

/-- An archive that can be opened is taken among the sources, and nothing else happens. -/
theorem next_registerImage {scene : Scene} {image : Image} {origin : String} {archive : Archive}
    (h : (Archive.openImage scene.volume image origin scene.loader.options.unitSuffix).1 =
      .ok archive) :
    scene.next (.registerImage image origin) =
      scene.withLoader (scene.loader.addArchive archive).loader := by
  cases hopen : Archive.openImage scene.volume image origin scene.loader.options.unitSuffix with
  | mk opened events =>
    rw [hopen] at h
    cases h
    simp only [next, step, settle, Loader.registerImage, Loader.register, hopen]

end Scene

end LayeredUnits
