import LayeredUnits.Location
import LayeredUnits.Source.Archive
import LayeredUnits.Unit.Basic
import LayeredUnits.Volume.Edit

/-!
# Hosts

A loader defers to its host: to nothing, to another loader, or to the program
that embeds it. An embedding program has units and resources of its own, and
while it is asked for a unit it may use the loader that asks it, in the ways
that `Call` lists. It notes what it is asked.
-/

namespace LayeredUnits

/-- What one can ask of a loader, or do behind its back. A host that is asked may make any of these
calls before it answers. -/
inductive Call where
  /-- Load a unit, and have the host link it if `link`. -/
  | load (name : String) (link : Bool)
  /-- Load a unit that need not exist. -/
  | find (name : String)
  | preload (unit : Shared CodeUnit)
  | resource (name : String)
  | resources (name : String)
  | openResource (name : String)
  | registerDirectory (path : String)
  | registerArchive (path : String)
  | registerImage (image : Image) (origin : String)
  | forgetMisses
  | edit (edit : Edit)

/-- What an embedding program was asked. The notes show which calls have come down to it, and in
which order. -/
inductive Note where
  | unit (name : String)
  | resource (name : String)
  | resources (name : String)
  | openLocation (location : Location)
  | link (name : String)

/-- A note as a line. -/
def Note.text : Note → String
  | .unit name => "unit " ++ name
  | .resource name => "resource " ++ name
  | .resources name => "list " ++ name
  | .openLocation location => "open " ++ location.text
  | .link name => "link " ++ name

/-- A program that embeds a loader. What it answers is fixed by these fields, so that a run with it
can be repeated; what it does meanwhile is fixed by its habits. -/
structure Embedder where
  /-- Its units, by the names that it answers to. -/
  units : List (String × Shared CodeUnit) := []
  /-- The locations of its resources. -/
  resources : List (String × List Location) := []
  /-- The contents of its locations, by their text. -/
  contents : List (String × ByteArray) := []
  /-- Whether it fails to open anything. -/
  failsToOpen : Bool := false
  /-- Whether it cannot open or link at all. -/
  isPlain : Bool := false
  /-- What it does while it is asked for a unit, by how many times it was asked. -/
  habits : List (Nat × List Call) := []
  /-- How many times it was asked for a unit. -/
  asked : Nat := 0
  notes : List Note := []

namespace Embedder

/-- The program after one more note. Nothing that it answers depends on its notes. -/
def note (embedder : Embedder) (note : Note) : Embedder :=
  { embedder with notes := embedder.notes ++ [note] }

/-- The program after it was asked for a unit once more. How often that was decides which habit
comes next. -/
def askUnit (embedder : Embedder) (name : String) : Embedder :=
  { embedder.note (.unit name) with asked := embedder.asked + 1 }

/-- What it does before it answers the question that it was asked last. Each habit is followed at
one time only, and that is why nested calls come to an end. -/
def currentHabit (embedder : Embedder) : List Call :=
  (embedder.habits.filter fun habit => habit.1 == embedder.asked).flatMap (·.2)

/-- The locations of a resource, of which the first is the one that it names when one is wanted. -/
def locations (embedder : Embedder) (name : String) : List Location :=
  (embedder.resources.lookup name).getD []

/-- Opens a location, by the text of it. A program that is plain does not know how to, and says that
there is nothing. -/
def openLocation (embedder : Embedder) (location : Location) :
    Except Fault (Option Stream) × Embedder :=
  if embedder.isPlain then (.ok none, embedder)
  else
    let noted := embedder.note (.openLocation location)
    if embedder.failsToOpen then
      (.error (.internal ("host cannot open " ++ location.text)), noted)
    else
      (.ok ((embedder.contents.lookup location.text).map fun bytes => ⟨bytes, none⟩), noted)

/-- Links a unit, of which only the note remains. -/
def link (embedder : Embedder) (name : String) : Embedder :=
  if embedder.isPlain then embedder else embedder.note (.link name)

end Embedder

/-- What a loader defers to: nothing, another loader, or a program. -/
inductive Host where
  | none
  /-- The loader at this place of the same stack. -/
  | loader (index : Nat)
  | embedder (embedder : Embedder)

end LayeredUnits
