import LayeredUnits.Loader.Basic

/-!
# Looking resources up

A resource is looked up in the directories, in the archives and at the host,
so that what is registered overrides what the host ships. An outcome is
remembered unless the name is a speculative one. As with units the host comes
in the middle: `recallResource` looks into the memory, `Sources.locate?`
searches the sources, and `rememberResource` keeps the outcome.

All names here are without leading slashes.
-/

namespace LayeredUnits.Loader

/-- Whether outcomes for this resource name are remembered. For speculative names nothing is stored,
and every lookup searches. -/
def remembersResource (loader : Loader) (name : String) : Bool :=
  loader.options.probes.remembersResource name

/-- The remembered outcome for a resource, if there is one. An outcome may well be that the resource
is nowhere. -/
def recallResource (loader : Loader) (name : String) : Option (Option Location) :=
  if loader.remembersResource name then loader.memo.resources.get? name else none

/-- Keeps the outcome for a resource. An outcome that is remembered already stays and is the reply,
so that a lookup that was overtaken says what the other one has said. -/
def rememberResource (loader : Loader) (name : String) (found : Option Location) :
    Turn (Option Location) :=
  if loader.remembersResource name then
    { reply := loader.memo.resources.kept name found
      loader := { loader with memo := loader.memo.rememberResource name found } }
  else { reply := found, loader := loader }

/-- The remembered locations of a resource, if there are any. An empty list that is remembered is a
list too. -/
def recallList (loader : Loader) (name : String) : Option (List Location) :=
  if loader.remembersResource name then loader.memo.lists.get? name else none

/-- Keeps the locations of a resource. A list that is remembered already stays and is the reply. The
memory of first locations is not looked at. -/
def rememberList (loader : Loader) (name : String) (found : List Location) :
    Turn (List Location) :=
  if loader.remembersResource name then
    { reply := loader.memo.lists.kept name found
      loader := { loader with memo := loader.memo.rememberList name found } }
  else { reply := found, loader := loader }

/-- Opens a location, if it is in the hands of the loader: `none` means that the host has to open
it. An archive is found by its origin, the first registered one of several, whether it has the entry
or not. -/
def openLocation (loader : Loader) (volume : Volume) :
    Location → Option (Except Fault Stream)
  | .file path =>
    match volume.open? path with
    | .ok blob => some (.ok blob.stream)
    | .error kind => some (.error (.io ("opening " ++ path) (.io kind)))
  | .entry origin name =>
    match loader.sources.archives.find? fun archive => archive.origin == origin with
    | some archive => some ((archive.resourceBytes volume name).map fun bytes => ⟨bytes, none⟩)
    | none => none
  | .hosted _ => none

end LayeredUnits.Loader
