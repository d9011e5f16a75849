import LayeredUnits.Loader.Basic

/-!
# Registering sources

A directory or archive is searched for units once, when it is registered. The
reply is the number of units that it contributes; a source that cannot be read
changes nothing. Remembered misses stay: whoever wants a new source to be seen
at once clears them.
-/

namespace LayeredUnits.Loader

/-- Keeps names, one after the other. Those that are kept already keep their numbers. -/
def internAll (memo : Memo) (names : List String) : Memo := names.foldl Memo.intern memo

/-- Takes a directory among the sources. Names that are bound, or that an earlier directory has, go
on being what they were, and are told of as shadowed. -/
def addDirectory (loader : Loader) (directory : Directory) : Turn Nat :=
  let (sources, entered, shadowed) := loader.sources.addDirectory loader.isBound directory
  { reply := entered.length
    loader := { loader with sources := sources, memo := internAll loader.memo entered }
    events := shadowed.map (.unitShadowed · directory.root) ++
      [.directoryRegistered directory.root entered.length
        (directory.units.length - entered.length)] }

/-- Takes an archive among the sources. It gets none of the names that a directory has by then, and
a directory that comes later overtakes it. -/
def addArchive (loader : Loader) (archive : Archive) : Turn Nat :=
  let (sources, entered, shadowed) := loader.sources.addArchive loader.isBound archive
  { reply := entered.length
    loader := { loader with sources := sources, memo := internAll loader.memo entered }
    events := shadowed.map (.unitShadowed · archive.origin) ++
      [.archiveRegistered archive.origin entered.length
        (archive.units.length - entered.length)] }

/-- Goes on with a source that was opened, or stops with the fault. A source that cannot be opened
leaves the loader as it was. -/
def register {α : Type} (loader : Loader) (opened : Except Fault α × List Event)
    (add : α → Turn Nat) : Turn (Except Fault Nat) :=
  match opened with
  | (.error fault, events) => { reply := .error fault, loader := loader, events := events }
  | (.ok source, events) =>
    let ⟨added, loader, more⟩ := add source
    { reply := .ok added, loader := loader, events := events ++ more }

/-- Registers the directory that a path leads to. The reply is the number of names that it has
added, which may be none. -/
def registerDirectory (loader : Loader) (volume : Volume) (path : String) :
    Turn (Except Fault Nat) :=
  loader.register (Directory.scan volume path loader.options.unitSuffix) loader.addDirectory

/-- Registers the archive that a path leads to. From now on it is known by its canonical path. -/
def registerArchive (loader : Loader) (volume : Volume) (path : String) :
    Turn (Except Fault Nat) :=
  loader.register (Archive.openPath volume path loader.options.unitSuffix) loader.addArchive

/-- Registers an archive whose bytes are at hand, under any origin that the caller likes. Nothing
makes sure that no other archive goes by it. -/
def registerImage (loader : Loader) (volume : Volume) (image : Image) (origin : String) :
    Turn (Except Fault Nat) :=
  loader.register (Archive.openImage volume image origin loader.options.unitSuffix)
    loader.addArchive

/-- Registers one source after the other, up to the first that cannot be registered. Those before it
stay registered. -/
def registerAll (loader : Loader) (register : Loader → String → Turn (Except Fault Nat)) :
    List String → Turn (Except Fault Unit)
  | [] => { reply := .ok (), loader := loader }
  | path :: rest =>
    match register loader path with
    | ⟨.error fault, loader, events⟩ =>
      { reply := .error fault, loader := loader, events := events }
    | ⟨.ok _, loader, events⟩ =>
      let ⟨reply, loader, more⟩ := registerAll loader register rest
      { reply := reply, loader := loader, events := events ++ more }

/-- Registers directories, and then archives, so that none of these directories can overtake one of
these archives. -/
def registerSources (loader : Loader) (volume : Volume) (directories archives : List String) :
    Turn (Except Fault Unit) :=
  match loader.registerAll (·.registerDirectory volume ·) directories with
  | ⟨.error fault, loader, events⟩ =>
    { reply := .error fault, loader := loader, events := events }
  | ⟨.ok _, loader, events⟩ =>
    let ⟨reply, loader, more⟩ := loader.registerAll (·.registerArchive volume ·) archives
    { reply := reply, loader := loader, events := events ++ more }

/-- The loader that settings describe, with the sources that they list. It stops at the first source
that cannot be registered. -/
def ofSettings (tag : Nat) (settings : Settings) (volume : Volume) :
    Turn (Except Fault Unit) :=
  (create tag settings.options {}).registerSources volume settings.directories
    settings.archives

end LayeredUnits.Loader
