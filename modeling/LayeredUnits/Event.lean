import LayeredUnits.Fault

/-!
# Events

What loaders tell about their work, as values. An event has a level and a
message; which levels are shown is for the outer layer to decide.
-/

namespace LayeredUnits

/-- How important an event is, the least first. Whoever shows events chooses the least level that is
shown. -/
inductive Level where
  | trace
  | debug
  | info
  | warn
deriving DecidableEq, Repr

/-- The name of a level, as it begins a line. -/
def Level.text : Level → String
  | .trace => "TRACE"
  | .debug => "DEBUG"
  | .info => "INFO"
  | .warn => "WARN"

/-- The place of a level in the order of importance, which is that of the constructors. -/
def Level.rank : Level → Nat
  | .trace => 0
  | .debug => 1
  | .info => 2
  | .warn => 3

/-- One thing that happened. An event holds what its message needs, so that events can be counted
and compared without reading messages. -/
inductive Event where
  | unitRecalled (name : String)
  | missRecalled (name : String)
  /-- A copy of a unit could not be read, and the next place was tried. -/
  | copySkipped (place name : String) (fault : Fault)
  /-- A definition came too late, and the unit that was bound first is used. -/
  | definitionLost (name : String)
  | unitMissed (name : String)
  | missesCleared (count : Nat)
  /-- A unit of a source is hidden by one that is known already. -/
  | unitShadowed (name source : String)
  /-- A directory below a root could not be listed, and was passed over with all that is in it. -/
  | directoryBarred (root path : String)
  /-- A directory has two files for one name, and the first one counts. -/
  | unitRepeated (name root : String)
  | directoryIndexed (root : String) (units : Nat)
  | archiveIndexed (origin : String) (units entries : Nat)
  | directoryRegistered (root : String) (indexed shadowed : Nat)
  | archiveRegistered (origin : String) (indexed shadowed : Nat)
  /-- A manifest could not be used, and the package counts as having none. -/
  | manifestIgnored (origin : String) (fault : Fault)
  | hostFailed (name : String) (fault : Fault)
  | settingsAbsent
  | settingsSaved (path : String)
  | settingsUsed (path : String)

namespace Event

/-- How important an event is. What a user should set right is a warning; what every lookup does is
at the lowest level. -/
def level : Event → Level
  | .unitRecalled _ | .missRecalled _ => .trace
  | .definitionLost _ | .unitMissed _ | .missesCleared _ | .unitShadowed .. => .debug
  | .directoryBarred .. | .unitRepeated .. | .directoryIndexed .. | .archiveIndexed .. => .debug
  | .settingsAbsent | .settingsUsed _ => .debug
  | .directoryRegistered .. | .archiveRegistered .. | .settingsSaved _ => .info
  | .copySkipped .. | .manifestIgnored .. | .hostFailed .. => .warn

/-- What an event says, without its level. -/
def message : Event → String
  | .unitRecalled name => "Unit cache hit: " ++ name
  | .missRecalled name => "Negative cache hit: " ++ name
  | .copySkipped place name fault =>
    "Skipping " ++ place ++ " for " ++ name ++ ": " ++ fault.message
  | .definitionLost name => "Lost definition race for " ++ name ++ ", using cached unit"
  | .unitMissed name => "Unit not found: " ++ name
  | .missesCleared count => "Cleared " ++ toString count ++ " remembered misses"
  | .unitShadowed name source => "Unit " ++ name ++ " already known, shadowed in " ++ source
  | .directoryBarred root path =>
    "Skipping unreadable entry under " ++ root ++ ": IO error for operation on " ++ path ++
      ": Permission denied (os error 13)"
  | .unitRepeated name root => "Duplicate unit " ++ name ++ " in " ++ root ++ ", keeping first"
  | .directoryIndexed root units =>
    "Indexed directory " ++ root ++ ": " ++ toString units ++ " units"
  | .archiveIndexed origin units entries =>
    "Indexed archive " ++ origin ++ ": " ++ toString units ++ " units, " ++
      toString entries ++ " entries"
  | .directoryRegistered root indexed shadowed =>
    "Registered directory " ++ root ++ " (" ++ toString indexed ++ " units, " ++
      toString shadowed ++ " shadowed)"
  | .archiveRegistered origin indexed shadowed =>
    "Registered archive " ++ origin ++ " (" ++ toString indexed ++ " units, " ++
      toString shadowed ++ " shadowed)"
  | .manifestIgnored origin fault => "Ignoring manifest of " ++ origin ++ ": " ++ fault.message
  | .hostFailed name fault => "Parent loader failed for " ++ name ++ ": " ++ fault.message
  | .settingsAbsent => "Config file not found, using defaults"
  | .settingsSaved path => "Configuration saved to " ++ path
  | .settingsUsed path => "Using config " ++ path

/-- An event as a line: its level and what it says, so that both are seen together. -/
def line (event : Event) : String := event.level.text ++ " " ++ event.message

end Event

end LayeredUnits
