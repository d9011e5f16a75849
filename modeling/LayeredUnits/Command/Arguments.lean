/-!
# What a command line asks for

The commands with what each of them is given, the settings that hold for all
of them, and the ways in which a command line can be refused. A request for
help or for the version also ends the reading of a command line, and so it is
one of these.
-/

namespace LayeredUnits.Command

/-- How a report is written. Each command that can be asked for a format has all three. -/
inductive Format where
  /-- For people. -/
  | table
  | json
  /-- One item a line. -/
  | plain
deriving DecidableEq, Repr

/-- The format of this name. Names are written in small letters, and no other spelling counts. -/
def Format.ofName? : String → Option Format
  | "table" => some .table
  | "json" => some .json
  | "plain" => some .plain
  | _ => none

/-- The name of a format, as it is written on a command line. -/
def Format.name : Format → String
  | .table => "table"
  | .json => "json"
  | .plain => "plain"

/-- What is told about a resource. Only one of the three can be asked for at a time. -/
inductive ResourceView where
  /-- Its first location. -/
  | location
  /-- All its locations. -/
  | locations
  /-- The bytes at its first location. -/
  | content
deriving DecidableEq, Repr

/-- What is done with the settings. None of these needs a loader, so no source is registered for
them. -/
inductive SettingsTask where
  /-- They are written out. -/
  | print
  /-- The path of their file is written out. -/
  | locate
  /-- A file with the standard settings is made, in place of an old one if `overwrite`. -/
  | create (overwrite : Bool)
deriving DecidableEq, Repr

/-- A command, with what belongs to it alone. -/
inductive Task where
  /-- Units are loaded, and linked by the host if `link`. -/
  | load (names : List String) (link : Bool) (format : Format)
  | resource (name : String) (view : ResourceView)
  /-- The registered sources are listed. -/
  | sources (format : Format)
  /-- Something is done with the settings. If nothing is named they are written out. -/
  | settings (task : Option SettingsTask)
deriving DecidableEq, Repr

/-- What a command line asks for: a command, and what can be said with every command. -/
structure Arguments where
  task : Task
  /-- How much is told about the work, from 0 on. -/
  verbosity : Nat := 0
  /-- The file with the settings, if one is named. -/
  settingsPath : Option String := none
  /-- Directories to register after those of the settings. -/
  directories : List String := []
  /-- Archives to register after those of the settings. -/
  archives : List String := []
deriving DecidableEq, Repr

/-- Why a command line is not carried out. Nothing has been looked at by then but the command line
and the name of the settings file in the environment. -/
inductive Refusal where
  /-- Help is asked for. -/
  | help
  /-- The version is asked for, of the command with this title. -/
  | version (title : String)
  /-- Nothing at all is asked for. -/
  | nothingAsked
  | missingCommand
  | unknownCommand
  | unknownArgument
  /-- A value is missing or does not fit. -/
  | badValue
  /-- A value is given to a switch. -/
  | needlessValue
  /-- Two arguments exclude each other, or one stands twice. -/
  | conflict
  | missingOperand
deriving DecidableEq, Repr

/-- Whether the refusal is what was asked for: help and the version are given gladly, and a run that
gives them has not failed. -/
def Refusal.isAnswer : Refusal → Bool
  | .help | .version _ => true
  | _ => false

end LayeredUnits.Command
