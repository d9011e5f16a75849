import LayeredUnits.Shared
import LayeredUnits.Text.Quoted

/-!
# Faults

Everything that can go wrong, as causes. The wording is in `Fault.message`, and
`Fault.hint` is the advice that goes with it. A failed lookup is a fault that
carries its own record, the `Miss`: the record may be shared with later lookups
of the same name.
-/

namespace LayeredUnits

/-- What a failed lookup went through. It is written down when the lookup fails, and no later
registration changes it. -/
inductive Searched where
  /-- The host and this many directories and archives. -/
  | sources (directories archives : Nat)
  /-- What somebody else wrote down. -/
  | stated (text : String)
deriving DecidableEq, Repr

/-- The places that were searched, as shown. The host is always named first, since every lookup that
fails has asked it. -/
def Searched.text : Searched → String
  | .sources directories archives =>
    "host, " ++ toString directories ++ " directories, " ++ toString archives ++ " archives"
  | .stated text => text

/-- The record of a failed lookup. Whoever misses the name again may be given this very record, so
it says nothing that only one of them could know. -/
structure Miss where
  name : String
  searched : Searched
deriving DecidableEq, Repr

/-- How a record is shown, in the fault and in every line about it. -/
def Miss.text (miss : Miss) : String :=
  miss.name ++ " (searched: " ++ miss.searched.text ++ ")"

/-- Kinds of failures of the file system and of data streams. These are all that a volume and a
stream can come to; a closed file, for example, is not among them. -/
inductive IoKind where
  | notFound
  | notADirectory
  | isADirectory
  | alreadyExists
  | filesystemLoop
  | invalidInput
  | invalidData
  | unexpectedEof
deriving DecidableEq, Repr

/-- What the operating system says about a failure, with its own number where there is one. -/
def IoKind.text : IoKind → String
  | .notFound => "No such file or directory (os error 2)"
  | .notADirectory => "Not a directory (os error 20)"
  | .isADirectory => "Is a directory (os error 21)"
  | .alreadyExists => "File exists (os error 17)"
  | .filesystemLoop => "Too many levels of symbolic links (os error 40)"
  | .invalidInput => "file name contained an unexpected NUL byte"
  | .invalidData => "stream did not contain valid UTF-8"
  | .unexpectedEof => "unexpected end of file"

/-- Why bytes could not be read completely: the stream broke off, or it did not have the length that
was declared. -/
inductive ReadFault where
  | io (kind : IoKind)
  /-- The data ended early or went on. -/
  | length (expected got : Nat)
deriving DecidableEq, Repr

/-- Why an entry of an archive could not be opened. What is wrong with its data shows only when it
is read. -/
inductive EntryFault where
  /-- No entry has the name. -/
  | absent
  /-- The entry is encrypted or packed by a method that is not known. -/
  | unsupported
  /-- The archive contradicts itself. -/
  | invalid
  | io (kind : IoKind)
deriving DecidableEq, Repr

/-- Why a directory or archive cannot be registered. Nothing has been registered then. -/
inductive SourceDefect where
  | missingDirectory
  | notADirectory
  | missingArchive
  | notAnArchive
  | stated (text : String)
deriving DecidableEq, Repr

/-- The reason, as shown behind the path of the source. -/
def SourceDefect.text : SourceDefect → String
  | .missingDirectory => "directory does not exist"
  | .notADirectory => "not a directory"
  | .missingArchive => "archive file does not exist"
  | .notAnArchive => "not a zip archive"
  | .stated text => text

/-- Why settings or a manifest are refused: the text cannot be read, or it can be and a value in it
is one that `Settings.validate` refuses. -/
inductive SettingsDefect where
  /-- The text is not TOML, or its values do not fit. -/
  | malformed
  | zeroUnitSize
  | emptySuffix
  | unknownLogFormat (got : String)
  | stated (text : String)
deriving DecidableEq, Repr

/-- The reason, as shown. A fault in the validity of a value names the field that it is in. -/
def SettingsDefect.text : SettingsDefect → String
  | .malformed => "TOML parse error"
  | .zeroUnitSize => "loader.max_unit_size must be greater than zero"
  | .emptySuffix => "loader.unit_suffix must not be empty"
  | .unknownLogFormat got =>
    "general.log_format must be \"text\" or \"json\", got " ++ Text.quoted got
  | .stated text => text

/-- Everything that can go wrong. A fault carries its causes as values, and not as text, so that a
caller can tell them apart. -/
inductive Fault where
  /-- No place has the unit. -/
  | unitNotFound (miss : Shared Miss)
  /-- The name is bound already. -/
  | duplicateDefinition (name : String)
  | invalidSource (path : String) (defect : SourceDefect)
  /-- The declared size is zero or beyond the limit in force. -/
  | size (place : String) (size max : Nat)
  | archive (context : String) (cause : EntryFault)
  | settingsInvalid (path : String) (defect : SettingsDefect)
  | settingsDirectory (path : String) (kind : IoKind)
  | io (context : String) (cause : ReadFault)
  /-- A JSON value does not fit. -/
  | json
  | tomlRead
  /-- A value cannot be written as TOML. -/
  | tomlWrite
  | internal (text : String)
  | user (text : String)

namespace Fault

/-- How a fault is reported: one line, which names the unit, the path or the place that the fault is
about. -/
def message : Fault → String
  | .unitNotFound miss => "Unit not found: " ++ miss.value.text
  | .duplicateDefinition name => "Unit defined twice: " ++ name
  | .invalidSource path defect => "Invalid source " ++ path ++ ": " ++ defect.text
  | .size place declared limit =>
    "Invalid size " ++ toString declared ++ " for " ++ place ++ " (max " ++ toString limit ++ ")"
  | .archive context _ => "Archive error: " ++ context
  | .settingsInvalid path defect => "Invalid configuration at " ++ path ++ ": " ++ defect.text
  | .settingsDirectory path kind =>
    "Failed to create config directory " ++ path ++ ": " ++ kind.text
  | .io context _ => "IO error: " ++ context
  | .json => "JSON error"
  | .tomlRead => "TOML parse error"
  | .tomlWrite => "TOML serialize error"
  | .internal text => "Internal error: " ++ text
  | .user text => text

/-- Whether the fault is the expected "no source has it". Whoever looks for a unit that need not
exist takes this one for an answer. -/
def isNotFound : Fault → Bool
  | .unitNotFound _ => true
  | _ => false

/-- Advice on what to do about a fault. There is some only for what a user can set right. -/
def hint : Fault → Option String
  | .unitNotFound _ =>
    some "Register the directory or archive that provides it (--dir / --archive)"
  | .invalidSource .. => some "Check that the path exists and is readable"
  | .settingsInvalid .. => some "Run: strata config show"
  | _ => none

end Fault

end LayeredUnits
