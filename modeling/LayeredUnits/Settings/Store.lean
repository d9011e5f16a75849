import LayeredUnits.Event
import LayeredUnits.Settings.Text
import LayeredUnits.Text.Utf8
import LayeredUnits.Volume.Change
import LayeredUnits.Volume.Read

/-!
# Settings in a file

Settings are kept in one file. Where there is none the standard settings are
in force. Saving makes the directories on the way to the file first, and a
file that is there is overwritten only by settings that can be written.
-/

namespace LayeredUnits.Settings

/-- The settings that a file holds. They are validated, so whoever gets settings from here need not
look at them again. -/
def loadFile (volume : Volume) (path : String) : Except Fault Settings :=
  match volume.readText path with
  | .error kind => .error (.io ("reading config from " ++ path) (.io kind))
  | .ok text =>
    match ofToml text with
    | .ok settings => .ok settings
    | .error defect => .error (.settingsInvalid path defect)

/-- The settings in force when the settings file is at this path. A file that is missing is no
fault; one that cannot be read is. -/
def load (volume : Volume) (path : String) : Except Fault Settings × List Event :=
  if volume.exists? path then (loadFile volume path, [])
  else (.ok standard, [.settingsAbsent])

/-- Makes the directory that the settings file goes to, and those on the way to it. -/
def makeHome (volume : Volume) (path : String) : Except Fault Volume :=
  match Path.parent? path with
  | none => .ok volume
  | some parent =>
    match volume.makeDirectories parent with
    | .ok changed => .ok changed
    | .error kind => .error (.settingsDirectory parent kind)

/-- Writes settings to a file. What was done before a failure stays done: the directories are made
even if the settings turn out not to be writable. -/
def save (settings : Settings) (volume : Volume) (path : String) :
    Except Fault Unit × Volume × List Event :=
  match makeHome volume path with
  | .error fault => (.error fault, volume, [])
  | .ok volume =>
    match settings.toToml with
    | .error fault => (.error fault, volume, [])
    | .ok text =>
      match volume.writeFile path text.toUTF8 with
      | .error kind => (.error (.io ("writing config to " ++ path) (.io kind)), volume, [])
      | .ok volume => (.ok (), volume, [.settingsSaved path])

end LayeredUnits.Settings
