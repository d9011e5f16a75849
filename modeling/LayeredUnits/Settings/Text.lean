import LayeredUnits.Settings.Decode
import LayeredUnits.Toml.Reader
import LayeredUnits.Toml.Writer

/-!
# Settings as text

Settings are written as TOML, section by section, and read back from it. TOML
has signed numbers of 64 bits, so settings with a larger size limit cannot be
written.
-/

namespace LayeredUnits.Settings

/-- The largest number that TOML can hold. Settings can hold larger ones, which come
from elsewhere. -/
def maxWritten : Nat := 0x7FFFFFFFFFFFFFFF

/-- Settings as TOML, with every field written out, so that a file shows all that can be set. It
fails on a size limit that TOML has no number for. -/
def toToml (settings : Settings) : Except Fault String :=
  if maxWritten < settings.maxUnitSize then .error .tomlWrite
  else
    .ok <| String.join [
      "[general]\n",
      Toml.pairLine "log_format" (Toml.quote settings.logFormat),
      "\n[loader]\n",
      Toml.pairLine "unit_suffix" (Toml.quote settings.unitSuffix),
      Toml.pairLine "max_unit_size" (toString settings.maxUnitSize),
      Toml.pairLine "negative_cache" (if settings.remembersMisses then "true" else "false"),
      "\n[probe]\n",
      Toml.pairLine "unit_markers" (Toml.list settings.probes.unitMarkers),
      Toml.pairLine "unit_suffixes" (Toml.list settings.probes.unitSuffixes),
      Toml.pairLine "resource_suffixes" (Toml.list settings.probes.resourceSuffixes),
      "\n[sources]\n",
      Toml.pairLine "directories" (Toml.list settings.directories),
      Toml.pairLine "archives" (Toml.list settings.archives)]

/-- The settings that a TOML text holds, whether they are valid or not. There are none if the text
is not TOML or a value is of the wrong kind. -/
def ofToml? (text : String) : Option Settings := do
  let fields ← Toml.read? text
  Settings.ofValue? .toml (.table fields)

/-- The valid settings that a TOML text holds, or what is wrong with it. -/
def ofToml (text : String) : Except SettingsDefect Settings := do
  match ofToml? text with
  | none => .error .malformed
  | some settings =>
    settings.validate
    .ok settings

end LayeredUnits.Settings
