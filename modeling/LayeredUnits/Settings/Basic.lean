import LayeredUnits.Fault
import LayeredUnits.Probes

/-!
# Settings

What a user may set: how log lines are written, how loaders look units up, and
which sources are registered from the start. `validate` refuses the values
that no notation rules out by itself. `Options` are the part that a loader
needs.
-/

namespace LayeredUnits

/-- The largest unit that is accepted unless settings say otherwise: 64 MiB. -/
def defaultMaxUnitSize : Nat := 64 * 1024 * 1024

/-- How a loader looks units up. This is fixed when the loader is made, and nothing that happens to
it changes it. -/
structure Options where
  /-- The suffix of unit files. -/
  unitSuffix : String := defaultUnitSuffix
  /-- The largest unit that is accepted, in bytes. -/
  maxUnitSize : Nat := defaultMaxUnitSize
  /-- Whether failed lookups of units are remembered. -/
  remembersMisses : Bool := true
  /-- Names about which nothing is remembered. -/
  probes : Probes := .standard
deriving DecidableEq, Repr

/-- What a user may set. Any field may be left out, and each has the standard value that is given
here. -/
structure Settings where
  /-- How log lines are written: `text` or `json`. -/
  logFormat : String := "text"
  unitSuffix : String := defaultUnitSuffix
  maxUnitSize : Nat := defaultMaxUnitSize
  remembersMisses : Bool := true
  probes : Probes := .standard
  /-- Directories to register, in order. -/
  directories : List String := []
  /-- Archives to register, in order. -/
  archives : List String := []
deriving DecidableEq, Repr

namespace Settings

/-- The settings of a user who sets nothing. They are valid, and they are what is in force where
there is no file. -/
def standard : Settings := {}

/-- What is wrong with settings, if anything is. Only the first defect is told, in the order in
which they are looked for here. -/
def validate (settings : Settings) : Except SettingsDefect Unit :=
  if settings.maxUnitSize = 0 then .error .zeroUnitSize
  else if settings.unitSuffix = "" then .error .emptySuffix
  else if settings.logFormat ≠ "text" ∧ settings.logFormat ≠ "json" then
    .error (.unknownLogFormat settings.logFormat)
  else .ok ()

/-- The options that settings give to a loader. Unless other endings of speculative resource names
are set, it is the suffix of unit files that marks them: who changes the suffix need not say it
twice. -/
def options (settings : Settings) : Options :=
  { unitSuffix := settings.unitSuffix
    maxUnitSize := settings.maxUnitSize
    remembersMisses := settings.remembersMisses
    probes :=
      if settings.probes.resourceSuffixes = Probes.standard.resourceSuffixes then
        { settings.probes with resourceSuffixes := [settings.unitSuffix] }
      else settings.probes }

end Settings

end LayeredUnits
