import LayeredUnits.Settings.Basic
import LayeredUnits.Unit.Domain
import LayeredUnits.Value

/-!
# Reading records off values

Settings and manifests are records of named fields. A record is written as a
table, whose unknown fields are ignored and whose missing ones have their
standard values, or as a list of the fields in order, of which the last ones
may be missing. A list that is too long is accepted in TOML and refused in
JSON; a point in time counts as a table without known fields.
-/

namespace LayeredUnits

/-- The notation that a value was written in. The two differ in whether a list may be longer than
its record. -/
inductive Dialect where
  | toml
  | json
deriving DecidableEq, Repr

namespace Value

/-- A record as a function from field names. `names` are its fields in order. What is neither a
table nor a list, nor counts as one, is no record. -/
def record? (dialect : Dialect) (names : List String) : Value → Option (String → Option Value)
  | .table fields => some fun name => fields.lookup name
  | .moment => some fun _ => none
  | .list items =>
    if dialect = .json ∧ names.length < items.length then none
    else some fun name => (names.zip items).lookup name
  | _ => none

/-- A text. No other value is taken for one, not even a number. -/
def text? : Value → Option String
  | .text content => some content
  | _ => none

/-- A truth value. Texts such as "true" are none. -/
def boolean? : Value → Option Bool
  | .boolean value => some value
  | _ => none

/-- A number of 64 bits without a sign. A larger one does not fit, and is not cut off. -/
def natural? : Value → Option Nat
  | .integer n => if 0 ≤ n ∧ n < 0x10000000000000000 then some n.toNat else none
  | _ => none

/-- A list of texts, all of which have to be texts. -/
def texts? : Value → Option (List String)
  | .list items => items.mapM text?
  | _ => none

/-- A text that may be left out by saying null. To say null is not to leave the field out, but comes
to the same. -/
def optionalText? : Value → Option (Option String)
  | .null => some none
  | value => value.text?.map some

/-- A field that has to fit if it is there. If it is not, its standard value holds; so an old file
goes on being read when a field is added. -/
def field? {α : Type} (record : String → Option Value) (name : String)
    (read : Value → Option α) (standard : α) : Option α :=
  match record name with
  | none => some standard
  | some value => read value

end Value

open Value

/-- Patterns of speculative names. A list that is set replaces the standard one, and is not added to
it. -/
def Probes.ofValue? (dialect : Dialect) (value : Value) : Option Probes := do
  let record ← value.record? dialect ["unit_markers", "unit_suffixes", "resource_suffixes"]
  let markers ← field? record "unit_markers" texts? standard.unitMarkers
  let suffixes ← field? record "unit_suffixes" texts? standard.unitSuffixes
  let resources ← field? record "resource_suffixes" texts? standard.resourceSuffixes
  some ⟨markers, suffixes, resources⟩

/-- Settings as the section that holds them sets them. Each section changes its own fields only, and
a section that is missing changes none. -/
def Settings.ofValue? (dialect : Dialect) (value : Value) : Option Settings := do
  let sections ← value.record? dialect ["general", "loader", "probe", "sources"]
  -- A section is read over what has been read before, so that what it leaves out stays standard.
  let part (name : String) (read : Value → Settings → Option Settings) (settings : Settings) :
      Option Settings :=
    match sections name with
    | none => some settings
    | some value => read value settings
  let settings ← part "general" (fun value settings => do
    let record ← value.record? dialect ["log_format"]
    let format ← field? record "log_format" text? settings.logFormat
    some { settings with logFormat := format }) standard
  let settings ← part "loader" (fun value settings => do
    let record ← value.record? dialect ["unit_suffix", "max_unit_size", "negative_cache"]
    let suffix ← field? record "unit_suffix" text? settings.unitSuffix
    let size ← field? record "max_unit_size" natural? settings.maxUnitSize
    let remembers ← field? record "negative_cache" boolean? settings.remembersMisses
    some { settings with unitSuffix := suffix, maxUnitSize := size, remembersMisses := remembers })
    settings
  let settings ← part "probe" (fun value settings => do
    let probes ← Probes.ofValue? dialect value
    some { settings with probes := probes }) settings
  part "sources" (fun value settings => do
    let record ← value.record? dialect ["directories", "archives"]
    let directories ← field? record "directories" texts? settings.directories
    let archives ← field? record "archives" texts? settings.archives
    some { settings with directories := directories, archives := archives }) settings

/-- What a manifest says about a package. A field that does not fit makes the whole section
no use. -/
def Package.ofValue? (dialect : Dialect) (value : Value) : Option Package := do
  let record ← value.record? dialect ["title", "version", "vendor", "sealed", "seal_base"]
  let title ← field? record "title" optionalText? none
  let version ← field? record "version" optionalText? none
  let vendor ← field? record "vendor" optionalText? none
  let isSealed ← field? record "sealed" boolean? false
  let sealBase ← field? record "seal_base" optionalText? none
  some ⟨title, version, vendor, isSealed, sealBase⟩

end LayeredUnits
