import LayeredUnits.Command.Arguments
import LayeredUnits.Loader.Sources
import LayeredUnits.Text.Json
import LayeredUnits.Unit.Basic

/-!
# Reports

What commands write out. A report on loaded units has one row for each name
that was asked for, whether it was found or not; a report on sources has one
row for each source. Every report is a list of lines.
-/

namespace LayeredUnits.Command

open Text (Json)

/-- How well something went, at the beginning of a line for people. -/
inductive Mark where
  | ok
  | info
  | warn
  | error
deriving DecidableEq, Repr

/-- A mark as shown, in brackets and without colour. -/
def Mark.text : Mark → String
  | .ok => "[OK]"
  | .info => "[INFO]"
  | .warn => "[WARN]"
  | .error => "[ERROR]"

/-- A line that begins with a mark. -/
def marked (mark : Mark) (message : String) : String := "  " ++ mark.text ++ " " ++ message

/-- A line that tells something about the marked line above it, further in than that one. -/
def detail (label value : String) : String := "    " ++ label ++ ": " ++ value

/-- A text with blanks after it, at least so many characters long. A longer text is not cut off, and
so it moves what follows it. -/
def padded (width : Nat) (text : String) : String :=
  text ++ String.ofList (List.replicate (width - text.length) ' ')

/-- A name that was to be loaded, and the unit that was found for it. Why none was found is not for
the report. -/
structure Row where
  name : String
  unit : Option CodeUnit

namespace Row

/-- A row for people. -/
def table (row : Row) : List String :=
  match row.unit with
  | none => [marked .error (row.name ++ " (not found)")]
  | some unit =>
    [marked .ok row.name,
      detail "origin" unit.origin.text,
      detail "domain" unit.domain.value.text,
      detail "size" (toString unit.size ++ " bytes"),
      detail "sha256" unit.digest]

/-- What a manifest says, as JSON. Fields of which it says nothing are null, and all fields are
there. -/
def package (package : Package) : Json :=
  .object [
    ("seal_base", .ofText? package.sealBase),
    ("sealed", .boolean package.isSealed),
    ("title", .ofText? package.title),
    ("vendor", .ofText? package.vendor),
    ("version", .ofText? package.version)]

/-- A row as JSON. -/
def json (row : Row) : Json :=
  match row.unit with
  | none => .object [("found", .boolean false), ("name", .text row.name)]
  | some unit =>
    .object [
      ("domain", .ofText? unit.domain.value.origin),
      ("found", .boolean true),
      ("name", .text row.name),
      ("origin", .text unit.origin.text),
      ("package", package unit.domain.value.package),
      ("sha256", .text unit.digest),
      ("size", .number unit.size)]

/-- A row on one line: the name and where its unit came from, or a dash. Scripts cut it at
the tab. -/
def plain (row : Row) : String :=
  match row.unit with
  | none => row.name ++ "\t-"
  | some unit => row.name ++ "\t" ++ unit.origin.text

/-- A report on loaded units. -/
def report (format : Format) (rows : List Row) : List String :=
  match format with
  | .table => "Units" :: rows.flatMap table
  | .json => [(Json.list (rows.map json)).spread ""]
  | .plain => rows.map plain

end Row

namespace SourceReport

/-- The columns of the table of sources. The last one is as wide as it has to be. -/
def columns (kind units active location : String) : String :=
  padded 10 kind ++ " " ++ padded 8 units ++ " " ++ padded 8 active ++ " " ++ location

/-- The short name of a kind of source, which fits into its column. -/
def kindName : SourceKind → String
  | .directory => "dir"
  | .archive => "archive"

/-- A source in the table: the units that it has, and how many of them counted when it was
registered. -/
def line (source : SourceSummary) : String :=
  columns (kindName source.kind) (toString source.units) (toString source.indexed)
    source.location

/-- The line below the names of the columns. -/
def rule : String := String.ofList (List.replicate 60 '-')

/-- A source as JSON. -/
def json (source : SourceSummary) : Json :=
  .object [
    ("kind", .text source.kind.text),
    ("location", .text source.location),
    ("units", .number source.units),
    ("indexed", .number source.indexed)]

/-- The table of sources. -/
def table (sources : List SourceSummary) : List String :=
  if sources.isEmpty then [marked .info "No sources registered"]
  else
    ["Sources", columns "KIND" "UNITS" "ACTIVE" "LOCATION", rule] ++ sources.map line ++
      ["", toString sources.length ++ " source(s)"]

/-- A report on sources. -/
def report (format : Format) (sources : List SourceSummary) : List String :=
  match format with
  | .table => table sources
  | .json => [(Json.list (sources.map json)).spread ""]
  | .plain => sources.map (·.location)

end SourceReport

/-- Lines as text, each with its end, the last one too. -/
def unlines (lines : List String) : String := String.join (lines.map (· ++ "\n"))

end LayeredUnits.Command
