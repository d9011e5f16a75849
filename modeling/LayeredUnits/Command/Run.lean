import LayeredUnits.Command.Line
import LayeredUnits.Command.Log
import LayeredUnits.Command.Report
import LayeredUnits.Layers.Basic
import LayeredUnits.Settings.Store

/-!
# Running a command

A run of the program as a function: from its environment, its arguments and
the volume that it finds to the exit code, what it writes out, and the volume
that it leaves. The settings are loaded first, whatever the command. Commands
on units, resources and sources then register the sources of the settings and
those of the command line, and stop at the first that cannot be registered.
-/

namespace LayeredUnits.Command

/-- What a run finds around it, apart from the volume. Variables that nothing here reads are left
out. -/
structure Environment where
  /-- The home directory of the user. -/
  home : Option String := none
  /-- Where the user's settings of all programs are, if that is not the usual place. -/
  settingsHome : Option String := none
  /-- The settings file, if it is not the usual one. No run gets to its settings with the empty
  path here unless its command line names a file: the reader of arguments refuses it. -/
  settingsPath : Option String := none

namespace Environment

/-- The directory for the settings of all programs. One that is named by a relative path does not
count, since it would be another one in every directory. -/
def settingsDirectory (environment : Environment) : String :=
  match environment.settingsHome.filter Path.isAbsolute, environment.home with
  | some directory, _ => directory
  | none, some home => Path.join home ".config"
  | none, none => "."

/-- The usual settings file, which is in force if neither the command line nor the environment names
one. -/
def standardPath (environment : Environment) : String :=
  Path.join (Path.join environment.settingsDirectory Line.program) "config.toml"

/-- The settings file of a run. The command line comes before the environment. -/
def settingsFile (environment : Environment) (arguments : Arguments) : String :=
  (arguments.settingsPath.or environment.settingsPath).getD environment.standardPath

end Environment

/-- What a command comes to. A command that fails may have written something out by then. -/
structure Result where
  /-- What is written out. -/
  output : ByteArray := .empty
  /-- What stopped it, if anything did. -/
  fault : Option Fault := none
  volume : Volume
  events : List Event := []

/-- What a run comes to. This is all that can be seen of a run from outside. -/
structure Outcome where
  code : Nat
  /-- What is written out. -/
  output : ByteArray
  /-- The lines of the log and about the fault. -/
  report : List String
  volume : Volume

/-- What loading names came to, up to a fault other than a miss. A miss does not keep the names
after it from being loaded. -/
structure Loading where
  rows : List Row := []
  /-- The first miss. -/
  missed : Option Fault := none
  /-- What stopped the loading. -/
  fault : Option Fault := none
  events : List Event := []

/-- The rows with one more before them. Rows are put together from the last one on, so a miss that
comes before another replaces it, and in the end `missed` is the first. -/
def Loading.after (loading : Loading) (name : String)
    (found : Except Fault (Shared CodeUnit)) (events : List Event) : Loading :=
  match found with
  | .ok unit =>
    { loading with
      rows := ⟨name, some unit.value⟩ :: loading.rows
      events := events ++ loading.events }
  | .error fault =>
    { loading with
      rows := ⟨name, none⟩ :: loading.rows
      missed := some fault
      events := events ++ loading.events }

/-- Loads names one after the other, whether they are found or not. A fault other than a miss stops
it, and then no row is written at all. -/
def loadNames (link : Bool) (layers : Layers) : List String → Loading
  | [] => {}
  | name :: rest =>
    match layers.call 0 (.load name link) with
    | ⟨.unit (.ok unit), layers, events⟩ =>
      (loadNames link layers rest).after name (.ok unit) events
    | ⟨.unit (.error fault), layers, events⟩ =>
      if fault.isNotFound then (loadNames link layers rest).after name (.error fault) events
      else { fault := some fault, events := events }
    | ⟨_, _, events⟩ => { fault := some (.internal "no loader"), events := events }

/-- Text to write out. -/
def written (lines : List String) : ByteArray := (unlines lines).toUTF8

/-- Loads units and reports on them. A name that was not found is a fault in the end, when
everything has been reported. -/
def load (names : List String) (link : Bool) (format : Format) (layers : Layers) : Result :=
  let loading := loadNames link layers names
  match loading.fault with
  | some fault => { fault := some fault, volume := layers.volume, events := loading.events }
  | none =>
    { output := written (Row.report format loading.rows)
      fault := loading.missed
      volume := layers.volume
      events := loading.events }

/-- The fault of a resource that is nowhere. It is no failure of any lookup: that a resource is
nowhere is an answer like others. -/
def resourceMissing (name : String) : Fault := .user ("Resource not found: " ++ name)

/-- What is told about a resource, or what stops it; what comes before a failure of a stream
is written out all the same. -/
def resource (name : String) (view : ResourceView) (layers : Layers) : Result :=
  let call : Call :=
    match view with
    | .location => .resource name
    | .locations => .resources name
    | .content => .openResource name
  let ⟨reply, layers, events⟩ := layers.call 0 call
  let ended (output : ByteArray) (fault : Option Fault) : Result :=
    { output := output, fault := fault, volume := layers.volume, events := events }
  match reply with
  | .location (some location) => ended (written [location.text]) none
  | .locations (location :: rest) => ended (written ((location :: rest).map (·.text))) none
  | .stream (.ok (some stream)) =>
    ended stream.data (stream.failure.map fun kind => .io ("streaming " ++ name) (.io kind))
  | .stream (.error fault) => ended .empty (some fault)
  | _ => ended .empty (some (resourceMissing name))

/-- Makes a settings file with the standard settings. One that is there stays as it is, unless it is
to be overwritten. To leave it as it is counts as success. -/
def createSettings (overwrite : Bool) (path : String) (volume : Volume) : Result :=
  if volume.exists? path && !overwrite then
    { output := written [marked .warn
        ("Config already exists at " ++ path ++ " (use --force to overwrite)")]
      volume := volume }
  else
    match Settings.standard.save volume path with
    | (.error fault, volume, events) => { fault := some fault, volume := volume, events := events }
    | (.ok (), volume, events) =>
      { output := written [marked .ok ("Configuration initialized at " ++ path)]
        volume := volume
        events := events }

/-- Does something with the settings that were loaded, or with their file. -/
def settingsTask (task : SettingsTask) (path : String) (settings : Settings) (volume : Volume) :
    Result :=
  match task with
  | .print =>
    match settings.toToml with
    | .error fault => { fault := some fault, volume := volume }
    | .ok text => { output := written [text], volume := volume }
  | .locate => { output := written [path], volume := volume }
  | .create overwrite => createSettings overwrite path volume

/-- The loader of a run, with the sources of the settings and those of the command line. Those of
the settings come first, and so they have the say. -/
def openLoader (arguments : Arguments) (settings : Settings) (volume : Volume) :
    Turn (Except Fault Unit) :=
  match Loader.ofSettings 0 settings volume with
  | ⟨.error fault, loader, events⟩ => ⟨.error fault, loader, events⟩
  | ⟨.ok (), loader, events⟩ =>
    let ⟨reply, loader, more⟩ :=
      loader.registerSources volume arguments.directories arguments.archives
    ⟨reply, loader, events ++ more⟩

/-- Has a loader do something, once its sources are registered. A source that cannot be registered
stops the command before it begins. -/
def withLoader (arguments : Arguments) (settings : Settings) (volume : Volume)
    (action : Layers → Result) : Result :=
  match openLoader arguments settings volume with
  | ⟨.error fault, _, events⟩ => { fault := some fault, volume := volume, events := events }
  | ⟨.ok (), loader, events⟩ =>
    let result := action { volume := volume, layers := [⟨loader, .none⟩] }
    { result with events := events ++ result.events }

/-- Reports on the registered sources, in the order of registration. -/
def sources (format : Format) (layers : Layers) : Result :=
  { output :=
      written (SourceReport.report format (layers.layers.flatMap (·.loader.summaries)))
    volume := layers.volume }

/-- Carries a command out. Commands on settings come without a loader. -/
def perform (arguments : Arguments) (path : String) (settings : Settings) (volume : Volume) :
    Result :=
  match arguments.task with
  | .settings task => settingsTask (task.getD .print) path settings volume
  | .load names link format =>
    withLoader arguments settings volume (load names link format)
  | .resource name view => withLoader arguments settings volume (resource name view)
  | .sources format => withLoader arguments settings volume (sources format)

/-- Carries out what a command line asks for. The settings are loaded before anything else, so no
command gets by a settings file that cannot be used. -/
def carryOut (environment : Environment) (arguments : Arguments) (volume : Volume) : Outcome :=
  let path := environment.settingsFile arguments
  match (Settings.load volume path).1 with
  | .error fault =>
    { code := 1, output := .empty, report := faultLines fault, volume := volume }
  | .ok settings =>
    let result := perform arguments path settings volume
    let log := (told arguments.verbosity (.settingsUsed path :: result.events)).map
      (logLine settings)
    { code := if result.fault.isSome then 1 else 0
      output := result.output
      report := log ++ (result.fault.map faultLines).getD []
      volume := result.volume }

/-- The version of the program. -/
def version : String := "0.3.0"

/-- How the program is used, which is also what a command line that cannot be read is
answered with. -/
def usage : List String := [
  "Strata - layered code-unit loader",
  "",
  "Usage: strata [OPTIONS] <COMMAND>",
  "",
  "Commands:",
  "  load      Load units by name",
  "  resource  Resolve a resource",
  "  sources   List registered sources",
  "  config    Show or edit configuration",
  "  help      Print this message",
  "",
  "Options:",
  "  -v, --verbose            Increase verbosity (-v info, -vv debug)",
  "  -c, --config <CONFIG>    Configuration file path",
  "  -d, --dir <DIRS>         Extra directory source, registered after configured ones",
  "  -a, --archive <ARCHIVES> Extra archive source, registered after configured ones",
  "  -h, --help               Print help",
  "  -V, --version            Print version"]

/-- What a run comes to whose command line is not carried out. Only help and the version are no
failure. -/
def refused (refusal : Refusal) (volume : Volume) : Outcome :=
  match refusal with
  | .help => { code := 0, output := written usage, report := [], volume := volume }
  | .version title =>
    { code := 0, output := written [title ++ " " ++ version], report := [], volume := volume }
  | _ => { code := 2, output := .empty, report := usage, volume := volume }

/-- The settings file and the sources that a run looks at, as far as the volume shows the settings.
Whoever gives a run its volume has to put these into it. -/
def pathsRead (environment : Environment) (arguments : List String) (volume : Volume) :
    List String :=
  match Arguments.read arguments environment.settingsPath with
  | .error _ => []
  | .ok arguments =>
    let path := environment.settingsFile arguments
    let listed :=
      match (Settings.load volume path).1 with
      | .ok settings => settings.directories ++ settings.archives
      | .error _ => []
    path :: listed ++ arguments.directories ++ arguments.archives

/-- The settings file that a run has changed, with what it holds now. A run changes no
other file. -/
def settingsWritten (environment : Environment) (arguments : List String)
    (before after : Volume) : Option (String × ByteArray) :=
  match Arguments.read arguments environment.settingsPath with
  | .error _ => none
  | .ok arguments =>
    let path := environment.settingsFile arguments
    match before.fileBytes path, after.fileBytes path with
    | .ok old, .ok new => if old.data = new.data then none else some (path, new)
    | .error _, .ok new => some (path, new)
    | _, .error _ => none

/-- Runs the program. A run depends on these three things and on nothing else. -/
def run (environment : Environment) (arguments : List String) (volume : Volume) : Outcome :=
  match Arguments.read arguments environment.settingsPath with
  | .error refusal => refused refusal volume
  | .ok arguments => carryOut environment arguments volume

end LayeredUnits.Command
