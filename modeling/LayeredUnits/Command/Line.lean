import LayeredUnits.Command.Reading

/-!
# Reading a command line

A command line is read argument by argument. The name of a command ends the
present level and begins the one below; `help` asks about the commands that
follow it. At the end every level is checked, the last one first. A key that
is known at every level counts where it stands last among the levels. The
environment may name the settings file as well. That counts at the levels that
do not name one, each of which checks it.
-/

namespace LayeredUnits.Command

/-- The levels of a command line. Those above the last one have been read, but they are checked only
at the end. -/
structure Line where
  /-- The level that is read. -/
  reading : Reading
  /-- The levels above it, the nearest first. -/
  outer : List Reading := []

namespace Line

/-- The name of the program, as it is shown and as its directory of settings is called. -/
def program : String := "strata"

/-- The beginning of a command line. -/
def start : Line := { reading := { scope := .top, title := program } }

/-- What a question for help comes to: there is help if the commands asked about lead on
from one another. No command follows `help` itself. -/
def helpFor (scope : Scope) : List String → Refusal
  | [] => .help
  | name :: rest =>
    match scope.commands.lookup name with
    | some scope => helpFor scope rest
    | none =>
      if scope.leadsOn name && rest.isEmpty then .help else .unknownCommand

/-- Whether an argument is the name of a command, and stands where one may stand. A value that an
option waits for is never one. -/
def isCommand (reading : Reading) (argument : String) : Bool :=
  !reading.ended && !reading.awaits && reading.scope.leadsOn argument

/-- The line one level further down. The level above keeps what it has, and an option that is open
there stays open. -/
def enter (line : Line) (name : String) (scope : Scope) : Line :=
  { reading := { scope := scope, title := line.reading.title ++ "-" ++ name }
    outer := line.reading :: line.outer }

/-- Reads arguments up to the first that is refused. -/
def readAll (line : Line) : List String → Except Refusal Line
  | [] => .ok line
  | argument :: rest =>
    if isCommand line.reading argument then
      match line.reading.scope.commands.lookup argument with
      | some scope => (line.enter argument scope).readAll rest
      | none => .error (helpFor line.reading.scope rest)
    else do
      let reading ← line.reading.read argument
      readAll { line with reading := reading } rest

/-- Ends the levels above the last one, the nearest first. A command has led on from each
of them. -/
def finishOuter (named : Option String) : List Reading → Except Refusal (List Reading)
  | [] => .ok []
  | reading :: rest => do
    let reading ← reading.finish named true
    .ok (reading :: (← finishOuter named rest))

/-- All levels, ended and the last one first. So of several faults that show only at the end it is
that of the last level that counts. -/
def finish (line : Line) (named : Option String) : Except Refusal (Reading × List Reading) := do
  let reading ← line.reading.finish named false
  .ok (reading, ← finishOuter named line.outer)

/-- The values of a key at the last level where it stands. What stands further up is replaced, and
not added to. -/
def lastValues (key : Key) (readings : List Reading) : List String :=
  match readings.find? fun reading => reading.has key with
  | some reading => reading.values key
  | none => []

/-- The format that is asked for at a level, or the one for people. -/
def format (reading : Reading) : Format :=
  ((reading.values .format).head?.bind Format.ofName?).getD .table

/-- What the last level asks for. A level where an operand is needed has one by now, because it has
ended. -/
def task (reading : Reading) : Except Refusal Task :=
  match reading.scope with
  | .top => .error .missingCommand
  | .load => .ok (.load reading.operands (reading.has .link) (format reading))
  | .resource =>
    match reading.operands with
    | [] => .error .missingOperand
    | name :: _ =>
      .ok (.resource name
        (if reading.has .locations then .locations
        else if reading.has .content then .content
        else .location))
  | .sources => .ok (.sources (format reading))
  | .settings => .ok (.settings none)
  | .settingsPrint => .ok (.settings (some .print))
  | .settingsLocate => .ok (.settings (some .locate))
  | .settingsCreate => .ok (.settings (some (.create (reading.has .overwrite))))

/-- The largest verbosity that is told apart from larger ones. -/
def maxVerbosity : Nat := 255

end Line

/-- Reads a command line where the environment names a settings file, or none. -/
def Arguments.read (arguments : List String) (named : Option String := none) :
    Except Refusal Arguments := do
  let line ← Line.start.readAll arguments
  let (reading, outer) ← line.finish named
  let readings := reading :: outer
  .ok {
    task := ← Line.task reading
    verbosity := min (Line.lastValues .verbose readings).length Line.maxVerbosity
    settingsPath := (Line.lastValues .settings readings).head?
    directories := Line.lastValues .directory readings
    archives := Line.lastValues .archive readings }

theorem Line.finish_of_named (line : Line) {path : String} (h : path ≠ "") :
    line.finish (some path) = line.finish none := by
  have hreading (reading : Reading) (led : Bool) :
      reading.finish (some path) led = reading.finish none led := by
    unfold Reading.finish
    simp only [Reading.inherit_of_named _ h]
  have houter (readings : List Reading) :
      finishOuter (some path) readings = finishOuter none readings := by
    induction readings with
    | nil => rfl
    | cons reading rest ih =>
      unfold finishOuter
      rw [hreading, ih]
  unfold finish
  rw [hreading, houter]

/-- A command line is read in the same way whichever file the environment names. -/
theorem Arguments.read_of_named (arguments : List String) {path : String} (h : path ≠ "") :
    Arguments.read arguments (some path) = Arguments.read arguments := by
  unfold Arguments.read
  simp only [Line.finish_of_named _ h]

/-- Where the environment names the empty path, only a command line that names a file itself is
carried out. -/
theorem Arguments.settingsPath_of_blank {words : List String} {arguments : Arguments}
    (h : Arguments.read words (some "") = .ok arguments) : arguments.settingsPath ≠ none := by
  unfold Arguments.read Line.finish at h
  cases hline : Line.start.readAll words with
  | error refusal =>
    rw [hline] at h
    cases h
  | ok line =>
    rw [hline] at h
    cases hlast : line.reading.finish (some "") false with
    | error refusal => simp [bind, Except.bind, hlast] at h
    | ok last =>
      cases houter : Line.finishOuter (some "") line.outer with
      | error refusal => simp [bind, Except.bind, hlast, houter] at h
      | ok outer =>
        cases htask : Line.task last with
        | error refusal => simp [bind, Except.bind, hlast, houter, htask] at h
        | ok task =>
          simp only [bind, Except.bind, hlast, houter, htask] at h
          cases h
          have hhas := Reading.has_of_finish_blank hlast
          have hlevel : Line.lastValues .settings (last :: outer) = last.values .settings := by
            simp [Line.lastValues, hhas]
          show (Line.lastValues .settings (last :: outer)).head? ≠ none
          rw [hlevel]
          exact fun hnone =>
            Reading.values_ne_nil_of_has hhas (List.head?_eq_none_iff.mp hnone)

end LayeredUnits.Command
