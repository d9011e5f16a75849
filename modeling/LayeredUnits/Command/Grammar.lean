import LayeredUnits.Command.Arguments

/-!
# The grammar of command lines

A command line goes through levels: it starts at the top, and the name of a
command or of a subcommand leads to a level below. Each level has keys, which
are switches and options with a value, and may have operands. Some keys are
known at every level.
-/

namespace LayeredUnits.Command

/-- A switch or an option, whichever way it is spelled. -/
inductive Key where
  | help
  | version
  | verbose
  | settings
  | directory
  | archive
  /-- Units are linked. -/
  | link
  | format
  /-- All locations of a resource are asked for. -/
  | locations
  /-- The bytes of a resource are asked for. -/
  | content
  | overwrite
deriving DecidableEq, Repr

namespace Key

/-- Whether a value belongs to the key. A key with a value is an option, and one without is a
switch. -/
def hasValue : Key → Bool
  | .settings | .directory | .archive | .format => true
  | _ => false

/-- Whether the key may stand more than once at a level. What may not is refused the second time,
and does not replace the first. -/
def repeats : Key → Bool
  | .verbose | .directory | .archive => true
  | _ => false

/-- Whether a value fits: a path is not empty, and a format has a known name. Whether there is
anything at a path does not matter here. -/
def admits (key : Key) (value : String) : Bool :=
  match key with
  | .settings | .directory | .archive => value != ""
  | .format => (Format.ofName? value).isSome
  | _ => true

end Key

/-- A level of a command line. The name of a command leads from one level to the next, and never
back. -/
inductive Scope where
  | top
  | load
  | resource
  | sources
  | settings
  | settingsPrint
  | settingsLocate
  | settingsCreate
deriving DecidableEq, Repr

namespace Scope

/-- The commands that lead on from a level, with the levels that they lead to. -/
def commands : Scope → List (String × Scope)
  | .top =>
    [("load", .load), ("resource", .resource), ("sources", .sources), ("config", .settings)]
  | .settings =>
    [("show", .settingsPrint), ("path", .settingsLocate), ("init", .settingsCreate)]
  | _ => []

/-- The command that asks for help on others. There is one wherever there are others. -/
def helpCommand : String := "help"

/-- Whether a name is that of a command which can stand at a level. Such a name is never taken for
an operand there. -/
def leadsOn (scope : Scope) (name : String) : Bool :=
  !scope.commands.isEmpty && (name == helpCommand || (scope.commands.lookup name).isSome)

/-- The keys that are known at a level only: the long name, the letter if there is one. A letter can
stand for different keys at different levels. -/
def ownKeys : Scope → List (String × Option Char × Key)
  | .load => [("resolve", none, .link), ("format", some 'f', .format)]
  | .resource => [("all", none, .locations), ("cat", none, .content)]
  | .sources => [("format", some 'f', .format)]
  | .settingsCreate => [("force", some 'f', .overwrite)]
  | _ => []

/-- The keys that are known at every level. They may stand before a command and after it. -/
def commonKeys : List (String × Option Char × Key) :=
  [("help", some 'h', .help), ("version", some 'V', .version), ("verbose", some 'v', .verbose),
    ("config", some 'c', .settings), ("dir", some 'd', .directory),
    ("archive", some 'a', .archive)]

/-- The key with a long name, which has to be written in full. -/
def long? (scope : Scope) (name : String) : Option Key :=
  ((scope.ownKeys ++ commonKeys).find? fun entry => entry.1 == name).map (·.2.2)

/-- The key with a letter. The own keys of a level come first. -/
def letter? (scope : Scope) (letter : Char) : Option Key :=
  ((scope.ownKeys ++ commonKeys).find? fun entry => entry.2.1 == some letter).map (·.2.2)

/-- How many operands there may be, if there is a bound. -/
def maxOperands : Scope → Option Nat
  | .load => none
  | .resource => some 1
  | _ => some 0

/-- Whether there is room for one more operand after so many. -/
def hasRoom (scope : Scope) (count : Nat) : Bool :=
  match scope.maxOperands with
  | none => true
  | some bound => count < bound

/-- Whether there has to be an operand. That there is none is found out at the end of a
level only. -/
def needsOperand : Scope → Bool
  | .load | .resource => true
  | _ => false

/-- Whether one of the commands has to follow. At the level of settings one may follow, and need
not. -/
def needsCommand : Scope → Bool
  | .top => true
  | _ => false

end Scope

end LayeredUnits.Command
