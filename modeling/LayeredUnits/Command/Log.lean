import LayeredUnits.Event
import LayeredUnits.Settings.Basic
import LayeredUnits.Text.Json

/-!
# Log lines

Which events are told to the user of the program, and how. Warnings always
are; each step of verbosity adds a level, up to debugging. A line is for
people, or JSON if the settings say so. A message for people must not be able
to steer the terminal that it is shown on, so the controls that could are
escaped.
-/

namespace LayeredUnits.Command

open Text (Json)

/-- The least important level that is told. More than twice as verbose is no different
from twice. -/
def leastLevel : Nat → Level
  | 0 => .warn
  | 1 => .info
  | _ => .debug

/-- The events that are told, in the order in which they happened. -/
def told (verbosity : Nat) (events : List Event) : List Event :=
  events.filter fun event => (leastLevel verbosity).rank ≤ event.level.rank

/-- One character of a message for people. Names come from archives that anybody may have made, so
what could steer a terminal is shown by its code. -/
def harmless (c : Char) : List Char :=
  if c = '\x07' ∨ c = '\x08' ∨ c = '\x0c' ∨ c = '\x1b' ∨ c = '\x7f' then
    ['\\', 'x', Nat.digitChar (c.toNat / 16), Nat.digitChar (c.toNat % 16)]
  else if '\x80' ≤ c ∧ c ≤ '\x9f' then
    ['\\', 'u', '\x7b'] ++ Nat.toDigits 16 c.toNat ++ ['\x7d']
  else [c]

/-- An event as a line for people: the level, right-aligned, and the message. A line break in a
message stays one. -/
def logText (event : Event) : String :=
  let level := event.level.text
  String.ofList (List.replicate (5 - level.length) ' ') ++ level ++ " " ++
    String.ofList (event.message.toList.flatMap harmless)

/-- An event as a line of JSON, where no character needs to be taken out. -/
def logJson (event : Event) : String :=
  Json.compact <| .object [
    ("level", .text event.level.text),
    ("fields", .object [("message", .text event.message)])]

/-- An event as a line, as the settings want it. Settings that are in force want one of
two forms. -/
def logLine (settings : Settings) (event : Event) : String :=
  if settings.logFormat = "json" then logJson event else logText event

/-- The lines about a fault: what went wrong, and the advice if there is any. They are shown however
little is told otherwise. -/
def faultLines (fault : Fault) : List String :=
  ("Error: " ++ fault.message) ::
    match fault.hint with
    | none => []
    | some hint => ["Hint: " ++ hint]

end LayeredUnits.Command
