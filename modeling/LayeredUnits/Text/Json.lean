/-!
# JSON texts

Values as JSON, either spread over lines with two blanks for each level of
nesting, or as one line. Strings are escaped as little as JSON allows.
-/

namespace LayeredUnits.Text

/-- A JSON value, as far as anything here is written. It is only ever written, and so numbers are
those that are counted here. -/
inductive Json where
  | null
  | boolean (value : Bool)
  | number (value : Nat)
  | text (value : String)
  | list (items : List Json)
  /-- Fields in the order in which they are written. -/
  | object (fields : List (String × Json))

namespace Json

/-- A text, or null where there is none. -/
def ofText? : Option String → Json
  | none => .null
  | some value => .text value

/-- The escape of a control character that has no short one, by its number in four digits. -/
def control (c : Char) : List Char :=
  ['\\', 'u', '0', '0', Nat.digitChar (c.toNat / 16), Nat.digitChar (c.toNat % 16)]

/-- One character of a string. Only what has to be escaped is, and so text in any language stays
readable. -/
def escaped (c : Char) : List Char :=
  if c = '"' then ['\\', '"']
  else if c = '\\' then ['\\', '\\']
  else if c = '\n' then ['\\', 'n']
  else if c = '\r' then ['\\', 'r']
  else if c = '\t' then ['\\', 't']
  else if c = '\x08' then ['\\', 'b']
  else if c = '\x0c' then ['\\', 'f']
  else if c < ' ' then control c
  else [c]

/-- A string between double quotes. -/
def quote (text : String) : String :=
  String.ofList ('"' :: text.toList.flatMap escaped ++ ['"'])

/-- The two blanks of one level of nesting. -/
def step : String := "  "

mutual

/-- A value over several lines. All lines but the first begin with `margin`. -/
def spread (margin : String) : Json → String
  | .null => "null"
  | .boolean value => if value then "true" else "false"
  | .number value => toString value
  | .text value => quote value
  | .list [] => "[]"
  | .list (item :: rest) =>
    "[\n" ++ spreadItems (margin ++ step) (item :: rest) ++ "\n" ++ margin ++ "]"
  | .object [] => "\x7b\x7d"
  | .object (field :: rest) =>
    "\x7b\n" ++ spreadFields (margin ++ step) (field :: rest) ++ "\n" ++ margin ++ "\x7d"

/-- The items of a list, a line or more for each. -/
def spreadItems (margin : String) : List Json → String
  | [] => ""
  | [item] => margin ++ item.spread margin
  | item :: rest => margin ++ item.spread margin ++ ",\n" ++ spreadItems margin rest

/-- The fields of an object, a line or more for each. -/
def spreadFields (margin : String) : List (String × Json) → String
  | [] => ""
  | [field] => margin ++ quote field.1 ++ ": " ++ field.2.spread margin
  | field :: rest =>
    margin ++ quote field.1 ++ ": " ++ field.2.spread margin ++ ",\n" ++
      spreadFields margin rest

end

mutual

/-- A value on one line, without blanks. A line break in a string is escaped, so it is one line
indeed. -/
def compact : Json → String
  | .null => "null"
  | .boolean value => if value then "true" else "false"
  | .number value => toString value
  | .text value => quote value
  | .list items => "[" ++ compactItems items ++ "]"
  | .object fields => "\x7b" ++ compactFields fields ++ "\x7d"

/-- The items of a list with commas between them. -/
def compactItems : List Json → String
  | [] => ""
  | [item] => item.compact
  | item :: rest => item.compact ++ "," ++ compactItems rest

/-- The fields of an object with commas between them. -/
def compactFields : List (String × Json) → String
  | [] => ""
  | [field] => quote field.1 ++ ":" ++ field.2.compact
  | field :: rest =>
    quote field.1 ++ ":" ++ field.2.compact ++ "," ++ compactFields rest

end

end Json

end LayeredUnits.Text
