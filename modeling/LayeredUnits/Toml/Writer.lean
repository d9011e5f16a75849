/-!
# Writing TOML

A string is written in the plainest form that holds it: between double quotes
if nothing in it has to be escaped, between single quotes if those hold it as
it is, then with either quotes tripled, and with escapes if nothing else will
do. Lists are written on one line if they have at most one item, and an item a
line otherwise.
-/

namespace LayeredUnits.Toml

/-- How a string is written. -/
inductive Form where
  /-- Between double quotes, with escapes. -/
  | basic
  /-- Between single quotes, as it is. -/
  | literal
  /-- Between triple double quotes, with escapes but for line breaks. -/
  | wideBasic
  /-- Between triple single quotes, as it is. -/
  | wideLiteral
deriving DecidableEq, Repr

/-- Whether a character can be written only as an escape, wherever it stands: the controls
but tab and line feed. -/
def needsEscape (c : Char) : Bool :=
  c != '\t' && c != '\n' && (c.toNat < 0x20 || c.toNat == 0x7F)

/-- The length of the longest run of a character in a text that comes after `run` more of
them. -/
def longestRun (c : Char) (run : Nat) : List Char → Nat
  | [] => run
  | d :: rest => if d = c then longestRun c (run + 1) rest else max run (longestRun c 0 rest)

/-- The form in which a string is written. -/
def form (text : List Char) : Form :=
  let escapes := text.any needsEscape
  let backslash := text.contains '\\'
  let breaks := text.contains '\n'
  if !escapes && !backslash && !text.contains '"' && !breaks then .basic
  else if !escapes && !text.contains '\'' && !breaks then .literal
  else if !escapes && !backslash && longestRun '"' 0 text ≤ 2 then .wideBasic
  else if !escapes && longestRun '\'' 0 text ≤ 2 then .wideLiteral
  else if breaks then .wideBasic
  else .basic

/-- The four digits of a number in capital hexadecimal. -/
def fourDigits (n : Nat) : List Char :=
  [n / 4096 % 16, n / 256 % 16, n / 16 % 16, n % 16].map fun d => (Nat.digitChar d).toUpper

/-- A character other than a double quote, with escapes. `wide` says that line breaks stay
as they are. -/
def escaped (wide : Bool) (c : Char) : List Char :=
  if c = '\x08' then ['\\', 'b']
  else if c = '\t' then ['\\', 't']
  else if c = '\n' then if wide then ['\n'] else ['\\', 'n']
  else if c = '\x0c' then ['\\', 'f']
  else if c = '\r' then ['\\', 'r']
  else if c = '\\' then ['\\', '\\']
  else if needsEscape c then '\\' :: 'u' :: fourDigits c.toNat
  else [c]

/-- A string with escapes. Of a run of double quotes every one is escaped after `most` that
are not; `run` counts those that were not. -/
def escapedText (wide : Bool) (most run : Nat) : List Char → List Char
  | [] => []
  | '"' :: rest =>
    if run < most then '"' :: escapedText wide most (run + 1) rest
    else '\\' :: '"' :: escapedText wide most 0 rest
  | c :: rest => escaped wide c ++ escapedText wide most 0 rest

/-- A string between its quotes. -/
def quoteList (text : List Char) : List Char :=
  let opening := if text.contains '\n' then ['\n'] else []
  match form text with
  | .basic => '"' :: escapedText false 0 0 text ++ ['"']
  | .literal => '\'' :: text ++ ['\'']
  | .wideBasic => ['"', '"', '"'] ++ opening ++ escapedText true 2 0 text ++ ['"', '"', '"']
  | .wideLiteral => ['\'', '\'', '\''] ++ opening ++ text ++ ['\'', '\'', '\'']

/-- A string as it is written. -/
def quote (text : String) : String := String.ofList (quoteList text.toList)

/-- A list of strings as it is written. -/
def list : List String → String
  | [] => "[]"
  | [item] => "[" ++ quote item ++ "]"
  | items => "[\n" ++ String.join (items.map fun item => "    " ++ quote item ++ ",\n") ++ "]"

/-- A key with its value on a line. -/
def pairLine (key value : String) : String := key ++ " = " ++ value ++ "\n"

end LayeredUnits.Toml
