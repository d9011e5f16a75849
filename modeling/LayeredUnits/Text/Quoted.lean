import LayeredUnits.Text.Unprintable

/-!
# Quoted text

How names are shown inside messages: between double quotes, with the quote and
the backslash escaped, the common controls by their letter, and any other
character that is not printed as itself by its code point in braces.
-/

namespace LayeredUnits.Text

/-- One character inside quotes. Printable ASCII is told apart first, and only for the rest the
tables are consulted. -/
def quotedChar (c : Char) : List Char :=
  if c = '"' then ['\\', '"']
  else if c = '\\' then ['\\', '\\']
  else if c = '\n' then ['\\', 'n']
  else if c = '\r' then ['\\', 'r']
  else if c = '\t' then ['\\', 't']
  else if c = '\x00' then ['\\', '0']
  else if ' ' ≤ c ∧ c ≤ '~' then [c]
  else if unprintable c then
    ['\\', 'u', '\x7b'] ++ Nat.toDigits 16 c.toNat ++ ['\x7d']
  else [c]

/-- A text between double quotes, escaped so that it stays on one line. -/
def quoted (text : String) : String :=
  String.ofList ('"' :: text.toList.flatMap quotedChar ++ ['"'])

end LayeredUnits.Text
