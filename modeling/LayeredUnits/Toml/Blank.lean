/-!
# White space and comments in TOML

Blanks are spaces and tabs. A line ends with a line feed, with or without a
carriage return before it. A comment runs from `#` to the end of its line and
may hold any character but controls.

Texts are lists of characters here and in the other TOML modules, and a reader
gives back what it did not use. A text that breaks a rule is simply refused:
what exactly is wrong with it is never told.
-/

namespace LayeredUnits.Toml

/-- Space or tab. -/
def isBlank (c : Char) : Bool := c == ' ' || c == '\t'

/-- Whether a character may stand as it is in a comment or string: every character but
the controls other than tab. -/
def isPlain (c : Char) : Bool := c == '\t' || (0x20 ≤ c.toNat && c.toNat != 0x7F)

/-- A text without the blanks that it starts with. Line breaks are no blanks here. -/
def skipBlanks (text : List Char) : List Char := text.dropWhile isBlank

/-- What follows a line break. -/
def afterBreak? : List Char → Option (List Char)
  | '\n' :: rest => some rest
  | '\r' :: '\n' :: rest => some rest
  | _ => none

/-- What follows the end of a line, which is a line break or the end of the text. -/
def afterLine? : List Char → Option (List Char)
  | [] => some []
  | text => afterBreak? text

/-- A text without the comment that it starts with, if it does. -/
def skipComment : List Char → List Char
  | '#' :: rest => rest.dropWhile isPlain
  | text => text

/-- What follows the rest of a line that holds nothing more than blanks and a comment. Anything else
there makes the text malformed. -/
def endLine? (text : List Char) : Option (List Char) := afterLine? (skipComment (skipBlanks text))

/-- A text without the blanks, line breaks and comments that it starts with.
`inComment` says that it starts within a comment. -/
def skipVoid (inComment : Bool) : List Char → List Char
  | [] => []
  | '\n' :: rest => skipVoid false rest
  | '\r' :: '\n' :: rest => skipVoid false rest
  | c :: rest =>
    if inComment then
      if isPlain c then skipVoid true rest else c :: rest
    else if isBlank c then skipVoid false rest
    else if c = '#' then skipVoid true rest
    else c :: rest

end LayeredUnits.Toml
