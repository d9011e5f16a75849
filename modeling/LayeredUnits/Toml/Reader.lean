import LayeredUnits.Toml.Item
import LayeredUnits.Toml.Number

/-!
# Reading TOML

A text is read into its lines, each a pair of a key and a value or the header
of a table, and the lines build the table that the text stands for. Values may
be nested, and the depth to which they are bounds the recursion; keys may not
have as many parts as that either.
-/

namespace LayeredUnits.Toml

/-- Nesting has to stay below this depth. -/
def depthLimit : Nat := 80

/-- Whether a character may stand in a key without quotes. -/
def isBare (c : Char) : Bool := c.isAlphanum || c == '_' || c == '-'

/-- One part of a key. -/
def part? : List Char → Option (List Char × List Char)
  | '"' :: rest => basic rest
  | '\'' :: rest => literal rest
  | text =>
    match text.takeWhile isBare with
    | [] => none
    | part => some (part, text.dropWhile isBare)

/-- The parts of a key, which dots separate, with blanks around them. `parts` bounds how
many there are. -/
def keyWithin? : Nat → List Char → Option (Key × List Char)
  | 0, _ => none
  | parts + 1, text => do
    let (part, rest) ← part? (skipBlanks text)
    match skipBlanks rest with
    | '.' :: rest => do
      let (more, rest) ← keyWithin? parts rest
      some (String.ofList part :: more, rest)
    | rest => some ([String.ofList part], rest)

/-- A key. -/
def key? : List Char → Option (Key × List Char) := keyWithin? (depthLimit - 1)

/-- The items of a list up to the closing bracket, each read by `item`. `fuel` bounds how
many there are. -/
def elements? (item : List Char → Option (Value × List Char)) :
    Nat → List Char → Option (List Value × List Char)
  | 0, _ => none
  | fuel + 1, text =>
    match skipVoid false text with
    | ']' :: rest => some ([], rest)
    | text => do
      let (value, text) ← item text
      match skipVoid false text with
      | ',' :: rest => do
        let (values, rest) ← elements? item fuel rest
        some (value :: values, rest)
      | ']' :: rest => some ([value], rest)
      | _ => none

/-- The pairs of a table in braces up to the closing one. -/
def members? (item : List Char → Option (Value × List Char)) :
    Nat → List Char → Option (List (Key × Value) × List Char)
  | 0, _ => none
  | fuel + 1, text => do
    let (key, text) ← key? text
    let text ← after? '=' text
    let (value, text) ← item (skipBlanks text)
    match skipBlanks text with
    | ',' :: rest => do
      let (more, rest) ← members? item fuel rest
      some ((key, value) :: more, rest)
    | '\x7d' :: rest => some ([(key, value)], rest)
    | _ => none

/-- A table in braces, after the opening one. -/
def braced? (item : List Char → Option (Value × List Char)) (text : List Char) :
    Option (Value × List Char) :=
  match skipBlanks text with
  | '\x7d' :: rest => some (.table [], rest)
  | _ => do
    let (pairs, rest) ← members? item text.length text
    let fields ← addPairs pairs []
    some (.table (finishedFields fields), rest)

/-- A value nested at most `depth` deep. -/
def value? : Nat → List Char → Option (Value × List Char)
  | _, '"' :: rest => (string? ('"' :: rest)).map fun (text, rest) =>
    (.text (String.ofList text), rest)
  | _, '\'' :: rest => (string? ('\'' :: rest)).map fun (text, rest) =>
    (.text (String.ofList text), rest)
  | _, 't' :: 'r' :: 'u' :: 'e' :: rest => some (.boolean true, rest)
  | _, 'f' :: 'a' :: 'l' :: 's' :: 'e' :: rest => some (.boolean false, rest)
  | _, 'i' :: 'n' :: 'f' :: rest => some (.real, rest)
  | _, 'n' :: 'a' :: 'n' :: rest => some (.real, rest)
  | depth, '[' :: rest =>
    match depth with
    | 0 => none
    | depth + 1 => (elements? (value? depth) (rest.length + 1) rest).map fun (values, rest) =>
      (.list values, rest)
  | depth, '\x7b' :: rest =>
    match depth with
    | 0 => none
    | depth + 1 => braced? (value? depth) rest
  | _, text => numberOrMoment? text

/-- A line that says something. -/
inductive Line where
  | pair (key : Key) (value : Value)
  /-- The header of a table, or of a row of tables. -/
  | header (isRow : Bool) (key : Key)

/-- A line that says something, and what follows it. -/
def line? : List Char → Option (Line × List Char)
  | '[' :: '[' :: text => do
    let (key, text) ← key? text
    let text ← after? ']' text
    let text ← after? ']' text
    (endLine? text).map (.header true key, ·)
  | '[' :: text => do
    let (key, text) ← key? text
    let text ← after? ']' text
    (endLine? text).map (.header false key, ·)
  | text => do
    let (key, text) ← key? text
    let text ← after? '=' text
    let (value, text) ← value? (depthLimit - 1) (skipBlanks text)
    (endLine? text).map (.pair key value, ·)

/-- The lines that say something. Every line has a character at least, so the length of
the text is fuel enough. -/
def lines? : Nat → List Char → Option (List Line)
  | 0, _ => some []
  | fuel + 1, text =>
    match skipBlanks text with
    | [] => some []
    | '#' :: rest => (afterLine? (skipComment ('#' :: rest))).bind (lines? fuel)
    | c :: rest =>
      if c = '\n' ∨ c = '\r' then (afterBreak? (c :: rest)).bind (lines? fuel)
      else do
        let (line, rest) ← line? (c :: rest)
        let lines ← lines? fuel rest
        some (line :: lines)

/-- The pairs before the first header, and each header with the pairs that follow it. -/
def sections : List Line → List (Key × Value) × List (Bool × Key × List (Key × Value))
  | [] => ([], [])
  | .pair key value :: rest =>
    let (pairs, more) := sections rest
    ((key, value) :: pairs, more)
  | .header isRow key :: rest =>
    let (pairs, more) := sections rest
    ([], (isRow, key, pairs) :: more)

/-- The table that lines build. -/
def build? (lines : List Line) : Option Fields := do
  let (pairs, more) := sections lines
  let root ← addPairs pairs []
  more.foldlM (fun fields part => openTable part.1 (addPairs part.2.2) part.2.1 fields) root

/-- The fields of the table that a text stands for. A byte order mark at the beginning is
skipped. -/
def read? (text : String) : Option (List (String × Value)) :=
  let chars := text.toList
  let chars := if chars.head? == some '\uFEFF' then chars.drop 1 else chars
  ((lines? (chars.length + 1) chars).bind build?).map finishedFields

end LayeredUnits.Toml
