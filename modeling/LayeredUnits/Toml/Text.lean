import LayeredUnits.Toml.Blank

/-!
# Strings in TOML

TOML writes strings in four ways: between double quotes with escapes or
between single quotes as they are, and each of these on one line or, with the
quotes tripled, over several. Each reader starts after the opening quotes and
ends after the closing ones.
-/

namespace LayeredUnits.Toml

/-- The number of a hexadecimal digit. -/
def hexDigit? (c : Char) : Option Nat :=
  if c.isDigit then some (c.toNat - '0'.toNat)
  else if 'a' ≤ c ∧ c ≤ 'f' then some (c.toNat - 'a'.toNat + 10)
  else if 'A' ≤ c ∧ c ≤ 'F' then some (c.toNat - 'A'.toNat + 10)
  else none

/-- The character whose number these digits write. -/
def charOfHex? (digits : List Char) : Option Char := do
  let number ← digits.foldlM (fun n c => (hexDigit? c).map (16 * n + ·)) 0
  if h : number.isValidChar then some ⟨UInt32.ofNatLT number (by
    rcases h with h | h <;> simp_all [UInt32.size] <;> omega), by
    simpa [UInt32.isValidChar, UInt32.toNat_ofNatLT] using h⟩ else none

/-- The character that one letter after a backslash stands for. -/
def shortEscape? : Char → Option Char
  | 'b' => some '\x08'
  | 't' => some '\t'
  | 'n' => some '\n'
  | 'f' => some '\x0c'
  | 'r' => some '\r'
  | '"' => some '"'
  | '\\' => some '\\'
  | _ => none

/-- Puts a character in front of what a reader read. -/
def prepend (c : Char) (read : List Char × List Char) : List Char × List Char :=
  (c :: read.1, read.2)

/-- A string between double quotes. -/
def basic : List Char → Option (List Char × List Char)
  | '"' :: rest => some ([], rest)
  | '\\' :: 'u' :: a :: b :: c :: d :: rest => do
    let char ← charOfHex? [a, b, c, d]
    (basic rest).map (prepend char)
  | '\\' :: 'U' :: a :: b :: c :: d :: e :: f :: g :: h :: rest => do
    let char ← charOfHex? [a, b, c, d, e, f, g, h]
    (basic rest).map (prepend char)
  | '\\' :: e :: rest => do
    let char ← shortEscape? e
    (basic rest).map (prepend char)
  | c :: rest => if isPlain c && c != '\\' then (basic rest).map (prepend c) else none
  | [] => none

/-- A string between single quotes. -/
def literal : List Char → Option (List Char × List Char)
  | '\'' :: rest => some ([], rest)
  | c :: rest => if isPlain c then (literal rest).map (prepend c) else none
  | [] => none

/-- Whether only blanks come before the next line break. -/
def breaksNext (text : List Char) : Bool := (afterBreak? (skipBlanks text)).isSome

/-- A string between triple double quotes. A backslash at the end of a line takes away
the line break and all white space after it, which is skipped while `skipping`. -/
def wideBasic (skipping : Bool) : List Char → Option (List Char × List Char)
  | '"' :: '"' :: '"' :: '"' :: '"' :: rest => some (['"', '"'], rest)
  | '"' :: '"' :: '"' :: '"' :: rest => some (['"'], rest)
  | '"' :: '"' :: '"' :: rest => some ([], rest)
  | '\r' :: '\n' :: rest =>
    if skipping then wideBasic true rest else (wideBasic false rest).map (prepend '\n')
  | '\n' :: rest =>
    if skipping then wideBasic true rest else (wideBasic false rest).map (prepend '\n')
  | '\\' :: 'u' :: a :: b :: c :: d :: rest => do
    let char ← charOfHex? [a, b, c, d]
    (wideBasic false rest).map (prepend char)
  | '\\' :: 'U' :: a :: b :: c :: d :: e :: f :: g :: h :: rest => do
    let char ← charOfHex? [a, b, c, d, e, f, g, h]
    (wideBasic false rest).map (prepend char)
  | '\\' :: e :: rest =>
    -- Blanks may stand between the backslash and the end of its line.
    if breaksNext (e :: rest) then
      if e = '\r' then wideBasic true (e :: rest) else wideBasic true rest
    else do
      let char ← shortEscape? e
      (wideBasic false rest).map (prepend char)
  | c :: rest =>
    if skipping && isBlank c then wideBasic true rest
    else if isPlain c && c != '\\' then (wideBasic false rest).map (prepend c)
    else none
  | [] => none

/-- A string between triple single quotes. -/
def wideLiteral : List Char → Option (List Char × List Char)
  | '\'' :: '\'' :: '\'' :: '\'' :: '\'' :: rest => some (['\'', '\''], rest)
  | '\'' :: '\'' :: '\'' :: '\'' :: rest => some (['\''], rest)
  | '\'' :: '\'' :: '\'' :: rest => some ([], rest)
  | '\r' :: '\n' :: rest => (wideLiteral rest).map (prepend '\n')
  | '\n' :: rest => (wideLiteral rest).map (prepend '\n')
  | c :: rest => if isPlain c then (wideLiteral rest).map (prepend c) else none
  | [] => none

/-- A text without the line break that it starts with, if it does. -/
def skipBreak (text : List Char) : List Char := (afterBreak? text).getD text

/-- A string in any of the four ways. -/
def string? : List Char → Option (List Char × List Char)
  | '"' :: '"' :: '"' :: rest => wideBasic false (skipBreak rest)
  | '"' :: rest => basic rest
  | '\'' :: '\'' :: '\'' :: rest => wideLiteral (skipBreak rest)
  | '\'' :: rest => literal rest
  | _ => none

end LayeredUnits.Toml
