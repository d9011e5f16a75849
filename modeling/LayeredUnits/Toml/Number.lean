import LayeredUnits.Toml.Text
import LayeredUnits.Value

/-!
# Numbers and points in time in TOML

A value that starts with a digit or a sign is a point in time if it has the
shape of one, and else a number. Underscores may stand between digits, leading
zeros may not stand before decimal ones, and integers have to fit into 64
bits with a sign. A number with a fraction or an exponent has to be finite as
a double when it is rounded, which is checked for positive numbers only.
-/

namespace LayeredUnits.Toml

/-- Digits with single underscores between them, as far as they go, after a digit that
was read already. An underscore that no digit follows is refused. -/
def moreDigits (isDigit : Char → Bool) : List Char → Option (List Char × List Char)
  | '_' :: c :: rest =>
    if isDigit c then (moreDigits isDigit rest).map (prepend c) else none
  | c :: rest =>
    if c = '_' then none
    else if isDigit c then (moreDigits isDigit rest).map (prepend c)
    else some ([], c :: rest)
  | [] => some ([], [])

/-- One digit or more, with single underscores between them. -/
def digits? (isDigit : Char → Bool) : List Char → Option (List Char × List Char)
  | c :: rest => if isDigit c then (moreDigits isDigit rest).map (prepend c) else none
  | [] => none

/-- The number that decimal digits write. -/
def decimal (digits : List Char) : Nat :=
  digits.foldl (fun n c => 10 * n + (c.toNat - '0'.toNat)) 0

/-- The number that digits of another base write. -/
def inBase (base : Nat) (digits : List Char) : Nat :=
  digits.foldl (fun n c => base * n + (hexDigit? c).getD 0) 0

/-- An integer, if it fits. -/
def integer? (n : Int) : Option Value :=
  if -0x8000000000000000 ≤ n ∧ n < 0x8000000000000000 then some (.integer n) else none

/-- The digits before a point or exponent: a zero alone, or digits that start with
another one. -/
def wholeDigits? : List Char → Option (List Char × List Char)
  | '0' :: rest => some (['0'], rest)
  | text => digits? Char.isDigit text

/-- The digits after a point, if there is a point. -/
def fraction? : List Char → Option (Option (List Char) × List Char)
  | '.' :: rest => (digits? Char.isDigit rest).map fun (digits, rest) => (some digits, rest)
  | text => some (none, text)

/-- A sign, if there is one: whether it is a minus. -/
def sign : List Char → Bool × List Char
  | '-' :: rest => (true, rest)
  | '+' :: rest => (false, rest)
  | text => (false, text)

/-- The exponent, if there is one. -/
def exponent? : List Char → Option (Option Int × List Char)
  | c :: rest =>
    if c = 'e' ∨ c = 'E' then
      let (minus, rest) := sign rest
      (digits? Char.isDigit rest).map fun (digits, rest) =>
        let n : Int := decimal digits
        (some (if minus then -n else n), rest)
    else some (none, c :: rest)
  | [] => some (none, [])

/-- Whether a number of this many units of a power of ten is too large for a double: at
least half a step above the largest one. -/
def overflows (units : Nat) (exponent : Int) : Bool :=
  if units = 0 then false
  else if 400 < exponent then true
  else
    let bound := (1 <<< 1024) - (1 <<< 970)
    match exponent with
    | .ofNat e => bound ≤ units * Nat.pow 10 e
    | .negSucc e =>
      if units.log2 < 1000 + 3 * e then false else bound * Nat.pow 10 (e + 1) ≤ units

/-- A number in decimal notation. -/
def number? (text : List Char) : Option (Value × List Char) := do
  let (minus, text) := sign text
  let (whole, text) ← wholeDigits? text
  let (fraction, text) ← fraction? text
  let (power, text) ← exponent? text
  match fraction, power with
  | none, none =>
    let n : Int := decimal whole
    (integer? (if minus then -n else n)).map (·, text)
  | _, _ =>
    let after := fraction.getD []
    let exponent := power.getD 0 - after.length
    if !minus && overflows (decimal (whole ++ after)) exponent then none
    else some (.real, text)

/-- An integer to the base of two, eight or sixteen. -/
def basedInteger? (base : Nat) (isDigit : Char → Bool) (text : List Char) :
    Option (Value × List Char) := do
  let (digits, text) ← digits? isDigit text
  (integer? (inBase base digits)).map (·, text)

/-- The number of two digits, if it lies within the bounds. -/
def twoDigits? (least most : Nat) : List Char → Option (Nat × List Char)
  | a :: b :: rest =>
    if a.isDigit && b.isDigit then
      let n := decimal [a, b]
      if least ≤ n ∧ n ≤ most then some (n, rest) else none
    else none
  | _ => none

/-- What follows a character, if the text starts with it. -/
def after? (c : Char) : List Char → Option (List Char)
  | d :: rest => if c = d then some rest else none
  | [] => none

/-- How many days a month has. -/
def daysIn (year month : Nat) : Nat :=
  if month = 2 then
    if year % 4 = 0 ∧ (year % 100 ≠ 0 ∨ year % 400 = 0) then 29 else 28
  else if month = 4 ∨ month = 6 ∨ month = 9 ∨ month = 11 then 30
  else 31

/-- What follows a fraction of a second, if there is one. -/
def afterFraction? : List Char → Option (List Char)
  | '.' :: c :: rest => if c.isDigit then some (rest.dropWhile Char.isDigit) else none
  | '.' :: [] => none
  | text => some text

/-- What follows a time of day. -/
def afterTime? (text : List Char) : Option (List Char) := do
  let (_, text) ← twoDigits? 0 23 text
  let text ← after? ':' text
  let (_, text) ← twoDigits? 0 59 text
  let text ← after? ':' text
  let (_, text) ← twoDigits? 0 60 text
  afterFraction? text

/-- What follows the distance from universal time, if it is given. -/
def afterOffset? : List Char → Option (List Char)
  | c :: rest =>
    if c = 'Z' ∨ c = 'z' then some rest
    else if c = '+' ∨ c = '-' then do
      let (_, rest) ← twoDigits? 0 23 rest
      let rest ← after? ':' rest
      let (_, rest) ← twoDigits? 0 59 rest
      some rest
    else some (c :: rest)
  | [] => some []

/-- Whether a text starts with the shape of a time of day. -/
def startsTime : List Char → Bool
  | a :: b :: ':' :: _ => a.isDigit && b.isDigit
  | _ => false

/-- Whether a text starts with the shape of a date. -/
def startsDate : List Char → Bool
  | a :: b :: c :: d :: '-' :: _ => [a, b, c, d].all Char.isDigit
  | _ => false

/-- What follows the time of day that may follow a date. -/
def afterDateTime? : List Char → Option (List Char)
  | c :: rest =>
    if (c = 'T' ∨ c = 't' ∨ c = ' ') ∧ startsTime rest then
      (afterTime? rest).bind afterOffset?
    else some (c :: rest)
  | [] => some []

/-- What follows a date, with or without a time of day. -/
def afterDate? (text : List Char) : Option (List Char) := do
  let year := decimal (text.take 4)
  let (month, text) ← twoDigits? 1 12 (text.drop 5)
  let text ← after? '-' text
  let (_, text) ← twoDigits? 1 (daysIn year month) text
  afterDateTime? text

/-- A value that starts with a digit or a sign. -/
def numberOrMoment? : List Char → Option (Value × List Char)
  | '0' :: 'x' :: rest => basedInteger? 16 (fun c => (hexDigit? c).isSome) rest
  | '0' :: 'o' :: rest => basedInteger? 8 (fun c => '0' ≤ c && c ≤ '7') rest
  | '0' :: 'b' :: rest => basedInteger? 2 (fun c => c == '0' || c == '1') rest
  | text =>
    if startsDate text then (afterDate? text).map (.moment, ·)
    else if startsTime text then (afterTime? text).map (.moment, ·)
    else
      match (sign text).2 with
      | 'i' :: 'n' :: 'f' :: rest => some (.real, rest)
      | 'n' :: 'a' :: 'n' :: rest => some (.real, rest)
      | _ => number? text

end LayeredUnits.Toml
