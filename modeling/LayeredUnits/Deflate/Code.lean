/-!
# Prefix codes

A prefix code is a binary tree with symbols at its leaves. A canonical code is
given by the length of each symbol's code word alone: shorter words come
first, among words of one length those of smaller symbols, and every word is
the number after the one before it. `slots` counts how much of the tree such
words fill.
-/

namespace LayeredUnits.Deflate

/-- A prefix code, as the tree of its words. A bit leads to one of two smaller codes, up to a
symbol. -/
inductive Code where
  /-- No word goes this way. -/
  | unused
  | symbol (value : Nat)
  | fork (zero one : Code)

namespace Code

/-- The code with one more word. Whatever lies on the way of the word is replaced, which does not
happen to words in order. -/
def insert (value : Nat) : List Bool → Code → Code
  | [], _ => .symbol value
  | bit :: word, .fork zero one =>
    if bit then .fork zero (one.insert value word) else .fork (zero.insert value word) one
  | bit :: word, _ =>
    if bit then .fork .unused (Code.unused.insert value word)
    else .fork (Code.unused.insert value word) .unused

/-- The bits of a code word of this length, the highest first. -/
def word (length number : Nat) : List Bool :=
  (List.range length).map fun i => number.testBit (length - 1 - i)

/-- The longest code word that the format has room for. -/
def maxLength : Nat := 15

/-- Symbols with the lengths of their words, in the order of the words. Symbols of
length zero have none. -/
def inOrder (lengths : List Nat) : List (Nat × Nat) :=
  (List.range maxLength).flatMap fun i =>
    lengths.zipIdx.filterMap fun entry =>
      if entry.1 = i + 1 then some (entry.2, i + 1) else none

/-- Adds the words of symbols in order. `next` is the number of the next word, which
has `length` bits so far. -/
def addWords (length next : Nat) : List (Nat × Nat) → Code → Code
  | [], code => code
  | (value, size) :: rest, code =>
    let number := next <<< (size - length)
    addWords size (number + 1) rest (code.insert value (word size number))

/-- The canonical code of the lengths. Lengths that do not fit into a tree come to some code too;
whoever reads lengths has to refuse them. -/
def ofLengths (lengths : List Nat) : Code := addWords 0 0 (inOrder lengths) .unused

/-- How many words of the longest length the words of these lengths use up. -/
def slots (lengths : List Nat) : Nat :=
  lengths.foldl (fun total length =>
    if length = 0 then total else total + (1 <<< (maxLength - length))) 0

/-- How many symbols have a word. A code with at most one needs no more to be complete. -/
def used (lengths : List Nat) : Nat := lengths.countP (· != 0)

/-- Whether the words of these lengths fill the tree exactly. -/
def isComplete (lengths : List Nat) : Bool := slots lengths == 1 <<< maxLength

end Code

end LayeredUnits.Deflate
