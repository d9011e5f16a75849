/-!
# Reading UTF-8

Bytes are read one character at a time (`step`). A sequence that cannot be
continued is invalid up to the first byte that does not fit, which may start
something new; a sequence that the end of the bytes cuts off is incomplete.
`decode` refuses both and says where; `decodeLossy` puts one replacement
character in place of each.
-/

namespace LayeredUnits.Text.Utf8

/-- What the first bytes of a text are. A sequence that is cut off is told apart from one that is
wrong, because only the first can go on. -/
inductive Step where
  /-- A character, and the bytes after it. -/
  | char (c : Char) (rest : List UInt8)
  /-- So many bytes that start no character, and the bytes after them. -/
  | invalid (length : Nat) (rest : List UInt8)
  /-- The beginning of a character that the end cuts off. -/
  | incomplete

/-- The bytes that a step leaves. -/
def Step.left : Step → List UInt8
  | .char _ rest | .invalid _ rest => rest
  | .incomplete => []

/-- Whether a byte continues a sequence. Such a byte starts none. -/
def continues (byte : UInt8) : Bool := 0x80 ≤ byte && byte ≤ 0xBF

/-- The six bits that a continuing byte adds. -/
def payload (byte : UInt8) : Nat := byte.toNat % 64

/-- Whether `second` may follow `first` in a sequence of three bytes: no overlong
form and no surrogate. -/
def secondOfThree (first second : UInt8) : Bool :=
  if first = 0xE0 then 0xA0 ≤ second && second ≤ 0xBF
  else if first = 0xED then 0x80 ≤ second && second ≤ 0x9F
  else continues second

/-- Whether `second` may follow `first` in a sequence of four bytes: no overlong
form and nothing beyond the last code point. -/
def secondOfFour (first second : UInt8) : Bool :=
  if first = 0xF0 then 0x90 ≤ second && second ≤ 0xBF
  else if first = 0xF4 then 0x80 ≤ second && second ≤ 0x8F
  else continues second

/-- A sequence of two bytes. -/
def stepTwo (first : UInt8) : List UInt8 → Step
  | [] => .incomplete
  | b :: rest =>
    if continues b then .char (Char.ofNat ((first.toNat - 0xC0) * 64 + payload b)) rest
    else .invalid 1 (b :: rest)

/-- A sequence of three bytes. -/
def stepThree (first : UInt8) : List UInt8 → Step
  | [] => .incomplete
  | b :: rest =>
    if secondOfThree first b then
      match rest with
      | [] => .incomplete
      | c :: rest =>
        if continues c then
          .char (Char.ofNat ((first.toNat - 0xE0) * 4096 + payload b * 64 + payload c)) rest
        else .invalid 2 (c :: rest)
    else .invalid 1 (b :: rest)

/-- A sequence of four bytes. -/
def stepFour (first : UInt8) : List UInt8 → Step
  | [] => .incomplete
  | b :: rest =>
    if secondOfFour first b then
      match rest with
      | [] => .incomplete
      | c :: rest =>
        if continues c then
          match rest with
          | [] => .incomplete
          | d :: rest =>
            if continues d then
              .char (Char.ofNat ((first.toNat - 0xF0) * 262144 + payload b * 4096 +
                payload c * 64 + payload d)) rest
            else .invalid 3 (d :: rest)
        else .invalid 2 (c :: rest)
    else .invalid 1 (b :: rest)

/-- The first character, or what stands in its place. The first byte says how long the
sequence is. -/
def step (first : UInt8) (rest : List UInt8) : Step :=
  if first < 0x80 then .char (Char.ofNat first.toNat) rest
  else if 0xC2 ≤ first && first ≤ 0xDF then stepTwo first rest
  else if 0xE0 ≤ first && first ≤ 0xEF then stepThree first rest
  else if 0xF0 ≤ first && first ≤ 0xF4 then stepFour first rest
  else .invalid 1 rest

theorem left_stepTwo_le (first : UInt8) (bytes : List UInt8) :
    (stepTwo first bytes).left.length ≤ bytes.length := by
  unfold stepTwo
  split
  next => simp [Step.left]
  next => split <;> simp [Step.left]

theorem left_stepThree_le (first : UInt8) (bytes : List UInt8) :
    (stepThree first bytes).left.length ≤ bytes.length := by
  unfold stepThree
  repeat' split
  all_goals simp [Step.left]
  omega

theorem left_stepFour_le (first : UInt8) (bytes : List UInt8) :
    (stepFour first bytes).left.length ≤ bytes.length := by
  unfold stepFour
  repeat' split
  all_goals simp [Step.left]
  all_goals omega

/-- A step leaves no more than comes after its first byte. -/
theorem left_step_le (first : UInt8) (bytes : List UInt8) :
    (step first bytes).left.length ≤ bytes.length := by
  unfold step
  split
  next => simp [Step.left]
  next =>
    split
    next => exact left_stepTwo_le first bytes
    next =>
      split
      next => exact left_stepThree_le first bytes
      next =>
        split
        next => exact left_stepFour_le first bytes
        next => simp [Step.left]

/-- Why bytes are not UTF-8, with the place of the first sequence that is none. -/
inductive Defect where
  /-- So many bytes from this index on start no character. -/
  | invalid (length index : Nat)
  /-- The bytes end in the middle of the character that starts at this index. -/
  | incomplete (index : Nat)
deriving DecidableEq, Repr

/-- The reason, as shown. -/
def Defect.text : Defect → String
  | .invalid length index =>
    "invalid utf-8 sequence of " ++ toString length ++ " bytes from index " ++ toString index
  | .incomplete index => "incomplete utf-8 byte sequence from index " ++ toString index

/-- The characters of the bytes, the first of which has the index `index`. -/
def decodeFrom (index : Nat) (bytes : List UInt8) : Except Defect (List Char) :=
  match bytes with
  | [] => .ok []
  | first :: rest =>
    match h : step first rest with
    | .char c after =>
      have : after.length < rest.length + 1 := by
        have := left_step_le first rest
        rw [h] at this
        exact Nat.lt_succ_of_le this
      (decodeFrom (index + c.utf8Size) after).map (c :: ·)
    | .invalid length _ => .error (.invalid length index)
    | .incomplete => .error (.incomplete index)
termination_by bytes.length

/-- The characters of the bytes, with a replacement character for each sequence
that is none. -/
def decodeLossyFrom (bytes : List UInt8) : List Char :=
  match bytes with
  | [] => []
  | first :: rest =>
    match h : step first rest with
    | .char c after =>
      have : after.length < rest.length + 1 := by
        have := left_step_le first rest
        rw [h] at this
        exact Nat.lt_succ_of_le this
      c :: decodeLossyFrom after
    | .invalid _ after =>
      have : after.length < rest.length + 1 := by
        have := left_step_le first rest
        rw [h] at this
        exact Nat.lt_succ_of_le this
      '\uFFFD' :: decodeLossyFrom after
    | .incomplete => ['\uFFFD']
termination_by bytes.length

/-- The text that the bytes encode, or where they stop to encode one. -/
def decode (bytes : ByteArray) : Except Defect String :=
  (decodeFrom 0 bytes.toList).map String.ofList

/-- The text that the bytes encode, with replacement characters where they encode
none. -/
def decodeLossy (bytes : ByteArray) : String := String.ofList (decodeLossyFrom bytes.toList)

end LayeredUnits.Text.Utf8
