import LayeredUnits.Proofs.ByteOrder
import LayeredUnits.Text.Utf8

/-!
# Texts survive their encoding

A text that is written as UTF-8 is read back as it was. A character takes one
byte to four, and the reader tells from the first one how many there are.

* `step_encoded` — the bytes of one character are one step, whatever follows.
* `decode_encode` — the same for texts.
-/

namespace LayeredUnits.Text.Utf8

/-! ## Bytes -/

theorem toList_loop (bytes : ByteArray) (index : Nat) (before : List UInt8) :
    ByteArray.toList.loop bytes index before = before.reverse ++ bytes.data.toList.drop index := by
  fun_induction ByteArray.toList.loop bytes index before with
  | case1 index before hlt ih =>
    have hlength : index < bytes.data.toList.length := hlt
    have hget : bytes.get! index = bytes.data.toList[index] := getElem!_pos bytes.data index hlt
    rw [ih, List.drop_eq_getElem_cons hlength, hget, List.reverse_cons, List.append_assoc]
    rfl
  | case2 index before hge =>
    rw [List.drop_eq_nil_of_le (Nat.le_of_not_lt hge), List.append_nil]

/-- The bytes of a text, one after the other. -/
theorem toList_toUTF8 (text : String) :
    text.toUTF8.toList = text.toList.flatMap String.utf8EncodeChar := by
  rw [ByteArray.toList, toList_loop, List.reverse_nil, List.nil_append, List.drop_zero]
  exact bytes_eq text

/-! ## Characters -/

/-- A byte that adds six bits to a character. Such a byte is never taken for the first of a
sequence. -/
theorem continues_ofNat (n : Nat) : continues (UInt8.ofNat (n % 64 + 128)) = true := by
  simp only [continues, Bool.and_eq_true, decide_eq_true_eq, UInt8.le_iff_toNat_le,
    UInt8.toNat_ofNat']
  change 128 ≤ _ ∧ _ ≤ 191
  omega

theorem payload_ofNat (n : Nat) : payload (UInt8.ofNat (n % 64 + 128)) = n % 64 := by
  rw [payload, UInt8.toNat_ofNat']
  omega

theorem toNat_ofNat {n : Nat} (h : n < 256) : (UInt8.ofNat n).toNat = n :=
  UInt8.toNat_ofNat_of_lt' h

/-- Which bytes start a sequence, and of how many. -/
theorem step_one {n : Nat} (h : n < 128) (bytes : List UInt8) :
    step (UInt8.ofNat n) bytes = .char (Char.ofNat n) bytes := by
  have hnat := toNat_ofNat (Nat.lt_trans h (by decide))
  unfold step
  generalize UInt8.ofNat n = first at *
  simp only [UInt8.lt_iff_toNat_lt, hnat, UInt8.reduceToNat]
  rw [if_pos h]

theorem step_two {n : Nat} (hleast : 2 ≤ n) (hmost : n < 32) (bytes : List UInt8) :
    step (UInt8.ofNat (n + 192)) bytes = stepTwo (UInt8.ofNat (n + 192)) bytes := by
  have hnat : (UInt8.ofNat (n + 192)).toNat = n + 192 := toNat_ofNat (by omega)
  unfold step
  generalize UInt8.ofNat (n + 192) = first at *
  have hfits : 0xC2 ≤ first ∧ first ≤ 0xDF := by
    simp only [UInt8.le_iff_toNat_le, hnat, UInt8.reduceToNat]
    omega
  rw [if_neg, if_pos (by simpa using hfits)]
  simp only [UInt8.lt_iff_toNat_lt, hnat, UInt8.reduceToNat]
  omega

theorem step_three {n : Nat} (hmost : n < 16) (bytes : List UInt8) :
    step (UInt8.ofNat (n + 224)) bytes = stepThree (UInt8.ofNat (n + 224)) bytes := by
  have hnat : (UInt8.ofNat (n + 224)).toNat = n + 224 := toNat_ofNat (by omega)
  unfold step
  generalize UInt8.ofNat (n + 224) = first at *
  simp only [UInt8.lt_iff_toNat_lt, UInt8.le_iff_toNat_le, hnat, UInt8.reduceToNat,
    Bool.and_eq_true, decide_eq_true_eq]
  rw [if_neg (by omega), if_neg (by omega), if_pos (by omega)]

theorem step_four {n : Nat} (hmost : n < 5) (bytes : List UInt8) :
    step (UInt8.ofNat (n + 240)) bytes = stepFour (UInt8.ofNat (n + 240)) bytes := by
  have hnat : (UInt8.ofNat (n + 240)).toNat = n + 240 := toNat_ofNat (by omega)
  unfold step
  generalize UInt8.ofNat (n + 240) = first at *
  simp only [UInt8.lt_iff_toNat_lt, UInt8.le_iff_toNat_le, hnat, UInt8.reduceToNat,
    Bool.and_eq_true, decide_eq_true_eq]
  rw [if_neg (by omega), if_neg (by omega), if_neg (by omega), if_pos (by omega)]

/-- The second byte of three is neither too small nor the beginning of a surrogate. -/
theorem secondOfThree_ofNat {v : Nat} (hleast : 2048 ≤ v) (hmost : v < 65536)
    (hvalid : v < 55296 ∨ 57343 < v) :
    secondOfThree (UInt8.ofNat (v / 4096 % 16 + 224)) (UInt8.ofNat (v / 64 % 64 + 128)) = true := by
  have hfirst : (UInt8.ofNat (v / 4096 % 16 + 224)).toNat = v / 4096 % 16 + 224 :=
    toNat_ofNat (by omega)
  have hsecond : (UInt8.ofNat (v / 64 % 64 + 128)).toNat = v / 64 % 64 + 128 :=
    toNat_ofNat (by omega)
  unfold secondOfThree continues
  simp only [← UInt8.toNat_inj, UInt8.le_iff_toNat_le, hfirst, hsecond, UInt8.reduceToNat]
  split
  · simp only [Bool.and_eq_true, decide_eq_true_eq]
    omega
  · split <;> simp only [Bool.and_eq_true, decide_eq_true_eq] <;> omega

/-- The second byte of four is neither too small nor too large. -/
theorem secondOfFour_ofNat {v : Nat} (hleast : 65536 ≤ v) (hmost : v < 1114112) :
    secondOfFour (UInt8.ofNat (v / 262144 % 8 + 240)) (UInt8.ofNat (v / 4096 % 64 + 128)) =
      true := by
  have hfirst : (UInt8.ofNat (v / 262144 % 8 + 240)).toNat = v / 262144 % 8 + 240 :=
    toNat_ofNat (by omega)
  have hsecond : (UInt8.ofNat (v / 4096 % 64 + 128)).toNat = v / 4096 % 64 + 128 :=
    toNat_ofNat (by omega)
  unfold secondOfFour continues
  simp only [← UInt8.toNat_inj, UInt8.le_iff_toNat_le, hfirst, hsecond, UInt8.reduceToNat]
  split
  · simp only [Bool.and_eq_true, decide_eq_true_eq]
    omega
  · split <;> simp only [Bool.and_eq_true, decide_eq_true_eq] <;> omega

/-- The bytes of a character are one step, whatever follows. This is what the induction over a text
rests on. -/
theorem step_encoded (c : Char) (rest : List UInt8) :
    ∃ first more, String.utf8EncodeChar c = first :: more ∧
      step first (more ++ rest) = .char c rest := by
  have hvalid := c.valid
  have hback : Char.ofNat c.val.toNat = c := Char.ofNat_toNat c
  unfold UInt32.isValidChar Nat.isValidChar at hvalid
  unfold String.utf8EncodeChar
  dsimp only
  generalize c.val.toNat = v at *
  split
  · -- One byte, two, three or four: the first byte tells how many, and the
    -- others carry six bits each.
    exact ⟨_, _, rfl, by rw [step_one (by omega), hback]; rfl⟩
  · split
    · refine ⟨_, _, rfl, ?_⟩
      have hfirst : (UInt8.ofNat (v / 64 % 32 + 192)).toNat = v / 64 % 32 + 192 :=
        toNat_ofNat (by omega)
      have hwhole : (v / 64 % 32 + 192 - 192) * 64 + v % 64 = v := by omega
      rw [step_two (by omega) (by omega), List.cons_append, stepTwo, if_pos (continues_ofNat v),
        payload_ofNat, hfirst, hwhole, hback]
      rfl
    · split
      · refine ⟨_, _, rfl, ?_⟩
        have hfirst : (UInt8.ofNat (v / 4096 % 16 + 224)).toNat = v / 4096 % 16 + 224 :=
          toNat_ofNat (by omega)
        have hwhole : (v / 4096 % 16 + 224 - 224) * 4096 + v / 64 % 64 * 64 + v % 64 = v := by
          omega
        rw [step_three (by omega), List.cons_append, List.cons_append]
        unfold stepThree
        dsimp only
        rw [if_pos (secondOfThree_ofNat (by omega) (by omega) (by omega))]
        rw [if_pos (continues_ofNat v), payload_ofNat, payload_ofNat, hfirst, hwhole, hback]
        rfl
      · refine ⟨_, _, rfl, ?_⟩
        have hfirst : (UInt8.ofNat (v / 262144 % 8 + 240)).toNat = v / 262144 % 8 + 240 :=
          toNat_ofNat (by omega)
        have hwhole : (v / 262144 % 8 + 240 - 240) * 262144 + v / 4096 % 64 * 4096 +
            v / 64 % 64 * 64 + v % 64 = v := by omega
        rw [step_four (by omega), List.cons_append, List.cons_append, List.cons_append]
        unfold stepFour
        dsimp only
        rw [if_pos (secondOfFour_ofNat (by omega) (by omega)), if_pos (continues_ofNat _)]
        rw [if_pos (continues_ofNat _), payload_ofNat, payload_ofNat, payload_ofNat, hfirst, hwhole,
          hback]
        rfl

/-! ## Texts -/

theorem decodeFrom_encoded (chars : List Char) (index : Nat) :
    decodeFrom index (chars.flatMap String.utf8EncodeChar) = .ok chars := by
  induction chars generalizing index with
  | nil => rw [List.flatMap_nil, decodeFrom]
  | cons c chars ih =>
    obtain ⟨first, more, hbytes, hstep⟩ := step_encoded c (chars.flatMap String.utf8EncodeChar)
    rw [List.flatMap_cons, hbytes, List.cons_append, decodeFrom]
    split
    · next char after heq =>
      rw [hstep] at heq
      cases heq
      rw [ih]
      rfl
    · next heq =>
      rw [hstep] at heq
      cases heq
    · next heq =>
      rw [hstep] at heq
      cases heq

/-- A text is decoded from the bytes that encode it, so what is written to a file as text is read
back as that text. -/
theorem decode_encode (text : String) : decode text.toUTF8 = .ok text := by
  rw [decode, toList_toUTF8, decodeFrom_encoded]
  exact congrArg Except.ok String.ofList_toList

end LayeredUnits.Text.Utf8
