import Mathlib.Data.String.Basic
import Mathlib.Tactic.SplitIfs

/-!
# The order of texts is the order of their bytes

Texts are compared character by character, and an operating system compares
names byte by byte. It comes to the same: UTF-8 gives a larger character a
larger first byte, or the same first bytes and then a larger one, so the
encoding keeps the order.

* `encodedChar_lt` — one character against another, whatever follows.
* `bytes_lt_iff` — the same for texts.
-/

namespace LayeredUnits.Text

/-- The bytes of a text in UTF-8. Directories are listed in the order of these. -/
def bytes (text : String) : List UInt8 := text.toUTF8.data.toList

theorem bytes_eq (text : String) : bytes text = text.toList.flatMap String.utf8EncodeChar := by
  have hencode : (String.ofList text.toList).toByteArray = text.toList.utf8Encode :=
    String.toByteArray_ofList
  rw [String.ofList_toList] at hencode
  unfold bytes
  rw [String.toUTF8_eq_toByteArray, hencode]
  exact List.toList_data_toByteArray

/-! ## Characters -/

private theorem ofNat_lt_iff {a b : Nat} (ha : a < 256) (hb : b < 256) :
    UInt8.ofNat a < UInt8.ofNat b ↔ a < b := by
  rw [UInt8.lt_iff_toNat_lt, UInt8.toNat_ofNat_of_lt' ha, UInt8.toNat_ofNat_of_lt' hb]

private theorem ofNat_eq_iff {a b : Nat} (ha : a < 256) (hb : b < 256) :
    UInt8.ofNat a = UInt8.ofNat b ↔ a = b := by
  rw [← UInt8.toNat_inj, UInt8.toNat_ofNat_of_lt' ha, UInt8.toNat_ofNat_of_lt' hb]

/-- Of two numbers the smaller one has the smaller digit where they first differ. The digits are
those to the base 64, which is what each byte of a longer sequence adds. -/
private theorem digits_lt {v w : Nat} (h : v < w) :
    v / 64 / 64 / 64 < w / 64 / 64 / 64 ∨ v / 64 / 64 / 64 = w / 64 / 64 / 64 ∧
      (v / 64 / 64 % 64 < w / 64 / 64 % 64 ∨ v / 64 / 64 % 64 = w / 64 / 64 % 64 ∧
        (v / 64 % 64 < w / 64 % 64 ∨ v / 64 % 64 = w / 64 % 64 ∧ v % 64 < w % 64)) := by
  have hsplit {a b : Nat} (hlt : a < b) : a / 64 < b / 64 ∨ a / 64 = b / 64 ∧ a % 64 < b % 64 := by
    omega
  rcases hsplit h with hrest | ⟨hrest, hlast⟩
  · rcases hsplit hrest with hrest | ⟨hrest, hlast⟩
    · rcases hsplit hrest with hfirst | ⟨hfirst, hlast⟩
      · exact .inl hfirst
      · exact .inr ⟨hfirst, .inl hlast⟩
    · exact .inr ⟨by rw [hrest], .inr ⟨by rw [hrest], .inl hlast⟩⟩
  · exact .inr ⟨by rw [hrest], .inr ⟨by rw [hrest], .inr ⟨by rw [hrest], hlast⟩⟩⟩

/-- A smaller character has smaller bytes, whatever follows. The first byte of a sequence says how
long it is, and longer ones begin with larger bytes. -/
theorem encodedChar_lt {c d : Char} (h : c < d) (after later : List UInt8) :
    String.utf8EncodeChar c ++ after < String.utf8EncodeChar d ++ later := by
  have hlt : c.val.toNat < d.val.toNat := h
  have hmost : d.val.toNat < 0x110000 := by
    have hvalid := d.valid
    unfold UInt32.isValidChar Nat.isValidChar at hvalid
    omega
  unfold String.utf8EncodeChar
  dsimp only
  generalize c.val.toNat = v at *
  generalize d.val.toNat = w at *
  have hdigits := digits_lt hlt
  -- All bytes in terms of the same digits; the highest one is below 8.
  rw [show v / 4096 = v / 64 / 64 by omega, show w / 4096 = w / 64 / 64 by omega,
    show v / 262144 = v / 64 / 64 / 64 by omega, show w / 262144 = w / 64 / 64 / 64 by omega,
    show v / 64 / 64 / 64 % 8 = v / 64 / 64 / 64 by omega,
    show w / 64 / 64 / 64 % 8 = w / 64 / 64 / 64 by omega]
  split_ifs
  all_goals simp only [List.cons_append, List.nil_append, List.cons_lt_cons_iff]
  all_goals simp (disch := omega) only [ofNat_lt_iff, ofNat_eq_iff]
  all_goals omega

/-! ## Texts -/

private theorem encoded_lt {a b : List Char} (h : a < b) :
    a.flatMap String.utf8EncodeChar < b.flatMap String.utf8EncodeChar := by
  induction a generalizing b with
  | nil =>
    cases b with
    | nil => exact absurd h (List.lt_irrefl [])
    | cons d later =>
      have hsome := @String.utf8EncodeChar_ne_nil d
      rw [List.flatMap_nil, List.flatMap_cons]
      cases hd : String.utf8EncodeChar d with
      | nil => exact absurd hd hsome
      | cons first rest => exact List.nil_lt_cons _ _
  | cons c after ih =>
    cases b with
    | nil => exact absurd h (List.not_lt_nil _)
    | cons d later =>
      rw [List.flatMap_cons, List.flatMap_cons]
      rcases List.cons_lt_cons_iff.mp h with hlt | ⟨rfl, hrest⟩
      · exact encodedChar_lt hlt _ _
      · exact List.append_left_lt (ih hrest)

theorem bytes_lt {a b : String} (h : a < b) : bytes a < bytes b := by
  rw [bytes_eq, bytes_eq]
  exact encoded_lt (String.lt_iff_toList_lt.mp h)

/-- One text comes before another exactly if its bytes do. So it makes no difference to the order of
a walk that names are texts here. -/
theorem bytes_lt_iff {a b : String} : bytes a < bytes b ↔ a < b := by
  constructor
  · intro h
    rcases lt_trichotomy a b with hab | rfl | hba
    · exact hab
    · exact absurd h (List.lt_irrefl _)
    · exact absurd (bytes_lt hba) (List.lt_asymm h)
  · exact bytes_lt

end LayeredUnits.Text
