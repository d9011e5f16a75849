/-!
# Code page 437

The character set of archive names that are not marked as UTF-8: ASCII below
128, and a fixed table above.
-/

namespace LayeredUnits.Text.Cp437

/-- The characters of the bytes from 128 on. -/
def upperHalf : List Char := [
  'Ç', 'ü', 'é', 'â', 'ä', 'à', 'å', 'ç', 'ê', 'ë', 'è', 'ï', 'î', 'ì', 'Ä', 'Å',
  'É', 'æ', 'Æ', 'ô', 'ö', 'ò', 'û', 'ù', 'ÿ', 'Ö', 'Ü', '¢', '£', '¥', '₧', 'ƒ',
  'á', 'í', 'ó', 'ú', 'ñ', 'Ñ', 'ª', 'º', '¿', '⌐', '¬', '½', '¼', '¡', '«', '»',
  '░', '▒', '▓', '│', '┤', '╡', '╢', '╖', '╕', '╣', '║', '╗', '╝', '╜', '╛', '┐',
  '└', '┴', '┬', '├', '─', '┼', '╞', '╟', '╚', '╔', '╩', '╦', '╠', '═', '╬', '╧',
  '╨', '╤', '╥', '╙', '╘', '╒', '╓', '╫', '╪', '┘', '┌', '█', '▄', '▌', '▐', '▀',
  'α', 'ß', 'Γ', 'π', 'Σ', 'σ', 'µ', 'τ', 'Φ', 'Θ', 'Ω', 'δ', '∞', 'φ', 'ε', '∩',
  '≡', '±', '≥', '≤', '⌠', '⌡', '÷', '≈', '°', '∙', '·', '√', 'ⁿ', '²', '■', '\u00A0']

/-- The character of a byte. Controls stand for themselves, and every byte has a character. -/
def char (byte : UInt8) : Char :=
  if byte < 128 then Char.ofNat byte.toNat else upperHalf.getD (byte.toNat - 128) ' '

/-- The text of bytes in this character set, a character for each byte. -/
def decode (bytes : ByteArray) : String := String.ofList (bytes.toList.map char)

end LayeredUnits.Text.Cp437
