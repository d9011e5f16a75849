/-!
# Bytes in hexadecimal
-/

namespace LayeredUnits.Bytes

/-- The two lower-case hexadecimal digits of a byte. -/
def hexByte (byte : UInt8) : List Char :=
  [Nat.digitChar (byte.toNat / 16), Nat.digitChar (byte.toNat % 16)]

/-- Bytes as lower-case hexadecimal text, two digits a byte and nothing between them. -/
def hex (bytes : ByteArray) : String := String.ofList (bytes.toList.flatMap hexByte)

end LayeredUnits.Bytes
