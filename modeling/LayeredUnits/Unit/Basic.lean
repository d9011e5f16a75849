import LayeredUnits.Bytes.Sha256
import LayeredUnits.Shared
import LayeredUnits.Unit.Domain

/-!
# Code units

A code unit is a name with the complete bytes that were found for it, where
they were found, and the security domain that it shares with its neighbours.
Nothing about a unit changes once it is defined.
-/

namespace LayeredUnits

/-- A defined unit. Its bytes are those that were read when it was defined; what becomes of the file
or the archive afterwards does not reach it. -/
structure CodeUnit where
  name : String
  bytes : ByteArray
  origin : Origin
  domain : Shared Domain

namespace CodeUnit

/-- The digest that identifies the bytes of a unit: units with one digest can be taken to have the
same bytes. -/
def digest (unit : CodeUnit) : String := Bytes.Sha256.hexDigest unit.bytes

/-- How many bytes the unit has. -/
def size (unit : CodeUnit) : Nat := unit.bytes.size

/-- A unit that a host defines itself. It says so in its origin, and it brings a domain of its own:
hosts do not share the home domain of any loader. -/
def hosted (name : String) (bytes : ByteArray) (domain : Shared Domain) : CodeUnit :=
  ⟨name, bytes, .host, domain⟩

end CodeUnit

end LayeredUnits
