/-!
# Shared instances

Loaders hand out the same unit, the same security domain and the same record
of a failed lookup again and again, and callers may rely on getting the very
same instance. An instance is a value together with a `Token` that no other
instance carries, so "the same instance" is equality of tokens.
-/

namespace LayeredUnits

/-- The identity of an instance: who made it, and which of its makings it is. -/
structure Token where
  /-- The number of the maker. -/
  maker : Nat
  /-- How many instances the maker had made before. -/
  serial : Nat
deriving DecidableEq, Repr

/-- A value with an identity. Two instances with equal values are still two: a unit that is loaded
again has to be the instance that was handed out the first time. -/
structure Shared (α : Type) where
  token : Token
  value : α

/-- Whether both are one and the same instance. Only the tokens are compared, since no maker gives
out a token twice. -/
def Shared.same {α : Type} (a b : Shared α) : Bool := a.token = b.token

end LayeredUnits
