/-!
# Binary floating-point values as numbers

A finite value is `mantissa * 2 ^ exponent`. What the text of a value depends on is its magnitude
in this form and where its two neighbours are: they are equally far away, but for a power of two
above the least exponent, whose lower neighbour is at half the distance of the upper one.
-/

namespace CatalogQuery

/-- The positive number `mantissa * 2 ^ exponent` among the values of a binary format. -/
structure Magnitude where
  mantissa : Nat
  exponent : Int
  /-- The next smaller value is at half the distance of the next larger one. -/
  closeBelow : Bool
  deriving DecidableEq, Repr

/-- A floating-point value of any binary format. -/
inductive BinaryValue where
  | notANumber
  | infinite (negative : Bool)
  | zero (negative : Bool)
  | finite (negative : Bool) (magnitude : Magnitude)
  deriving DecidableEq, Repr

namespace BinaryValue

open Float.Model

/-- Is the sign bit of an unpacked value set? -/
def isNegative : UnpackedFloat.Sign → Bool
  | .negative => true
  | .positive => false

/-- The value of an unpacked float whose format has `precision` significant bits and the least
exponent `least`. -/
def ofUnpacked (precision : Nat) (least : Int) : UnpackedFloat → BinaryValue
  | .notANumber => .notANumber
  | .infinity s => .infinite (isNegative s)
  | .zero s => .zero (isNegative s)
  | .finite s m e _ =>
      .finite (isNegative s) ⟨m, e, m == Nat.pow 2 (precision - 1) && decide (e ≠ least)⟩

/-- A double-precision number: 53 significant bits. -/
def ofDouble (x : Float) : BinaryValue := ofUnpacked 53 (-1074) x.toModel.unpack

/-- A single-precision number: 24 significant bits. -/
def ofSingle (x : Float32) : BinaryValue := ofUnpacked 24 (-149) x.toModel.unpack

/-- Neither infinite nor undefined. -/
def isFinite : BinaryValue → Bool
  | .zero _ => true
  | .finite _ _ => true
  | _ => false

end BinaryValue
end CatalogQuery
