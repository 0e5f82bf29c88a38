import ArtifactSigning.Power

/-!
# Exact values of binary floating-point numbers

A finite number of the 64-bit format is an integer times a power of two. `Binary64.ofBits` reads
sign, integer and power from the bit pattern; `Binary64.toRat` is the exact value.
-/
namespace ArtifactSigning.Decimal

/-- A finite value `± mantissa * 2 ^ exponent`. `narrowBelow` says that the next smaller magnitude
lies only half as far away as the next larger one. -/
structure Binary64 where
  negative : Bool
  mantissa : Nat
  exponent : Int
  narrowBelow : Bool
  deriving DecidableEq, Repr

namespace Binary64

/-- The value of a bit pattern; none for the infinities and for what is no number. -/
def ofBits (bits : UInt64) : Option Binary64 :=
  let n := bits.toNat
  let negative := n / 2 ^ 63 = 1
  let field : Nat := n / 2 ^ 52 % 2 ^ 11
  let fraction : Nat := n % 2 ^ 52
  if field = 2047 then none
  else if field = 0 then some ⟨negative, fraction, -1074, false⟩
  else some ⟨negative, 2 ^ 52 + fraction, (field : Int) - 1075, fraction = 0 ∧ 1 < field⟩

/-- The exact value as a fraction. -/
def toRat (x : Binary64) : Rat :=
  let magnitude : Rat :=
    if 0 ≤ x.exponent then ((x.mantissa * 2 ^ x.exponent.toNat : Nat) : Rat)
    else mkRat x.mantissa (2 ^ (-x.exponent).toNat)
  if x.negative then -magnitude else magnitude

end Binary64

/-- The exact value of a finite floating-point number. -/
def exactValue? (x : Float) : Option Rat := (Binary64.ofBits x.toBits).map Binary64.toRat

end ArtifactSigning.Decimal
