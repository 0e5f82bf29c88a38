import ArtifactSigning.Bytes

/-!
# Arithmetic modulo a number

Powers by repeated squaring, inverses by the extended division algorithm, and differences that
stay non-negative.
-/
namespace ArtifactSigning.Modular

/-- The power `base ^ exponent` modulo `modulus`, by repeated squaring. -/
def power (modulus base : Nat) (exponent : Nat) : Nat :=
  if exponent = 0 then 1 % modulus
  else
    let rest := power modulus (base * base % modulus) (exponent / 2)
    if exponent % 2 = 1 then base * rest % modulus else rest
termination_by exponent

/-- Euclid's algorithm on two remainders, each with its coefficient; the result is the greatest
common divisor with its coefficient. -/
def bezout (r : Nat) (s : Int) (r' : Nat) (s' : Int) : Nat × Int :=
  if _h : r' = 0 then (r, s)
  else bezout r' s' (r % r') (s - (r / r' : Nat) * s')
termination_by r'
decreasing_by exact Nat.mod_lt _ (Nat.pos_of_ne_zero _h)

/-- The inverse of a number, if it is coprime to the modulus. -/
def inverse? (modulus n : Nat) : Option Nat :=
  let (divisor, coefficient) := bezout modulus 0 (n % modulus) 1
  if divisor = 1 then some (coefficient % (modulus : Int)).toNat else none

/-- The difference of two numbers. -/
def sub (modulus a b : Nat) : Nat := (a + (modulus - b % modulus)) % modulus

end ArtifactSigning.Modular
