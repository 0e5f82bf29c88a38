import ArtifactSigning.PublicKey.Lucas

/-!
# Recognising prime numbers

The strong probable prime test to the smallest prime bases, and after it the Lucas test. Every prime
passes; no composite number is known that passes both.
-/
namespace ArtifactSigning.Prime

/-- The bases of the test. -/
def bases : List Nat :=
  [2, 3, 5, 7, 11, 13, 17, 19, 23, 29, 31, 37, 41, 43, 47, 53, 59, 61, 67, 71, 73, 79, 83, 89]

/-- Whether minus one is among `count` numbers, each the square of the one before it. -/
def reachesMinusOne (n : Nat) : (count : Nat) → Nat → Bool
  | 0, _ => false
  | count + 1, x => x = n - 1 || reachesMinusOne n count (x * x % n)

/-- Whether an odd number passes the test to one base that it does not divide. -/
def passes (n base : Nat) : Bool :=
  let s := Lucas.twos (n - 1)
  let x := Modular.power n (base % n) ((n - 1) / 2 ^ s)
  x = 1 || reachesMinusOne n s x

/-- Whether a number is prime, by trial division by the bases and the tests. -/
def isPrime (n : Nat) : Bool :=
  2 ≤ n && (bases.contains n ||
    bases.all (fun base => n % base ≠ 0 && passes n base) && Lucas.passes n)

end ArtifactSigning.Prime
