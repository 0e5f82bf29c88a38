import ArtifactSigning.PublicKey.Nonce
import ArtifactSigning.PublicKey.SignaturePair

/-!
# DSA

Signatures in the powers of a generator modulo a prime.
-/
namespace ArtifactSigning.Dsa

structure PrivateKey where
  p : Nat
  q : Nat
  g : Nat
  y : Nat
  x : Nat
  deriving DecidableEq, Repr

namespace PrivateKey

/-- Whether the numbers belong together: customary sizes, a generator and a private exponent in
range, and the public key as the power of the generator. -/
def isConsistent (key : PrivateKey) : Bool :=
  let ⟨p, q, g, y, x⟩ := key
  [1024, 2048, 3072, 4096].contains (bitLength p) && [160, 224, 256].contains (bitLength q) &&
    1 < g && g < p && 0 < x && x < q && y = Modular.power p g x

/-- The signature of a digest, which has to be one of the hash function. -/
def sign (key : PrivateKey) (hash : HashAlgorithm) (digest : Bytes) :
    Except Failure SignaturePair :=
  if digest.length ≠ hash.size then .error .invalidValue
  else
    let number := Nonce.leadingBits key.q digest
    let pair? := Nonce.first? hash key.q key.x digest fun secret =>
      SignaturePair.make? key.q key.x number secret (Modular.power key.p key.g secret % key.q)
    match pair? with
    | some pair => .ok pair
    | none => .error .invalidValue

/-- Whether a pair signs a digest, judged by the public numbers of the key. -/
def verifies (key : PrivateKey) (digest : Bytes) (pair : SignaturePair) : Bool :=
  match pair.multipliers? key.q (Nonce.leadingBits key.q digest) with
  | none => false
  | some (u, v) =>
      Modular.power key.p key.g u * Modular.power key.p key.y v % key.p % key.q = pair.r

end PrivateKey

end ArtifactSigning.Dsa
