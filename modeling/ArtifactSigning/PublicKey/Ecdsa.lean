import ArtifactSigning.PublicKey.Curve
import ArtifactSigning.PublicKey.Nonce
import ArtifactSigning.PublicKey.SignaturePair

/-!
# Signatures on elliptic curves

A private key is a positive number below the order of the base point; the public key is that
multiple of the base point.
-/
namespace ArtifactSigning.Ecdsa

structure PrivateKey where
  curve : Curve
  secret : Nat
  deriving DecidableEq, Repr

namespace PrivateKey

/-- Whether the number is a private key of the curve. -/
def isConsistent (key : PrivateKey) : Bool := 0 < key.secret && key.secret < key.curve.order

def publicPoint (key : PrivateKey) : Curve.Point := key.curve.multiply key.secret key.curve.base

/-- The image of a number: the first coordinate of that multiple of the base point. -/
def image? (curve : Curve) (number : Nat) : Option Nat :=
  (curve.affineX? (curve.multiply number curve.base)).map (· % curve.order)

/-- The signature of a digest, which has to be one of the hash function. -/
def sign (key : PrivateKey) (hash : HashAlgorithm) (digest : Bytes) :
    Except Failure SignaturePair :=
  if digest.length ≠ hash.size then .error .invalidValue
  else
    let order := key.curve.order
    let number := Nonce.leadingBits order digest
    let pair? := Nonce.first? hash order key.secret digest fun secret => do
      SignaturePair.make? order key.secret number secret (← image? key.curve secret)
    match pair? with
    | some pair => .ok pair
    | none => .error .invalidValue

/-- Whether a pair signs a digest. -/
def verifies (key : PrivateKey) (digest : Bytes) (pair : SignaturePair) : Bool :=
  let curve := key.curve
  match pair.multipliers? curve.order (Nonce.leadingBits curve.order digest) with
  | none => false
  | some (u, v) =>
      let point := curve.add (curve.multiply u curve.base) (curve.multiply v key.publicPoint)
      match curve.affineX? point with
      | some x => x % curve.order = pair.r
      | none => false

end PrivateKey

end ArtifactSigning.Ecdsa
