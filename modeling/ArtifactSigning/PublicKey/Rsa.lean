import ArtifactSigning.Digest.Algorithm
import ArtifactSigning.PublicKey.Prime

/-!
# RSA

A private key is the public modulus and exponent with the private exponent and the two prime
factors. `PrivateKey.isConsistent` says when these numbers belong together; `PrivateKey.sign` raises
the padded digest to the private exponent.
-/
namespace ArtifactSigning.Rsa

structure PrivateKey where
  modulus : Nat
  publicExponent : Nat
  privateExponent : Nat
  p : Nat
  q : Nat
  deriving DecidableEq, Repr

namespace PrivateKey

/-- Whether the numbers belong together: two distinct primes with the modulus as their product, an
odd public exponent, and a private exponent that inverts it and is odd modulo each prime less
one. -/
def isConsistent (key : PrivateKey) : Bool :=
  let ⟨n, e, d, p, q⟩ := key
  1 < p && 1 < q && p ≠ q && p * q = n &&
    3 ≤ e && e < n && e % 2 = 1 &&
    1 < d && d < n && d % (p - 1) % 2 = 1 && d % (q - 1) % 2 = 1 &&
    e * d % (p - 1).lcm (q - 1) = 1 &&
    Prime.isPrime p && Prime.isPrime q

end PrivateKey

/-- The octets that stand before a digest and name its hash function. -/
def digestMark : HashAlgorithm → Bytes
  | .md5 => [0x30, 0x20, 0x30, 0x0c, 0x06, 0x08, 0x2a, 0x86, 0x48, 0x86, 0xf7, 0x0d, 0x02, 0x05,
      0x05, 0x00, 0x04, 0x10]
  | .sha1 => [0x30, 0x21, 0x30, 0x09, 0x06, 0x05, 0x2b, 0x0e, 0x03, 0x02, 0x1a, 0x05, 0x00, 0x04,
      0x14]
  | .ripemd160 => [0x30, 0x21, 0x30, 0x09, 0x06, 0x05, 0x2b, 0x24, 0x03, 0x02, 0x01, 0x05, 0x00,
      0x04, 0x14]
  | .sha256 => [0x30, 0x31, 0x30, 0x0d, 0x06, 0x09, 0x60, 0x86, 0x48, 0x01, 0x65, 0x03, 0x04, 0x02,
      0x01, 0x05, 0x00, 0x04, 0x20]
  | .sha384 => [0x30, 0x41, 0x30, 0x0d, 0x06, 0x09, 0x60, 0x86, 0x48, 0x01, 0x65, 0x03, 0x04, 0x02,
      0x02, 0x05, 0x00, 0x04, 0x30]
  | .sha512 => [0x30, 0x51, 0x30, 0x0d, 0x06, 0x09, 0x60, 0x86, 0x48, 0x01, 0x65, 0x03, 0x04, 0x02,
      0x03, 0x05, 0x00, 0x04, 0x40]
  | .sha224 => [0x30, 0x2d, 0x30, 0x0d, 0x06, 0x09, 0x60, 0x86, 0x48, 0x01, 0x65, 0x03, 0x04, 0x02,
      0x04, 0x05, 0x00, 0x04, 0x1c]

/-- The digest padded to `size` octets: the octets 00 and 01, at least eight octets FF, the octet 00
and the marked digest. -/
def pad? (hash : HashAlgorithm) (digest : Bytes) (size : Nat) : Option Bytes :=
  let marked := digestMark hash ++ digest
  if marked.length + 11 ≤ size then
    some (0 :: 1 :: List.replicate (size - marked.length - 3) 0xFF ++ 0 :: marked)
  else none

/-- The signature of a digest, as long as the modulus. The digest has to be one of the hash
function, and the modulus has to have room for the padding. -/
def PrivateKey.sign (key : PrivateKey) (hash : HashAlgorithm) (digest : Bytes) :
    Except Failure Bytes :=
  let size := octetsFor (bitLength key.modulus)
  if digest.length ≠ hash.size then .error .invalidValue
  else
    match pad? hash digest size with
    | none => .error .invalidValue
    | some padded =>
        let signature := Modular.power key.modulus (ofBigEndian padded) key.privateExponent
        .ok (bigEndian size signature)

end ArtifactSigning.Rsa
