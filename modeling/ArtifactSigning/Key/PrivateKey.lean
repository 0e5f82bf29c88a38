import ArtifactSigning.Key.SecretKey
import ArtifactSigning.Packet.Integer
import ArtifactSigning.PublicKey.Dsa
import ArtifactSigning.PublicKey.Ecdsa
import ArtifactSigning.PublicKey.Edwards
import ArtifactSigning.PublicKey.NamedCurve
import ArtifactSigning.PublicKey.Rsa

/-!
# Private keys

A private key is ready to sign digests. `PrivateKey.read` takes one from the readable secret part of
a key and checks that it belongs to the public part; `PrivateKey.sign` writes the fields of a
signature packet that depend on the algorithm. How the fields are written does not depend on how a
digest is signed, and pairs may be made with random numbers, so the operations on the private
numbers are given as one value; `PrivateOperations.standard` has those of this library.
-/
namespace ArtifactSigning

/-- The private numbers of a key. -/
inductive PrivateNumbers where
  | rsa (key : Rsa.PrivateKey)
  | dsa (key : Dsa.PrivateKey)
  | ecdsa (key : Ecdsa.PrivateKey)
  | edwards (curve : EdwardsCurve) (seed : Bytes)
  /-- The key is for encryption only, and its numbers are not looked at. -/
  | unused

structure PrivateKey where
  algorithm : KeyAlgorithm
  numbers : PrivateNumbers

/-- What private numbers make of the digests of a hash function. -/
structure PrivateOperations where
  rsa : Rsa.PrivateKey → HashAlgorithm → Bytes → Except Failure Bytes
  dsa : Dsa.PrivateKey → HashAlgorithm → Bytes → Except Failure SignaturePair
  ecdsa : Ecdsa.PrivateKey → HashAlgorithm → Bytes → Except Failure SignaturePair
  /-- The signature of a digest with a seed. -/
  edwards : EdwardsCurve → Bytes → Bytes → Bytes

def PrivateOperations.standard : PrivateOperations where
  rsa := Rsa.PrivateKey.sign
  dsa := Dsa.PrivateKey.sign
  ecdsa := Ecdsa.PrivateKey.sign
  edwards := EdwardsCurve.sign

namespace PrivateNumbers

/-- The object identifier of the legacy Edwards curve. -/
def edwardsIdentifier : Bytes := [0x2B, 0x06, 0x01, 0x04, 0x01, 0xDA, 0x47, 0x0F, 0x01]

/-- A value if it passes its check; the numbers of a key that do not belong together are no key. -/
def checked (value : α) (passes : Bool) : Reading α :=
  if passes then return value else throw (.decryption .invalidMaterial)

/-- Octets filled up with zeros on the left. -/
def leftPad (size : Nat) (bytes : Bytes) : Bytes :=
  List.replicate (size - bytes.length) 0 ++ bytes

/-- Reads the private numbers of a key of an algorithm with the given public part. -/
def read : KeyAlgorithm → PublicPart → Reading PrivateNumbers
  | .rsa, .rsa n e | .rsaEncryptOnly, .rsa n e | .rsaSignOnly, .rsa n e => do
      let d ← Reading.integer
      let p ← Reading.integer
      let q ← Reading.integer
      let key : Rsa.PrivateKey := ⟨n, e, d, p, q⟩
      checked (.rsa key) key.isConsistent
  | .dsa, .dsa p q g y => do
      let key : Dsa.PrivateKey := ⟨p, q, g, y, ← Reading.integer⟩
      checked (.dsa key) key.isConsistent
  | .ecdsa, .curvePoint identifier _ =>
      match Curve.ofIdentifier? identifier with
      | none => throw (.unsupported (.curve identifier))
      | some curve => do
          let key : Ecdsa.PrivateKey := ⟨curve, ← Reading.integer⟩
          checked (.ecdsa key) key.isConsistent
  | .eddsaLegacy, .curvePoint identifier _ =>
      if identifier = edwardsIdentifier then do
        let seed := leftPad 32 (← Reading.integerOctets)
        checked (.edwards .ed25519 seed) (seed.length = 32)
      else throw (.unsupported .edwardsCurve)
  | .ed25519, _ => return .edwards .ed25519 (← Reading.take 32)
  | .ed448, _ => return .edwards .ed448 (← Reading.take 57)
  | _, _ => return .unused

end PrivateNumbers

namespace PrivateKey

/-- Reads the private key that belongs to a key packet. -/
def read (algorithm : KeyAlgorithm) (publicPart : PublicPart) : Reading PrivateKey :=
  (⟨algorithm, ·⟩) <$> PrivateNumbers.read algorithm publicPart

/-- The two numbers of a signature pair. -/
def encodePair (pair : SignaturePair) : Except Failure Bytes := do
  return (← encodeInteger pair.r) ++ (← encodeInteger pair.s)

/-- The fields of a signature of a digest that the hash function with the given number has made. -/
def signWith (operations : PrivateOperations) (key : PrivateKey) (digest : Bytes) (hashId : Int) :
    Except Failure Bytes :=
  match key.algorithm, key.numbers with
  | .rsa, .rsa numbers | .rsaSignOnly, .rsa numbers => do
      let hash ← HashAlgorithm.forSignature hashId
      encodeOctets (← operations.rsa numbers hash digest)
  | .dsa, .dsa numbers => do
      let hash ← HashAlgorithm.forSignature hashId
      encodePair (← operations.dsa numbers hash digest)
  | .ecdsa, .ecdsa numbers => do
      let hash ← HashAlgorithm.forSignature hashId
      encodePair (← operations.ecdsa numbers hash digest)
  | .eddsaLegacy, .edwards curve seed => do
      let signature := operations.edwards curve seed digest
      return (← encodeOctets (signature.take curve.size)) ++
        (← encodeOctets (signature.drop curve.size))
  | .ed25519, .edwards curve seed | .ed448, .edwards curve seed =>
      return operations.edwards curve seed digest
  | algorithm, _ => .error (.unsupported (.signing algorithm.name))

def sign : PrivateKey → Bytes → Int → Except Failure Bytes := signWith .standard

/-- Whether the fields hold a signature pair for a digest and nothing else; only for the algorithms
that sign with a pair. -/
def verifiesPair (key : PrivateKey) (digest fields : Bytes) : Bool :=
  let pair? := Reading.onBytes (do
    let pair : SignaturePair := ⟨← Reading.integer, ← Reading.integer⟩
    return (pair, ← Reading.atEnd)) fields
  match pair?, key.numbers with
  | .ok (pair, true), .dsa numbers => numbers.verifies digest pair
  | .ok (pair, true), .ecdsa numbers => numbers.verifies digest pair
  | _, _ => false

end PrivateKey

end ArtifactSigning
