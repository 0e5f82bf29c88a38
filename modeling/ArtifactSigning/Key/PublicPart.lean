import ArtifactSigning.Key.Algorithm
import ArtifactSigning.Packet.Cursor

/-!
# The public part of a key

The numbers and octets that identify a public key, by algorithm.
-/
namespace ArtifactSigning

/-- A number or a string of octets in a public key. -/
inductive KeyParameter where
  | number (n : Nat)
  | octets (bytes : Bytes)
  deriving DecidableEq, Repr

inductive PublicPart where
  | rsa (modulus exponent : Nat)
  | dsa (p q g y : Nat)
  | elgamal (p g y : Nat)
  /-- A point on the curve with an object identifier. -/
  | curvePoint (curve point : Bytes)
  /-- A point on a curve with the parameters of a key derivation. -/
  | agreement (curve point derivation : Bytes)
  /-- A point on the one curve of its algorithm. -/
  | point (octets : Bytes)
  deriving DecidableEq, Repr

namespace PublicPart

/-- The parameters in the order of the packet, without the curve. -/
def parameters : PublicPart → List KeyParameter
  | .rsa modulus exponent => [.number modulus, .number exponent]
  | .dsa p q g y => [.number p, .number q, .number g, .number y]
  | .elgamal p g y => [.number p, .number g, .number y]
  | .curvePoint _ place => [.octets place]
  | .agreement _ place derivation => [.octets place, .octets derivation]
  | .point place => [.octets place]

/-- The object identifier of the curve, if the key names one. -/
def curve? : PublicPart → Option Bytes
  | .curvePoint curve _ | .agreement curve _ _ => some curve
  | .rsa .. | .dsa .. | .elgamal .. | .point _ => none

/-- A string of octets behind its length in one octet. -/
def readShort : Reading Bytes := do Reading.take (← Reading.number 1)

/-- Reads the public part of a key of an algorithm. -/
def read : KeyAlgorithm → Reading PublicPart
  | .rsa | .rsaEncryptOnly | .rsaSignOnly =>
      return .rsa (← Reading.integer) (← Reading.integer)
  | .dsa =>
      return .dsa (← Reading.integer) (← Reading.integer) (← Reading.integer) (← Reading.integer)
  | .elgamalEncrypt | .elgamalGeneral =>
      return .elgamal (← Reading.integer) (← Reading.integer) (← Reading.integer)
  | .ecdsa | .eddsaLegacy => return .curvePoint (← readShort) (← Reading.integerOctets)
  | .ecdh => return .agreement (← readShort) (← Reading.integerOctets) (← readShort)
  | .x25519 | .ed25519 => return .point (← Reading.take 32)
  | .x448 => return .point (← Reading.take 56)
  | .ed448 => return .point (← Reading.take 57)

end PublicPart

end ArtifactSigning
