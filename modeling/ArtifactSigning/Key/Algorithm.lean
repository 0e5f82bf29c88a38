import ArtifactSigning.Bytes

/-!
# Public-key algorithms

The algorithms that a key packet may name, their numbers and their registered names.
-/
namespace ArtifactSigning

inductive KeyAlgorithm where
  | rsa
  | rsaEncryptOnly
  | rsaSignOnly
  | elgamalEncrypt
  | dsa
  | ecdh
  | ecdsa
  | elgamalGeneral
  | eddsaLegacy
  | x25519
  | x448
  | ed25519
  | ed448
  deriving DecidableEq, Repr

namespace KeyAlgorithm

def all : List KeyAlgorithm :=
  [.rsa, .rsaEncryptOnly, .rsaSignOnly, .elgamalEncrypt, .dsa, .ecdh, .ecdsa, .elgamalGeneral,
    .eddsaLegacy, .x25519, .x448, .ed25519, .ed448]

def id : KeyAlgorithm → Nat
  | .rsa => 1
  | .rsaEncryptOnly => 2
  | .rsaSignOnly => 3
  | .elgamalEncrypt => 16
  | .dsa => 17
  | .ecdh => 18
  | .ecdsa => 19
  | .elgamalGeneral => 20
  | .eddsaLegacy => 22
  | .x25519 => 25
  | .x448 => 26
  | .ed25519 => 27
  | .ed448 => 28

def name : KeyAlgorithm → String
  | .rsa => "RSA"
  | .rsaEncryptOnly => "RSA_ENCRYPT_ONLY"
  | .rsaSignOnly => "RSA_SIGN_ONLY"
  | .elgamalEncrypt => "ELGAMAL_ENCRYPT"
  | .dsa => "DSA"
  | .ecdh => "ECDH"
  | .ecdsa => "ECDSA"
  | .elgamalGeneral => "ELGAMAL_GENERAL"
  | .eddsaLegacy => "EDDSA_LEGACY"
  | .x25519 => "X25519"
  | .x448 => "X448"
  | .ed25519 => "ED25519"
  | .ed448 => "ED448"

/-- The algorithm with the given number. -/
def ofId? (id : Int) : Option KeyAlgorithm := all.find? fun algorithm => algorithm.id = id

/-- Whether keys of the algorithm make signatures. -/
def canSign : KeyAlgorithm → Bool
  | .rsa | .rsaSignOnly | .dsa | .ecdsa | .eddsaLegacy | .ed25519 | .ed448 => true
  | .rsaEncryptOnly | .elgamalEncrypt | .ecdh | .elgamalGeneral | .x25519 | .x448 => false

@[simp] theorem ofId?_id (algorithm : KeyAlgorithm) : ofId? algorithm.id = some algorithm := by
  cases algorithm <;> decide

/-- The name of an algorithm number, also of one that belongs to no known algorithm. -/
def nameOfId (id : Int) : String :=
  match ofId? id with
  | some algorithm => algorithm.name
  | none => s!"algorithm {id}"

end KeyAlgorithm

end ArtifactSigning
