import ArtifactSigning.Digest.Md5
import ArtifactSigning.Digest.Ripemd160
import ArtifactSigning.Digest.Sha1
import ArtifactSigning.Digest.Sha256
import ArtifactSigning.Digest.Sha512
import ArtifactSigning.Failure

/-!
# Numbered hash functions

The hash functions that have a number in packets. `HashAlgorithm.ofId` finds one by its number;
`HashAlgorithm.forSignature` finds those that a signature with a prehashed message may use.
-/
namespace ArtifactSigning

inductive HashAlgorithm where
  | md5
  | sha1
  | ripemd160
  | sha256
  | sha384
  | sha512
  | sha224
  deriving DecidableEq, Repr

namespace HashAlgorithm

def id : HashAlgorithm → Nat
  | .md5 => 1
  | .sha1 => 2
  | .ripemd160 => 3
  | .sha256 => 8
  | .sha384 => 9
  | .sha512 => 10
  | .sha224 => 11

def all : List HashAlgorithm := [.md5, .sha1, .ripemd160, .sha256, .sha384, .sha512, .sha224]

/-- The hash function with the given number. -/
def ofId? (id : Int) : Option HashAlgorithm := all.find? fun hash => hash.id = id

/-- The hash function with the given number; the other numbers are not supported. -/
def ofId (id : Int) : Except Failure HashAlgorithm :=
  match ofId? id with
  | some hash => .ok hash
  | none => .error (.unsupported (.hash id))

def blockHash : HashAlgorithm → BlockHash
  | .md5 => Md5.md5
  | .sha1 => Sha1.sha1
  | .ripemd160 => Ripemd160.ripemd160
  | .sha256 => Sha256.sha256
  | .sha384 => Sha512.sha384
  | .sha512 => Sha512.sha512
  | .sha224 => Sha256.sha224

/-- The number of octets of a digest. -/
def size : HashAlgorithm → Nat
  | .md5 => 16
  | .sha1 | .ripemd160 => 20
  | .sha256 => 32
  | .sha384 => 48
  | .sha512 => 64
  | .sha224 => 28

/-- The digest of a byte string. -/
def hash (algorithm : HashAlgorithm) (bytes : Bytes) : Bytes := algorithm.blockHash.hash bytes

/-- Whether a signature over a digest may name the hash function. -/
def signsDigests : HashAlgorithm → Bool
  | .sha256 | .sha384 | .sha512 | .sha224 => true
  | .md5 | .sha1 | .ripemd160 => false

/-- The hash function with the given number, for a signature over its digest. -/
def forSignature (id : Int) : Except Failure HashAlgorithm :=
  match (ofId? id).filter signsDigests with
  | some hash => .ok hash
  | none => .error (.unsupported (.signatureHash id))

theorem size_pos (algorithm : HashAlgorithm) : 0 < algorithm.size := by
  cases algorithm <;> decide

@[simp] theorem ofId?_id (algorithm : HashAlgorithm) : ofId? algorithm.id = some algorithm := by
  cases algorithm <;> decide

end HashAlgorithm

end ArtifactSigning
