import ArtifactSigning.Cipher.Suite
import ArtifactSigning.Key.PublicPart
import ArtifactSigning.Key.StringToKey
import ArtifactSigning.Signature.SelfSignature

/-!
# Secret keys

The body of a secret key packet is a public part, an octet that says how the secret part is
protected, what the protection needs, and the secret part. The fingerprint is a digest of the public
part alone, so a key keeps its identity however it is protected. `SecretKey.ofBody` reads a body.
-/
namespace ArtifactSigning

/-- How the secret part of a key is protected. A cipher number of zero leaves it readable. -/
inductive Protection where
  | unprotected
  /-- With a string-to-key specifier; the check is a digest or a sum of octets. -/
  | specified (withDigest : Bool) (cipher : Nat) (specifier : StringToKey)
  /-- By a cipher alone, under a digest of the passphrase. -/
  | legacy (cipher : Nat)
  deriving DecidableEq, Repr

namespace Protection

/-- The octet in front of the secret part. -/
def usage : Protection → Nat
  | .unprotected => 0
  | .specified true .. => 254
  | .specified false .. => 255
  | .legacy cipher => cipher

/-- The number of the cipher, zero if there is none. -/
def cipher : Protection → Nat
  | .unprotected => 0
  | .specified _ cipher _ | .legacy cipher => cipher

/-- How the cipher key comes from the passphrase. -/
def specifier? : Protection → Option StringToKey
  | .unprotected => none
  | .specified _ _ specifier => some specifier
  | .legacy _ => some (.simple HashAlgorithm.md5.id)

def isEncrypted (p : Protection) : Bool := p.cipher ≠ 0

/-- Whether the protection stands for a secret part that is kept elsewhere. -/
def isStub (p : Protection) : Bool := p.specifier?.any StringToKey.isStub

/-- Whether the check behind the secret part is a digest. -/
def hasDigest : Protection → Bool
  | .specified withDigest .. => withDigest
  | .unprotected | .legacy _ => false

/-- Reads the protection of a secret part. -/
def read : Reading Protection := do
  match ← Reading.number 1 with
  | 0 => return .unprotected
  | 253 => throw (.unsupported .authenticatedProtection)
  | 254 => return .specified true (← Reading.number 1) (← StringToKey.read)
  | 255 => return .specified false (← Reading.number 1) (← StringToKey.read)
  | cipher => return .legacy cipher

/-- Reads the initial vector of a protection: one block of the cipher, if something is encrypted. -/
def readInitialVector (p : Protection) : Reading Bytes :=
  if p.isEncrypted ∧ ¬p.isStub then
    match Cipher.blockSizeOf? p.cipher with
    | some size => Reading.take size
    | none => throw (.unsupported (.cipher p.cipher))
  else return []

end Protection

structure SecretKey where
  algorithm : KeyAlgorithm
  /-- The creation time in seconds. -/
  created : Nat
  /-- The octets of the public part. -/
  publicBody : Bytes
  publicPart : PublicPart
  protection : Protection
  initialVector : Bytes
  /-- The octets of the secret part. -/
  secretData : Bytes
  isSubkey : Bool
  userIds : List String
  selfSignatures : List SelfSignature
  deriving DecidableEq, Repr

namespace SecretKey

/-- Reads the algorithm of a key. -/
def readAlgorithm : Reading KeyAlgorithm := do
  let id ← Reading.number 1
  match KeyAlgorithm.ofId? id with
  | some algorithm => return algorithm
  | none => throw (.unsupported (.publicKeyAlgorithm id))

/-- Reads the version of a key; only version 4 is understood. -/
def readVersion : Reading Unit := do
  let version ← Reading.number 1
  if version ≠ 4 then throw (.unsupported (.keyVersion version))

/-- Reads the body of a secret key packet. -/
def read (body : Bytes) (isSubkey : Bool) : Reading SecretKey := do
  readVersion
  let created ← Reading.number 4
  let algorithm ← readAlgorithm
  let publicPart ← PublicPart.read algorithm
  let publicBody := body.take (← Reading.offset)
  let protection ← Protection.read
  let initialVector ← protection.readInitialVector
  let secretData ← Reading.remaining
  return {
    algorithm, created, publicBody, publicPart, protection, initialVector, secretData, isSubkey
    userIds := []
    selfSignatures := [] }

/-- The key in the body of a secret key packet. -/
def ofBody (body : Bytes) (isSubkey : Bool) : Except Failure SecretKey :=
  Reading.onBytes (read body isSubkey) body

/-- The digest of the public part behind a mark and its length. -/
def fingerprintOf (publicBody : Bytes) : Bytes :=
  HashAlgorithm.sha1.hash (0x99 :: bigEndian 2 publicBody.length ++ publicBody)

def fingerprint (key : SecretKey) : Bytes := fingerprintOf key.publicBody

/-- The last eight octets of the fingerprint. -/
def keyId (key : SecretKey) : Bytes := key.fingerprint.drop (key.fingerprint.length - 8)

/-- The fingerprint in upper-case digits. -/
def fingerprintText (key : SecretKey) : String :=
  String.ofList (Text.Hex.encodeUpper key.fingerprint)

def isEncrypted (key : SecretKey) : Bool := key.protection.isEncrypted

/-- Whether the packet holds a secret part. -/
def hasPrivatePart (key : SecretKey) : Bool :=
  !key.protection.isStub && !key.secretData.isEmpty

def canSign (key : SecretKey) : Bool := key.algorithm.canSign

/-- The kinds of self-signatures that the validity of the key depends on. -/
def validityKinds (key : SecretKey) : List Nat :=
  if key.isSubkey then SelfSignature.subkeyKinds else SelfSignature.primaryKinds

/-- The later of two signatures, the first one if they are equally old. -/
def later (best s : SelfSignature) : SelfSignature :=
  if best.created?.getD 0 < s.created?.getD 0 then s else best

/-- The newest self-signature on the validity of the key, the first one of equally old ones. -/
def newestSelfSignature? (key : SecretKey) : Option SelfSignature :=
  match key.selfSignatures.filter fun s => key.validityKinds.contains s.kind with
  | [] => none
  | first :: others => some (others.foldl later first)

/-- The number of seconds from its creation for which the key is valid; zero means for ever. -/
def validSeconds (key : SecretKey) : Nat :=
  (key.newestSelfSignature?.bind (·.keyExpiration?)).getD 0

/-- The second after which the key is no longer valid. -/
def expiresAt? (key : SecretKey) : Option Nat :=
  if key.validSeconds = 0 then none else some (key.created + key.validSeconds)

end SecretKey

end ArtifactSigning
