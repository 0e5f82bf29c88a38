import ArtifactSigning.Packet.Cursor
import ArtifactSigning.Signature.Subpacket

/-!
# Self-signatures

The properties that the owner of a key has signed about the key itself. The hashed area is covered
by the signature and gives them; of the other area only the key id of the issuer is read, which no
decision on the validity of a key rests on.
-/
namespace ArtifactSigning

structure SelfSignature where
  kind : Nat
  created? : Option Nat
  keyExpiration? : Option Nat
  issuerFingerprint? : Option Bytes
  issuerKeyId? : Option Bytes
  deriving DecidableEq, Repr

namespace SelfSignature

/-- The kinds of signatures by which a primary key certifies itself. -/
def primaryKinds : List Nat := [0x10, 0x11, 0x12, 0x13, 0x1F]

/-- The kinds of signatures by which a primary key accepts a subkey. -/
def subkeyKinds : List Nat := [0x18]

/-- Takes over the key id of the issuer. -/
def readIssuerKeyId (s : SelfSignature) (p : Subpacket) : SelfSignature :=
  if p.kind = Subpacket.issuerKeyIdKind ∧ p.value.length = 8 then
    { s with issuerKeyId? := some p.value }
  else s

/-- Takes over a property of the hashed area; later ones win. -/
def readHashed (s : SelfSignature) (p : Subpacket) : SelfSignature :=
  if p.kind = Subpacket.creationTimeKind ∧ p.value.length = 4 then
    { s with created? := some (ofBigEndian p.value) }
  else if p.kind = Subpacket.keyExpirationKind ∧ p.value.length = 4 then
    { s with keyExpiration? := some (ofBigEndian p.value) }
  else if p.kind = Subpacket.issuerFingerprintKind ∧ p.value.length = 21 then
    { s with issuerFingerprint? := some (p.value.drop 1) }
  else s.readIssuerKeyId p

/-- The properties in the two areas of a signature. -/
def ofAreas (kind : Nat) (hashed unhashed : List Subpacket) : SelfSignature :=
  unhashed.foldl readIssuerKeyId (hashed.foldl readHashed ⟨kind, none, none, none, none⟩)

/-- The next area: its length in two octets and its subpackets. -/
def readArea : Reading (List Subpacket) := do
  let area ← Reading.take (← Reading.number 2)
  match Subpacket.readAll area with
  | .ok subpackets => return subpackets
  | .error failure => throw failure

/-- Reads the body of a signature packet; only version 4 is understood. -/
def read : Reading (Option SelfSignature) := do
  if (← Reading.octet) = 4 then
    let kind ← Reading.number 1
    let _ ← Reading.take 2
    let hashed ← readArea
    let unhashed ← readArea
    return some (ofAreas kind hashed unhashed)
  else return none

/-- The properties in the body of a signature packet. -/
def ofBody (body : Bytes) : Except Failure (Option SelfSignature) := Reading.onBytes read body

/-- Whether the signature names the key with the given fingerprint as its issuer, or names none. -/
def issuedBy (s : SelfSignature) (fingerprint keyId : Bytes) : Bool :=
  match s.issuerFingerprint?, s.issuerKeyId? with
  | some issuer, _ => issuer = fingerprint
  | none, some issuer => issuer = keyId
  | none, none => true

end SelfSignature

end ArtifactSigning
