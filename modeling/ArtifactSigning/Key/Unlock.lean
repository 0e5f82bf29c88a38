import ArtifactSigning.Key.PrivateKey
import ArtifactSigning.Text.Raw

/-!
# Unlocking a secret key

The readable secret part ends with a check, a digest or a sum of its octets. A passphrase is right
exactly if the check is.
-/
namespace ArtifactSigning

namespace Protection

/-- The sum of octets, in two octets. -/
def octetSum (bytes : Bytes) : Bytes := bigEndian 2 (bytes.foldl (fun sum b => sum + b.toNat) 0)

/-- The number of octets of the check. -/
def checkSize (p : Protection) : Nat := if p.hasDigest then 20 else 2

/-- The check of a secret part. -/
def check (primitives : Primitives) (p : Protection) (material : Bytes) : Bytes :=
  if p.hasDigest then primitives.hash .sha1 material else octetSum material

/-- The secret part in front of its check, if there is one and the check is right. -/
def checkedMaterial? (primitives : Primitives) (p : Protection) (plain : Bytes) : Option Bytes :=
  let material := plain.take (plain.length - p.checkSize)
  let found := plain.drop (plain.length - p.checkSize)
  if p.checkSize < plain.length ∧ p.check primitives material = found then some material
  else none

end Protection

namespace SecretKey

/-- Decrypts the secret part by a passphrase, from whose octets the key of the cipher comes. -/
def decrypt (primitives : Primitives) (key : SecretKey) (specifier : StringToKey)
    (passphrase : RawText) : Except Failure Bytes :=
  match Cipher.ofId? key.protection.cipher with
  | none => .error (.unsupported (.cipher key.protection.cipher))
  | some cipher => do
      let octets ← passphrase.encode.mapError .unencodable
      let cipherKey ← specifier.deriveKeyWith primitives octets cipher.keySize
      cipher.family.decryptWith primitives.blockFunction cipherKey key.initialVector key.secretData

/-- The readable secret part with its check. -/
def plainData (primitives : Primitives) (key : SecretKey) (passphrase? : Option RawText) :
    Except Failure Bytes :=
  match key.isEncrypted, key.protection.specifier?, passphrase? with
  | true, some specifier, some passphrase => key.decrypt primitives specifier passphrase
  | true, _, none => .error (.credential .noPassphrase)
  | _, _, _ => .ok key.secretData

/-- What a wrong check means: a wrong passphrase, or damage where there is none. -/
def checkFailure (key : SecretKey) : Failure :=
  if key.isEncrypted then .decryption .checksumMismatch else .format .secretChecksumMismatch

/-- The private key, unlocked by a passphrase if it is protected. -/
def unlockWith (primitives : Primitives) (key : SecretKey) (passphrase? : Option RawText) :
    Except Failure PrivateKey :=
  if key.hasPrivatePart then do
    let plain ← key.plainData primitives passphrase?
    match key.protection.checkedMaterial? primitives plain with
    | none => .error key.checkFailure
    | some material => Reading.onBytes (PrivateKey.read key.algorithm key.publicPart) material
  else .error (.credential .noPrivateKey)

def unlock (key : SecretKey) (passphrase? : Option RawText) : Except Failure PrivateKey :=
  key.unlockWith .standard passphrase?

end SecretKey

end ArtifactSigning
