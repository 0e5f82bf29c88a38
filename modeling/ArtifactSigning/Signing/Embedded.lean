import ArtifactSigning.Credential.Resolver
import ArtifactSigning.Signature.Detached
import ArtifactSigning.Signing.Batch

/-!
# The embedded signer

Signs without any other program: the key is resolved once, and every file is hashed and signed by
the library itself. A signature carries its creation time and the fingerprint of the key.
-/
namespace ArtifactSigning.Embedded

/-- The number of octets read from a file at a time. -/
def chunkSize : Nat := 8192

def name : String := "embedded"

/-- The kind of signatures over the octets of a file. -/
def documentKind : Int := 0

/-- Resolves the key anew. -/
def prepare (resolver : Resolver) : Act Unit := do
  let resolved ← resolver.resolve
  modify fun w => { w with resolved? := some resolved }
  Act.debug .embeddedSigner s!"Embedded signer ready with key {resolved.key.fingerprintText}"

/-- The key, resolved if that has not been done before. -/
def resolvedKey (resolver : Resolver) : Act ResolvedKey := do
  match (← get).resolved? with
  | some resolved => return resolved
  | none =>
      prepare resolver
      match (← get).resolved? with
      | some resolved => return resolved
      | none => throw (.credential .noKey)

/-- The whole second that the clock shows. -/
def secondsOf (now : Rat) : Int := now.num.tdiv now.den

/-- The signature of a document, made at an instant with private operations. -/
def signatureBy (operations : PrivateOperations) (resolved : ResolvedKey) (now : Rat)
    (document : Bytes) : Except Failure DetachedSignature := do
  let issuer ← Subpacket.issuerFingerprint resolved.key.fingerprint
  let generator ← SignatureGenerator.start resolved.privateKey documentKind
    HashAlgorithm.sha512.id [issuer]
  ((pieces chunkSize document).foldl (·.update ·) generator).finishBy
    (resolved.privateKey.signWith operations) (secondsOf now)

def signatureOf : ResolvedKey → Rat → Bytes → Except Failure DetachedSignature :=
  signatureBy .standard

/-- Writes the signature of a file, which is read by `read`; the octets of the signature are brought
into a file by `write`. -/
def signBy (operations : PrivateOperations) (read : Path → Act Bytes)
    (write : Path → Bytes → Act Unit) (resolver : Resolver) (source : Path)
    (destination? : Option Path) : Act Path := do
  let resolved ← resolvedKey resolver
  let destination ← Act.ofExcept (Layout.destination source destination?)
  let key := resolved.key
  unless key.canSign do
    throw (.unsupported (.signingKey key.fingerprintText key.algorithm.name))
  let document ← read source
  let signature ← Act.ofExcept (signatureBy operations resolved (← get).now document)
  Act.writeTextBy write destination signature.armored
  Act.debug .embeddedSigner s!"Signed {source.text} -> {destination.text}"
  return destination

/-- Writes the signature of a file. -/
def sign : Resolver → Path → Option Path → Act Path :=
  signBy .standard Act.readFile Act.writeFile

/-- The signer whose key a resolver finds. -/
def signer (resolver : Resolver) : Signer where
  name := name
  prepare := prepare resolver
  sign := sign resolver
  describe := do return (← resolvedKey resolver).key.describe

end ArtifactSigning.Embedded
