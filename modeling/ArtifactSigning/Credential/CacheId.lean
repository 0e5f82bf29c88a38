import ArtifactSigning.Key.SecretKey

/-!
# Names of keys in the cache of an agent

An agent keeps passphrases under short names: the low half of the key id in lower-case digits
without leading zeros, or the fingerprint in upper-case digits.
-/
namespace ArtifactSigning

inductive CacheIdStyle where
  | keyId
  | fingerprint
  deriving DecidableEq, Repr

/-- The style with the given name; every other name means the key id. -/
def CacheIdStyle.ofName (name : String) : CacheIdStyle :=
  if name = "fingerprint" then .fingerprint else .keyId

/-- The name of a key in the cache of an agent. -/
def SecretKey.cacheId (key : SecretKey) : CacheIdStyle → String
  | .fingerprint => key.fingerprintText
  | .keyId => String.ofList (Text.Hex.ofNat (ofBigEndian key.keyId % 2 ^ 32))

end ArtifactSigning
