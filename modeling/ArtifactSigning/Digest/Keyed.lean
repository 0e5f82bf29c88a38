import ArtifactSigning.Digest.Algorithm

/-!
# Keyed digests

A keyed digest hashes the message between two masked copies of the key.
-/
namespace ArtifactSigning.HashAlgorithm

/-- The key filled up with zeros to a whole block, after hashing if it is longer. -/
def blockKey (hash : HashAlgorithm) (key : Bytes) : Bytes :=
  let key := if hash.blockHash.blockSize < key.length then hash.hash key else key
  key ++ List.replicate (hash.blockHash.blockSize - key.length) 0

/-- The keyed digest of a message. -/
def keyed (hash : HashAlgorithm) (key message : Bytes) : Bytes :=
  let key := hash.blockKey key
  hash.hash (key.map (· ^^^ 0x5C) ++ hash.hash (key.map (· ^^^ 0x36) ++ message))

end ArtifactSigning.HashAlgorithm
