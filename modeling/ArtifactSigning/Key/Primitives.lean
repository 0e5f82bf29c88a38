import ArtifactSigning.Cipher.Suite
import ArtifactSigning.Digest.Algorithm

/-!
# The primitives of key protection

Protected secret keys rest on hash functions and on block ciphers. What is done with them does not
depend on which they are, so they are given as one value; `Primitives.standard` has the registered
ones.
-/
namespace ArtifactSigning

structure Primitives where
  blockHash : HashAlgorithm → BlockHash
  /-- The block function of a family under a key. -/
  blockFunction : CipherFamily → Bytes → BlockFunction

namespace Primitives

def standard : Primitives := ⟨HashAlgorithm.blockHash, CipherFamily.blockFunction⟩

/-- The digest of a byte string. -/
def hash (primitives : Primitives) (algorithm : HashAlgorithm) (bytes : Bytes) : Bytes :=
  (primitives.blockHash algorithm).hash bytes

end Primitives

end ArtifactSigning
