import ArtifactSigning.Cipher.Aes
import ArtifactSigning.Cipher.Blowfish
import ArtifactSigning.Cipher.Camellia
import ArtifactSigning.Cipher.Cast5
import ArtifactSigning.Cipher.TripleDes
import ArtifactSigning.Failure

/-!
# The ciphers of protected secret keys

A family gives a block function for every key of a size that it accepts. A cipher is a family with
a fixed key size and has a number in key packets; the block sizes of two more numbers are known, so
that packets protected by them can be cut although they cannot be decrypted.
-/
namespace ArtifactSigning

inductive CipherFamily where
  | tripleDes
  | cast5
  | blowfish
  | aes
  | camellia
  deriving DecidableEq, Repr

namespace CipherFamily

def blockSize : CipherFamily → Nat
  | .tripleDes | .cast5 | .blowfish => 8
  | .aes | .camellia => 16

/-- Whether the family has keys of the given number of octets. -/
def acceptsKeySize (family : CipherFamily) (size : Nat) : Bool :=
  match family with
  | .tripleDes => size = 8 ∨ size = 16 ∨ size = 24
  | .cast5 => 5 ≤ size ∧ size ≤ 16
  | .blowfish => 4 ≤ size ∧ size ≤ 56
  | .aes | .camellia => size = 16 ∨ size = 24 ∨ size = 32

/-- The block function of a key. -/
def blockFunction (family : CipherFamily) (key : Bytes) : BlockFunction :=
  match family with
  | .tripleDes => TripleDes.blockFunction key
  | .cast5 => Cast5.blockFunction key
  | .blowfish => Blowfish.blockFunction key
  | .aes => Aes.blockFunction key
  | .camellia => Camellia.blockFunction key

/-- Decrypts by cipher feedback with the given block functions; the key and the initial vector have
to fit the family. -/
def decryptWith (blockFunction : CipherFamily → Bytes → BlockFunction) (family : CipherFamily)
    (key iv secret : Bytes) : Except Failure Bytes :=
  if family.acceptsKeySize key.length ∧ iv.length = family.blockSize then
    .ok ((blockFunction family key).decrypt iv secret)
  else .error .invalidValue

def decrypt (family : CipherFamily) (key iv secret : Bytes) : Except Failure Bytes :=
  decryptWith blockFunction family key iv secret

end CipherFamily

structure Cipher where
  family : CipherFamily
  keySize : Nat
  deriving DecidableEq, Repr

namespace Cipher

/-- The cipher with the given number. -/
def ofId? : Nat → Option Cipher
  | 2 => some ⟨.tripleDes, 24⟩
  | 3 => some ⟨.cast5, 16⟩
  | 4 => some ⟨.blowfish, 16⟩
  | 7 => some ⟨.aes, 16⟩
  | 8 => some ⟨.aes, 24⟩
  | 9 => some ⟨.aes, 32⟩
  | 11 => some ⟨.camellia, 16⟩
  | 12 => some ⟨.camellia, 24⟩
  | 13 => some ⟨.camellia, 32⟩
  | _ => none

/-- The block size that belongs to a number, which may be that of a cipher without an
implementation. -/
def blockSizeOf? (id : Nat) : Option Nat :=
  match ofId? id with
  | some cipher => some cipher.family.blockSize
  | none => if id = 1 then some 8 else if id = 10 then some 16 else none

end Cipher

end ArtifactSigning
