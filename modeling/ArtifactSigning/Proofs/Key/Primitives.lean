import ArtifactSigning.Key.Primitives
import ArtifactSigning.Key.SecretKey
import ArtifactSigning.Proofs.Cipher.Feedback

/-!
# The sizes of the primitives

All that the protection of secret keys needs of its hash functions and block functions is that their
results have fixed sizes. The registered ones do; the digests of primitives may be any functions.
-/
namespace ArtifactSigning

namespace Primitives

/-- Block functions keep the block size of their family, and digests have the size of theirs. -/
structure FixedSizes (primitives : Primitives) : Prop where
  blockSize : ∀ family key, family.acceptsKeySize key.length = true →
    (primitives.blockFunction family key).size = family.blockSize
  length_apply : ∀ family key block, family.acceptsKeySize key.length = true →
    block.length = family.blockSize →
    ((primitives.blockFunction family key).apply block).length = family.blockSize
  length_hash : ∀ hash bytes, (primitives.hash hash bytes).length = hash.size

theorem FixedSizes.keepsSize {primitives : Primitives} (h : primitives.FixedSizes)
    {family : CipherFamily} {key : Bytes} (hkey : family.acceptsKeySize key.length = true) :
    (primitives.blockFunction family key).KeepsSize := by
  have hsize := h.blockSize family key hkey
  refine ⟨?_, fun block hblock => ?_⟩
  · rw [hsize]
    cases family <;> decide
  · rw [hsize] at hblock ⊢
    exact h.length_apply family key block hkey hblock

end Primitives

theorem HashAlgorithm.length_output (hash : HashAlgorithm) (s : hash.blockHash.State) :
    (hash.blockHash.output s).length = hash.size := by
  cases hash <;> rfl

theorem SecretKey.length_fingerprintOf (publicBody : Bytes) :
    (fingerprintOf publicBody).length = 20 :=
  HashAlgorithm.sha1.length_output _

theorem SecretKey.length_fingerprint (key : SecretKey) : key.fingerprint.length = 20 :=
  length_fingerprintOf _

theorem CipherFamily.length_apply (family : CipherFamily) (key block : Bytes) :
    ((family.blockFunction key).apply block).length = family.blockSize := by
  cases family with
  | tripleDes => exact length_bigEndian 8 _
  | cast5 => simp [blockFunction, Cast5.blockFunction, Cast5.encryptBlock, blockSize]
  | blowfish => simp [blockFunction, Blowfish.blockFunction, Blowfish.encryptBlock, blockSize]
  | aes => simp [blockFunction, Aes.blockFunction, Aes.encryptBlock, Aes.addRoundKey, blockSize]
  | camellia => exact length_bigEndian 16 _

/-- The registered primitives have fixed sizes. -/
theorem Primitives.fixedSizes_standard : standard.FixedSizes where
  blockSize family key _ := by cases family <;> rfl
  length_apply family key block _ _ := family.length_apply key block
  length_hash hash _ := hash.length_output _

namespace BlockHash

/-- A block hash whose digest is any function of the message. -/
def ofFunction (f : Bytes → Bytes) : BlockHash where
  State := Bytes
  blockSize := 1
  lengthWidth := 0
  initial := []
  compress s block := s ++ block.data.toList
  lengthField _ := []
  output s := f s.dropLast

theorem update_ofFunction (f : Bytes → Bytes) (seen bytes : Bytes) (length : Nat) :
    Context.update (h := ofFunction f) ⟨seen, ByteArray.empty, length⟩ bytes =
      ⟨seen ++ bytes, ByteArray.empty, length + bytes.length⟩ := by
  induction bytes generalizing seen length with
  | nil => simp
  | cons b bytes ih =>
      have hone : Context.absorb (h := ofFunction f) ⟨seen, ByteArray.empty, length⟩ b =
          ⟨seen ++ [b], ByteArray.empty, length + 1⟩ := rfl
      rw [Context.update, List.foldl_cons, hone]
      have hrest := ih (seen ++ [b]) (length + 1)
      rw [Context.update] at hrest
      rw [hrest, List.append_assoc, List.singleton_append, List.length_cons]
      congr 1
      omega

/-- Every function of octets is the digest of some block hash. -/
theorem hash_ofFunction (f : Bytes → Bytes) (bytes : Bytes) :
    (ofFunction f).hash bytes = f bytes := by
  have hmessage : (ofFunction f).start.update bytes =
      ⟨bytes, ByteArray.empty, 0 + bytes.length⟩ := update_ofFunction f [] bytes 0
  have hpadding : (ofFunction f).padding (0 + bytes.length) = [0x80] := by
    simp [padding, ofFunction, Nat.mod_one]
  rw [hash, hmessage, Context.digest, hpadding, update_ofFunction]
  simp [ofFunction]

end BlockHash

end ArtifactSigning
