import ArtifactSigning.Key.Unlock
import ArtifactSigning.Proofs.Key.Derivation
import ArtifactSigning.Proofs.Key.SecretKeyForm
import ArtifactSigning.Proofs.Text.Raw
import Mathlib.Algebra.GroupWithZero.Nat

/-!
# Unlocking undoes protection

A secret part that was encrypted under the key of a passphrase comes back under the same passphrase,
with a check that is right. What is unlocked then depends on the public part and on the secret part
alone, so a protected key and the same key without protection unlock alike.
-/
namespace ArtifactSigning

theorem bigEndian_mod (width n : Nat) : bigEndian width (n % 256 ^ width) = bigEndian width n := by
  have h := bigEndian_ofBigEndian (bigEndian width n)
  rwa [length_bigEndian, ofBigEndian_bigEndian] at h

theorem SpecifierForm.exists_fed {specifier : StringToKey} {hash : HashAlgorithm} {form : Bytes}
    (h : SpecifierForm specifier hash form) (passphrase : Bytes) :
    ∃ fed, specifier.fed? passphrase = some fed := by
  cases h <;> exact ⟨_, rfl⟩

namespace Protection

variable {primitives : Primitives} {material : Bytes}

/-- The check of a secret part: its digest, or the sum of its octets modulo 65536. -/
def checkOf (primitives : Primitives) (withDigest : Bool) (material : Bytes) : Bytes :=
  if withDigest then primitives.hash .sha1 material
  else bigEndian 2 ((material.map UInt8.toNat).sum % 65536)

theorem octetSum_eq (material : Bytes) :
    octetSum material = bigEndian 2 ((material.map UInt8.toNat).sum % 65536) := by
  have hsum : material.foldl (fun sum b => sum + b.toNat) 0 = (material.map UInt8.toNat).sum := by
    rw [List.sum_eq_foldl, List.foldl_map]
  rw [octetSum, hsum]
  exact (bigEndian_mod 2 _).symm

theorem check_eq (p : Protection) :
    p.check primitives material = checkOf primitives p.hasDigest material := by
  rw [check, checkOf, octetSum_eq]

theorem length_checkOf (hsizes : primitives.FixedSizes) (p : Protection) :
    (checkOf primitives p.hasDigest material).length = p.checkSize := by
  rw [checkOf, checkSize]
  by_cases hdigest : p.hasDigest
  · rw [if_pos hdigest, if_pos hdigest, hsizes.length_hash]
    rfl
  · rw [if_neg hdigest, if_neg hdigest, length_bigEndian]

/-- A secret part in front of its check is found. -/
theorem checkedMaterial?_append (hsizes : primitives.FixedSizes) (p : Protection)
    (hmaterial : material ≠ []) :
    p.checkedMaterial? primitives (material ++ checkOf primitives p.hasDigest material) =
      some material := by
  have hpos : 0 < material.length := List.length_pos_iff.2 hmaterial
  have hlength : (material ++ checkOf primitives p.hasDigest material).length - p.checkSize =
      material.length := by
    rw [List.length_append, length_checkOf hsizes, Nat.add_sub_cancel]
  have hsize : p.checkSize < (material ++ checkOf primitives p.hasDigest material).length := by
    rw [List.length_append, length_checkOf hsizes]
    omega
  simp only [checkedMaterial?, hlength, List.take_left, List.drop_left, check_eq, hsize, true_and,
    if_true]

end Protection

namespace SecretKey

variable {primitives : Primitives} {key : SecretKey} {material : Bytes}

/-- What is unlocked depends on the secret part, if the readable octets end with its check. -/
theorem unlockWith_eq (hsizes : primitives.FixedSizes) (hmaterial : material ≠ [])
    {passphrase? : Option RawText} (hprivate : key.hasPrivatePart = true)
    (hplain : key.plainData primitives passphrase? =
      .ok (material ++ Protection.checkOf primitives key.protection.hasDigest material)) :
    key.unlockWith primitives passphrase? =
      Reading.onBytes (PrivateKey.read key.algorithm key.publicPart) material := by
  rw [unlockWith, if_pos hprivate, hplain]
  simp only [bind, Except.bind]
  rw [Protection.checkedMaterial?_append hsizes _ hmaterial]

/-- Decryption gives back the octets that were encrypted under the key of the passphrase. -/
theorem decrypt_eq {specifier : StringToKey} {passphrase : RawText} {cipher : Cipher}
    {octets cipherKey plain : Bytes} (hsizes : primitives.FixedSizes)
    (hcipher : Cipher.ofId? key.protection.cipher = some cipher)
    (hencoded : passphrase.encode = .ok octets)
    (hderived : specifier.deriveKeyWith primitives octets cipher.keySize = .ok cipherKey)
    (hlength : cipherKey.length = cipher.keySize)
    (hiv : key.initialVector.length = cipher.family.blockSize)
    (hsecret : key.secretData =
      (primitives.blockFunction cipher.family cipherKey).encrypt key.initialVector plain) :
    key.decrypt primitives specifier passphrase = .ok plain := by
  have haccepts := Cipher.acceptsKeySize hcipher hlength
  have hregister := hiv.trans (hsizes.blockSize _ _ haccepts).symm
  rw [decrypt, hcipher]
  simp only [hencoded, Except.mapError, hderived, bind, Except.bind]
  rw [CipherFamily.decryptWith, if_pos ⟨haccepts, hiv⟩, hsecret,
    BlockFunction.decrypt_encrypt (hsizes.keepsSize haccepts) (.inl hregister)]

/-- A key that was protected by a passphrase unlocks under it as the same key without protection
does. The secret part of the one is encrypted behind any initial vector, under a key that comes from
the passphrase by any specifier; hash functions and block functions are any of fixed sizes. -/
theorem unlock_protected (hsizes : primitives.FixedSizes) {algorithm : KeyAlgorithm}
    {created : Nat} {part : PublicPart} {publicBody : Bytes}
    (hbody : PublicBody algorithm created part publicBody) {protection : Protection}
    {cipher : Cipher} {specifier : StringToKey} {hash : HashAlgorithm} {form : Bytes}
    (hprotection : ProtectionForm protection cipher specifier hash form)
    (hmaterial : material ≠ []) {iv : Bytes} (hiv : iv.length = cipher.family.blockSize)
    (passphrase : String) (isSubkey : Bool) :
    ∃ cipherKey lockedKey plainKey,
      specifier.deriveKeyWith primitives (Text.Utf8.encode passphrase.toList) cipher.keySize =
        .ok cipherKey ∧
      ofBody (publicBody ++ (form ++ (iv ++
        (primitives.blockFunction cipher.family cipherKey).encrypt iv
          (material ++ Protection.checkOf primitives protection.hasDigest material)))) isSubkey =
        .ok lockedKey ∧
      ofBody (publicBody ++ ([0] ++ (material ++
        bigEndian 2 ((material.map UInt8.toNat).sum % 65536)))) isSubkey = .ok plainKey ∧
      ∀ passphrase?, lockedKey.unlockWith primitives (some (.ofString passphrase)) =
        plainKey.unlockWith primitives passphrase? := by
  obtain ⟨_, hspecifier⟩ := hprotection.specifierForm
  obtain ⟨fed, hfed⟩ := hspecifier.exists_fed (Text.Utf8.encode passphrase.toList)
  obtain ⟨cipherKey, hderived, hlength⟩ :=
    StringToKey.exists_deriveKeyWith hsizes hspecifier.ofId_hash hfed cipher.keySize
  have haccepts := Cipher.acceptsKeySize hprotection.cipher_eq hlength
  have hregister := hiv.trans (hsizes.blockSize _ _ haccepts).symm
  have hopen : Reading.Reads Protection.read [0] .unprotected :=
    (Reading.reads_octetNumber 0).bind (Reading.reads_pure _)
  have hnoVector : Reading.Reads Protection.unprotected.readInitialVector [] [] :=
    Reading.reads_pure []
  refine ⟨cipherKey, _, _, hderived,
    ofBody_eq_ok hbody hprotection.reads (hprotection.reads_initialVector hiv) _ isSubkey,
    ofBody_eq_ok hbody hopen hnoVector _ isSubkey, fun passphrase? => ?_⟩
  have hsecret : (primitives.blockFunction cipher.family cipherKey).encrypt iv
      (material ++ Protection.checkOf primitives protection.hasDigest material) ≠ [] := by
    rw [← List.length_pos_iff, BlockFunction.length_encrypt (hsizes.keepsSize haccepts)
      (.inl hregister), List.length_append]
    have hpos := List.length_pos_iff.2 hmaterial
    omega
  rw [unlockWith_eq hsizes hmaterial, unlockWith_eq hsizes hmaterial]
  · simp [hasPrivatePart, Protection.isStub, Protection.specifier?, hmaterial]
  · simp [plainData, isEncrypted, Protection.isEncrypted, Protection.cipher, Protection.checkOf,
      Protection.hasDigest]
  · simp [hasPrivatePart, hprotection.isStub_eq, hsecret]
  · simp only [plainData, isEncrypted, hprotection.isEncrypted_eq, hprotection.specifier?_eq]
    exact decrypt_eq hsizes hprotection.cipher_eq (RawText.encode_ofChars _) hderived hlength hiv
      rfl

/-- A key on an Edwards curve under the derived key of a passphrase, with the registered
primitives. -/
theorem unlock_protected_with_iterated_specifier :
    ∃ cipherKey lockedKey plainKey,
      (StringToKey.iterated 8 [1, 2, 3, 4, 5, 6, 7, 8] 65536).deriveKey
        (Text.Utf8.encode "secret".toList) 16 = .ok cipherKey ∧
      ofBody (([4] ++ ([0, 0, 0, 0] ++ ([27] ++ List.replicate 32 9))) ++
        (([254] ++ ([7] ++ ([3] ++ ([8] ++ ([1, 2, 3, 4, 5, 6, 7, 8] ++ [96]))))) ++
          (List.replicate 16 0 ++ (CipherFamily.aes.blockFunction cipherKey).encrypt
            (List.replicate 16 0) ([1, 2, 3] ++ HashAlgorithm.sha1.hash [1, 2, 3])))) false =
        .ok lockedKey ∧
      ofBody (([4] ++ ([0, 0, 0, 0] ++ ([27] ++ List.replicate 32 9))) ++
        ([0] ++ ([1, 2, 3] ++ [0, 6]))) false = .ok plainKey ∧
      ∀ passphrase?,
        lockedKey.unlock (some (.ofString "secret")) = plainKey.unlock passphrase? := by
  have hbody : PublicBody .ed25519 0 (.point (List.replicate 32 9))
      ([4] ++ (bigEndian 4 0 ++ ([27] ++ List.replicate 32 9))) :=
    .mk (by decide) (.point (by decide))
  have hspecifier : SpecifierForm (.iterated 8 [1, 2, 3, 4, 5, 6, 7, 8] 65536) .sha256
      ([3] ++ ([8] ++ ([1, 2, 3, 4, 5, 6, 7, 8] ++ [96]))) := .iterated .sha256 rfl 96
  have hprotection := ProtectionForm.specified true (show Cipher.ofId? 7 = some _ from rfl)
    hspecifier
  have hsum : bigEndian 2 ((([1, 2, 3] : Bytes).map UInt8.toNat).sum % 65536) = [0, 6] := by decide
  obtain ⟨cipherKey, lockedKey, plainKey, hderived, hlocked, hplain, hunlock⟩ :=
    unlock_protected Primitives.fixedSizes_standard hbody hprotection
      (show ([1, 2, 3] : Bytes) ≠ [] by decide)
      (show (List.replicate 16 (0 : UInt8)).length = 16 from rfl) "secret" false
  have hcheck : Protection.checkOf .standard true [1, 2, 3] = HashAlgorithm.sha1.hash [1, 2, 3] :=
    if_pos rfl
  rw [hsum] at hplain
  simp only [Protection.hasDigest, hcheck, if_true] at hlocked
  exact ⟨cipherKey, lockedKey, plainKey, hderived, hlocked, hplain, hunlock⟩

end SecretKey

end ArtifactSigning
