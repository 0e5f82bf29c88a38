import ArtifactSigning.Proofs.Key.Derivation
import ArtifactSigning.Proofs.Key.SecretKeyParts
import ArtifactSigning.Proofs.Packet.Outcomes
import ArtifactSigning.Proofs.Signature.Fields
import ArtifactSigning.Proofs.Text.Raw

/-!
# How unlocking ends

A key that has been read from a packet is unlocked, or it is refused for one of four reasons: a
credential is missing, something is not supported, the decrypted part is not right, or the secret
part is malformed. The only other failure is that of a passphrase without octets, where the key of a
cipher is to be derived from them. The three tables of cipher numbers agree: where a cipher is
implemented, its block size is the one by which the initial vector was cut, and a derived key has
the size that the cipher takes. So the block function never meets a key or an initial vector of
another size.
-/
namespace ArtifactSigning

open Reading Step

/-- What a secret part that is there, with its passphrase where it needs one, is refused for. -/
inductive Failure.IsSecretFault : Failure → Prop
  | format (cause : FormatFault) : IsSecretFault (.format cause)
  | unsupported (cause : UnsupportedFault) : IsSecretFault (.unsupported cause)
  | decryption (cause : DecryptionFault) : IsSecretFault (.decryption cause)

/-- What unlocking is refused for. -/
inductive Failure.IsUnlockFault : Failure → Prop
  | credential (cause : CredentialFault) : IsUnlockFault (.credential cause)
  | secret {failure : Failure} (h : failure.IsSecretFault) : IsUnlockFault failure

theorem Failure.IsFormatFault.isSecretFault {failure : Failure} (h : failure.IsFormatFault) :
    failure.IsSecretFault := by
  obtain ⟨cause⟩ := h
  exact .format cause

namespace StringToKey

variable {primitives : Primitives} {specifier : StringToKey} {passphrase cipherKey : Bytes}
  {size : Nat} {failure : Failure}

/-- A specifier that says how a passphrase is hashed derives a key, and every other one is refused
as not supported. -/
theorem deriveKeyWith_cases (primitives : Primitives) (specifier : StringToKey)
    (passphrase : Bytes) (hsize : size ≠ 0) :
    (∃ hash fed, HashAlgorithm.ofId specifier.hash = .ok hash ∧
      specifier.fed? passphrase = some fed) ∨
      ∃ cause,
        specifier.deriveKeyWith primitives passphrase size = .error (.unsupported cause) := by
  cases hhash : HashAlgorithm.ofId specifier.hash with
  | error failure =>
      refine .inr ?_
      rw [deriveKeyWith, if_neg hsize, hhash]
      rw [HashAlgorithm.ofId] at hhash
      split at hhash
      · cases hhash
      · cases hhash
        exact ⟨_, rfl⟩
  | ok hash =>
      cases hfed : specifier.fed? passphrase with
      | some fed => exact .inl ⟨hash, fed, rfl, rfl⟩
      | none =>
          -- At least one digest is needed, and the first one is refused.
          have hcount : digestCount hash size ≠ 0 := by
            intro hzero
            have hle := le_digestCount hash size
            rw [hzero] at hle
            omega
          obtain ⟨count, hcount⟩ := Nat.exists_eq_succ_of_ne_zero hcount
          have hfirst : ∃ cause, specifier.digestBehind primitives hash passphrase 0 =
              .error (.unsupported cause) := by
            cases specifier with
            | simple | salted | iterated => cases hfed
            | placeholder | reserved => exact ⟨_, rfl⟩
          obtain ⟨cause, hfirst⟩ := hfirst
          refine .inr ⟨cause, ?_⟩
          rw [deriveKeyWith, if_neg hsize, hhash]
          change (do
            let digests ← (List.range (digestCount hash size)).mapM
              (specifier.digestBehind primitives hash passphrase)
            return digests.flatten.take size : Except Failure Bytes) = _
          rw [hcount, List.range_succ_eq_map, List.mapM_cons, hfirst]
          rfl

/-- A derived key has the size that is asked for. -/
theorem length_of_deriveKeyWith (hsizes : primitives.FixedSizes) (hsize : size ≠ 0)
    (h : specifier.deriveKeyWith primitives passphrase size = .ok cipherKey) :
    cipherKey.length = size := by
  rcases deriveKeyWith_cases primitives specifier passphrase hsize with
    ⟨hash, fed, hhash, hfed⟩ | ⟨cause, hrefused⟩
  · obtain ⟨found, hfound, hlength⟩ := exists_deriveKeyWith hsizes hhash hfed size
    rw [h] at hfound
    cases hfound
    exact hlength
  · rw [h] at hrefused
    cases hrefused

theorem deriveKeyWith_fault (hsize : size ≠ 0)
    (h : specifier.deriveKeyWith primitives passphrase size = .error failure) :
    failure.IsSecretFault := by
  rcases deriveKeyWith_cases primitives specifier passphrase hsize with
    ⟨hash, fed, hhash, hfed⟩ | ⟨cause, hrefused⟩
  · rw [deriveKeyWith_eq hhash hfed] at h
    cases h
  · rw [h] at hrefused
    cases hrefused
    exact .unsupported cause

end StringToKey

namespace PrivateNumbers

theorem failsIn_checked {α : Type} (value : α) (passes : Bool) :
    FailsIn Failure.IsSecretFault (checked value passes) := by
  rw [checked]
  split
  · exact failsIn_pure _
  · exact failsIn_throw (.decryption _)

theorem failsIn_secretInteger : FailsIn Failure.IsSecretFault integer :=
  failsIn_integer.weaken fun _ h => h.isSecretFault

theorem failsIn_secretTake (count : Nat) : FailsIn Failure.IsSecretFault (take count) :=
  (failsIn_take count).weaken fun _ h => h.isSecretFault

theorem failsIn_read (algorithm : KeyAlgorithm) (part : PublicPart) :
    FailsIn Failure.IsSecretFault (PrivateNumbers.read algorithm part) := by
  unfold PrivateNumbers.read
  split
  · exact failsIn_secretInteger.bind fun _ => failsIn_secretInteger.bind fun _ =>
      failsIn_secretInteger.bind fun _ => failsIn_checked _ _
  · exact failsIn_secretInteger.bind fun _ => failsIn_secretInteger.bind fun _ =>
      failsIn_secretInteger.bind fun _ => failsIn_checked _ _
  · exact failsIn_secretInteger.bind fun _ => failsIn_secretInteger.bind fun _ =>
      failsIn_secretInteger.bind fun _ => failsIn_checked _ _
  · exact failsIn_secretInteger.bind fun _ => failsIn_checked _ _
  · split
    · exact failsIn_throw (.unsupported _)
    · exact failsIn_secretInteger.bind fun _ => failsIn_checked _ _
  · split
    · exact (failsIn_integerOctets.weaken fun _ h => h.isSecretFault).bind fun _ =>
        failsIn_checked _ _
    · exact failsIn_throw (.unsupported _)
  · exact (failsIn_secretTake 32).bind fun _ => failsIn_pure _
  · exact (failsIn_secretTake 57).bind fun _ => failsIn_pure _
  · exact failsIn_pure _

end PrivateNumbers

theorem Cipher.keySize_ne_zero {id : Nat} {cipher : Cipher} (h : ofId? id = some cipher) :
    cipher.keySize ≠ 0 := by
  unfold ofId? at h
  split at h <;> cases h <;> decide

namespace SecretKey

variable {primitives : Primitives} {key : SecretKey} {body : Bytes} {specifier : StringToKey}
  {cipher : Cipher} {passphrase : RawText} {passphrase? : Option RawText} {fault : EncodingFault}
  {failure : Failure}

/-- The passphrase is missing, or there is nothing to unlock. -/
def LacksCredential (key : SecretKey) (passphrase? : Option RawText) : Prop :=
  key.protection.isStub = true ∨ key.secretData = [] ∨
    (key.isEncrypted = true ∧ passphrase? = none)

/-- A cipher would be keyed by a passphrase that has no octets because of the fault. -/
def MeetsFault (key : SecretKey) (passphrase? : Option RawText) (fault : EncodingFault) : Prop :=
  key.hasPrivatePart = true ∧ key.isEncrypted = true ∧
    (∃ cipher, Cipher.ofId? key.protection.cipher = some cipher) ∧
    ∃ passphrase, passphrase? = some passphrase ∧ passphrase.characters = .error fault

theorem hasPrivatePart_eq_true :
    key.hasPrivatePart = true ↔ key.protection.isStub = false ∧ key.secretData ≠ [] := by
  simp [hasPrivatePart]

/-- Where something is encrypted, there is a specifier. -/
theorem exists_specifier (h : key.isEncrypted = true) :
    ∃ specifier, key.protection.specifier? = some specifier := by
  rw [isEncrypted] at h
  cases hprotection : key.protection with
  | unprotected =>
      rw [hprotection] at h
      cases h
  | specified _ _ specifier => exact ⟨specifier, rfl⟩
  | legacy => exact ⟨_, rfl⟩

/-- Key and initial vector have the sizes that the cipher takes. -/
theorem sizes_of_isCutFrom (hsizes : primitives.FixedSizes) (hcut : key.IsCutFrom body)
    (hencrypted : key.isEncrypted = true) (hstub : key.protection.isStub = false)
    (hcipher : Cipher.ofId? key.protection.cipher = some cipher) {passphrase cipherKey : Bytes}
    (hderived : specifier.deriveKeyWith primitives passphrase cipher.keySize = .ok cipherKey) :
    cipher.family.acceptsKeySize cipherKey.length = true ∧ cipherKey.length = cipher.keySize ∧
      key.initialVector.length = cipher.family.blockSize := by
  have hlength :=
    StringToKey.length_of_deriveKeyWith hsizes (Cipher.keySize_ne_zero hcipher) hderived
  have hvector := hcut.initialVector
  rw [Protection.FitsVector, if_pos ⟨hencrypted, by simp [hstub]⟩, Cipher.blockSizeOf?,
    hcipher] at hvector
  exact ⟨Cipher.acceptsKeySize hcipher hlength, hlength, (Option.some.inj hvector).symm⟩

theorem mapError_encode_eq_error_iff :
    passphrase.encode.mapError Failure.unencodable = .error failure ↔ ∃ fault,
      passphrase.characters = .error fault ∧ failure = .unencodable fault := by
  rw [RawText.encode]
  cases passphrase.characters with
  | ok chars => exact iff_of_false (by rintro ⟨⟩) (by rintro ⟨_, ⟨⟩, -⟩)
  | error fault =>
      refine ⟨fun h => ⟨fault, rfl, (Except.error.inj h).symm⟩, ?_⟩
      rintro ⟨fault', hfault, rfl⟩
      rw [Except.error.inj hfault]
      rfl

/-- Decryption meets the passphrase as soon as the cipher is known. -/
theorem decrypt_of_fault (hcipher : Cipher.ofId? key.protection.cipher = some cipher)
    (hfault : passphrase.characters = .error fault) :
    key.decrypt primitives specifier passphrase = .error (.unencodable fault) := by
  rw [decrypt, hcipher]
  exact except_bind_eq_error.2 (.inl (mapError_encode_eq_error_iff.2 ⟨fault, hfault, rfl⟩))

theorem decrypt_fault (hsizes : primitives.FixedSizes) (hcut : key.IsCutFrom body)
    (hencrypted : key.isEncrypted = true) (hstub : key.protection.isStub = false)
    (h : key.decrypt primitives specifier passphrase = .error failure) :
    failure.IsSecretFault ∨ ∃ fault, failure = .unencodable fault ∧
      (∃ cipher, Cipher.ofId? key.protection.cipher = some cipher) ∧
      passphrase.characters = .error fault := by
  rw [decrypt] at h
  cases hcipher : Cipher.ofId? key.protection.cipher with
  | none =>
      rw [hcipher] at h
      cases h
      exact .inl (.unsupported _)
  | some cipher =>
      rw [hcipher] at h
      rcases except_bind_eq_error.1 h with hencode | ⟨octets, -, h⟩
      · obtain ⟨fault, hfault, rfl⟩ := mapError_encode_eq_error_iff.1 hencode
        exact .inr ⟨fault, rfl, ⟨cipher, rfl⟩, hfault⟩
      · refine .inl ?_
        rcases except_bind_eq_error.1 h with hrefused | ⟨cipherKey, hderived, h⟩
        · exact StringToKey.deriveKeyWith_fault (Cipher.keySize_ne_zero hcipher) hrefused
        · obtain ⟨haccepts, -, hiv⟩ :=
            sizes_of_isCutFrom hsizes hcut hencrypted hstub hcipher hderived
          rw [CipherFamily.decryptWith, if_pos ⟨haccepts, hiv⟩] at h
          cases h

theorem plainData_fault (hsizes : primitives.FixedSizes) (hcut : key.IsCutFrom body)
    (hprivate : key.hasPrivatePart = true)
    (hpassphrase : ¬(key.isEncrypted = true ∧ passphrase? = none))
    (h : key.plainData primitives passphrase? = .error failure) :
    failure.IsSecretFault ∨
      ∃ fault, failure = .unencodable fault ∧ key.MeetsFault passphrase? fault := by
  have hstub := (hasPrivatePart_eq_true.1 hprivate).1
  unfold plainData at h
  split at h
  · rename_i specifier passphrase hencrypted _
    refine (decrypt_fault hsizes hcut hencrypted hstub h).imp_right ?_
    rintro ⟨fault, hfailure, hcipher, hfault⟩
    exact ⟨fault, hfailure, hprivate, hencrypted, hcipher, passphrase, rfl, hfault⟩
  · rename_i hencrypted
    exact absurd ⟨hencrypted, rfl⟩ hpassphrase
  · cases h

theorem checkFailure_fault (key : SecretKey) : key.checkFailure.IsSecretFault := by
  rw [checkFailure]
  split
  · exact .decryption _
  · exact .format _

/-- Where no credential is missing, unlocking fails because of the secret part, or because of a
passphrase without octets. -/
theorem unlockWith_fault (hsizes : primitives.FixedSizes) (hcut : key.IsCutFrom body)
    (hcredential : ¬key.LacksCredential passphrase?)
    (h : key.unlockWith primitives passphrase? = .error failure) :
    failure.IsSecretFault ∨
      ∃ fault, failure = .unencodable fault ∧ key.MeetsFault passphrase? fault := by
  simp only [LacksCredential, not_or] at hcredential
  obtain ⟨hstub, hdata, hpassphrase⟩ := hcredential
  have hprivate := hasPrivatePart_eq_true.2 ⟨Bool.eq_false_iff.2 hstub, hdata⟩
  rw [unlockWith, if_pos hprivate] at h
  rcases except_bind_eq_error.1 h with hplain | ⟨plain, -, h⟩
  · exact plainData_fault hsizes hcut hprivate hpassphrase hplain
  · split at h
    · cases h
      exact .inl key.checkFailure_fault
    · exact .inl ((PrivateNumbers.failsIn_read _ _).map.onBytes h)

theorem unlockWith_of_meetsFault (h : key.MeetsFault passphrase? fault) :
    key.unlockWith primitives passphrase? = .error (.unencodable fault) := by
  obtain ⟨hprivate, hencrypted, ⟨cipher, hcipher⟩, passphrase, rfl, hfault⟩ := h
  obtain ⟨specifier, hspecifier⟩ := exists_specifier hencrypted
  have hplain : key.plainData primitives (some passphrase) = .error (.unencodable fault) := by
    simp only [plainData, hencrypted, hspecifier, decrypt_of_fault hcipher hfault]
  rw [unlockWith, if_pos hprivate, hplain]
  rfl

/-- Where a credential is missing, unlocking fails because of that. -/
theorem unlockWith_of_lacksCredential (h : key.LacksCredential passphrase?) :
    ∃ cause, key.unlockWith primitives passphrase? = .error (.credential cause) := by
  by_cases hprivate : key.hasPrivatePart = true
  · obtain ⟨hstub, hdata⟩ := hasPrivatePart_eq_true.1 hprivate
    obtain ⟨hencrypted, rfl⟩ := (h.resolve_left (by simp [hstub])).resolve_left hdata
    have hplain : key.plainData primitives none = .error (.credential .noPassphrase) := by
      simp [plainData, hencrypted]
    refine ⟨.noPassphrase, ?_⟩
    rw [unlockWith, if_pos hprivate, hplain]
    rfl
  · refine ⟨.noPrivateKey, ?_⟩
    rw [unlockWith, if_neg hprivate]

/-- Every failure comes of a missing credential, of the secret part or of the passphrase. -/
theorem unlockWith_eq_error (hsizes : primitives.FixedSizes) (hcut : key.IsCutFrom body)
    (h : key.unlockWith primitives passphrase? = .error failure) :
    (key.LacksCredential passphrase? ∧ ∃ cause, failure = .credential cause) ∨
      failure.IsSecretFault ∨
        ∃ fault, failure = .unencodable fault ∧ key.MeetsFault passphrase? fault := by
  by_cases hcredential : key.LacksCredential passphrase?
  · obtain ⟨cause, hcause⟩ : ∃ cause, key.unlockWith primitives passphrase? =
        .error (.credential cause) := unlockWith_of_lacksCredential hcredential
    exact .inl ⟨hcredential, cause, Except.error.inj (h.symm.trans hcause)⟩
  · exact .inr (unlockWith_fault hsizes hcut hcredential h)

/-- What is unlocked is a private key of the algorithm. -/
theorem algorithm_of_unlockWith {privateKey : PrivateKey}
    (h : key.unlockWith primitives passphrase? = .ok privateKey) :
    privateKey.algorithm = key.algorithm := by
  obtain ⟨c, d, hread⟩ := exists_read_of_unlockWith h
  obtain ⟨numbers, -, rfl⟩ := map_eq_ok.1 hread
  rfl

/-- A key from a packet is unlocked as a private key of its algorithm, or it is refused for one of
the four reasons, or else the passphrase has no octets. The last comes about exactly if a cipher
that is implemented is to be keyed by such a passphrase. A credential is missing exactly if there is
no secret part or a passphrase is needed and not given. An encrypted key always has a specifier, and
a cipher that is implemented gets a key and an initial vector of its own sizes, whatever the
passphrase. -/
theorem unlock_outcomes (hsizes : primitives.FixedSizes) {isSubkey : Bool}
    (hread : ofBody body isSubkey = .ok key) (passphrase? : Option RawText) :
    ((∃ privateKey, key.unlockWith primitives passphrase? = .ok privateKey ∧
        privateKey.algorithm = key.algorithm) ∨
      ∃ failure, key.unlockWith primitives passphrase? = .error failure ∧
        (failure.IsUnlockFault ∨ ∃ fault, failure = .unencodable fault)) ∧
      (∀ fault, key.unlockWith primitives passphrase? = .error (.unencodable fault) ↔
        key.MeetsFault passphrase? fault) ∧
      ((∃ cause, key.unlockWith primitives passphrase? = .error (.credential cause)) ↔
        key.LacksCredential passphrase?) ∧
      (key.isEncrypted = true → ∃ specifier, key.protection.specifier? = some specifier ∧
        (key.protection.isStub = false → ∀ cipher passphrase cipherKey,
          Cipher.ofId? key.protection.cipher = some cipher →
          specifier.deriveKeyWith primitives passphrase cipher.keySize = .ok cipherKey →
          cipher.family.acceptsKeySize cipherKey.length = true ∧
            cipherKey.length = cipher.keySize ∧
            key.initialVector.length = cipher.family.blockSize)) := by
  have hcut := isCutFrom_of_ofBody hread
  refine ⟨?_, fun fault => ⟨fun h => ?_, unlockWith_of_meetsFault⟩,
    ⟨?_, unlockWith_of_lacksCredential⟩, fun hencrypted => ?_⟩
  · cases h : key.unlockWith primitives passphrase? with
    | ok privateKey => exact .inl ⟨privateKey, rfl, algorithm_of_unlockWith h⟩
    | error failure =>
        refine .inr ⟨failure, rfl, ?_⟩
        rcases unlockWith_eq_error hsizes hcut h with
          ⟨-, cause, rfl⟩ | hfault | ⟨fault, hfault, -⟩
        · exact .inl (.credential cause)
        · exact .inl (.secret hfault)
        · exact .inr ⟨fault, hfault⟩
  · rcases unlockWith_eq_error hsizes hcut h with ⟨-, _, hfault⟩ | hfault | ⟨_, hfault, hmeets⟩
    · cases hfault
    · cases hfault
    · cases hfault
      exact hmeets
  · rintro ⟨cause, h⟩
    rcases unlockWith_eq_error hsizes hcut h with ⟨hcredential, -⟩ | hfault | ⟨_, hfault, -⟩
    · exact hcredential
    · cases hfault
    · cases hfault
  · obtain ⟨specifier, hspecifier⟩ := exists_specifier hencrypted
    refine ⟨specifier, hspecifier, fun hstub cipher passphrase cipherKey hcipher hderived => ?_⟩
    exact sizes_of_isCutFrom hsizes hcut hencrypted hstub hcipher hderived

/-- The body of a key under AES with an iterated specifier. -/
def lockedBody : Bytes :=
  [4, 0, 0, 0, 1, 27] ++ List.replicate 32 9 ++ [254, 7, 3, 8] ++ [1, 2, 3, 4, 5, 6, 7, 8] ++
    [96] ++ List.replicate 16 5 ++ [1, 2, 3]

/-- Such a key without a passphrase, with any passphrase of characters, and with half of one. -/
theorem unlock_outcomes_of_locked_key :
    ∃ key, ofBody lockedBody false = .ok key ∧
      (∃ cause, key.unlock none = .error (.credential cause)) ∧
      (∀ passphrase, ((∃ privateKey, key.unlock (some (.ofString passphrase)) = .ok privateKey ∧
          privateKey.algorithm = .ed25519) ∨
        ∃ failure, key.unlock (some (.ofString passphrase)) = .error failure ∧
          failure.IsUnlockFault) ∧
        ¬∃ cause, key.unlock (some (.ofString passphrase)) = .error (.credential cause)) ∧
      key.unlock (some [.half 0x4E4]) = .error (.unencodable (.single 0 0x4E4)) := by
  let key : SecretKey := {
    algorithm := .ed25519
    created := 1
    publicBody := [4, 0, 0, 0, 1, 27] ++ List.replicate 32 9
    publicPart := .point (List.replicate 32 9)
    protection := .specified true 7 (.iterated 8 [1, 2, 3, 4, 5, 6, 7, 8] 65536)
    initialVector := List.replicate 16 5
    secretData := [1, 2, 3]
    isSubkey := false
    userIds := []
    selfSignatures := [] }
  have hread : ofBody lockedBody false = .ok key := rfl
  have houtcomes := unlock_outcomes Primitives.fixedSizes_standard hread
  refine ⟨key, hread, (houtcomes none).2.2.1.2 (.inr (.inr ⟨rfl, rfl⟩)), fun passphrase => ⟨?_, ?_⟩,
    ((houtcomes _).2.1 _).2 ⟨rfl, rfl, ⟨_, rfl⟩, _, rfl, rfl⟩⟩
  · refine (houtcomes (some (.ofString passphrase))).1.imp_right ?_
    rintro ⟨failure, hfailure, hfault | ⟨fault, rfl⟩⟩
    · exact ⟨failure, hfailure, hfault⟩
    · obtain ⟨-, -, -, _, hsame, hfault⟩ := ((houtcomes _).2.1 fault).1 hfailure
      cases hsame
      rw [RawText.ofString, RawText.characters_ofChars] at hfault
      cases hfault
  · intro hcredential
    rcases (houtcomes (some (.ofString passphrase))).2.2.1.1 hcredential with
      hstub | hempty | ⟨-, hnone⟩
    · cases hstub
    · cases hempty
    · cases hnone

/-- A passphrase from an environment need not be of characters, and then none of the four reasons is
why such a key is refused. -/
theorem unlock_with_undecoded_passphrase :
    ∃ key, ofBody lockedBody false = .ok key ∧
      key.unlock (some (RawText.ofString "geheim" ++ [.half 0x4E4])) =
        .error (.unencodable (.single 6 0x4E4)) ∧
      ¬(Failure.unencodable (.single 6 0x4E4)).IsUnlockFault := by
  refine ⟨_, rfl, unlockWith_of_meetsFault ⟨rfl, rfl, ⟨_, rfl⟩, _, rfl, rfl⟩, ?_⟩
  rintro (_ | ⟨⟨⟩⟩)

end SecretKey

end ArtifactSigning
