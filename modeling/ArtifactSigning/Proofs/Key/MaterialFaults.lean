import ArtifactSigning.Proofs.Key.Primitives
import ArtifactSigning.Proofs.Key.RingStructure
import ArtifactSigning.Proofs.Packet.Outcomes

/-!
# What key material is refused for

Key material of any octets is read to an end: it gives rings, or it is refused as malformed or as of
a kind that is not handled. The nested readers are taken one by one, each by the steps that it is
made of. A public part takes a bounded number of octets, so its length always fits into the field
in front of it when the fingerprint of the key is made.
-/
namespace ArtifactSigning

open Reading Step

theorem Reading.FailsIn.material {α : Type} {step : Reading α}
    (h : FailsIn Failure.IsFormatFault step) : FailsIn Failure.IsMaterialFault step :=
  h.weaken fun _ hfault => hfault.isMaterialFault

section Armored

theorem Armor.decodeBlock_fault {lines : List (List Char)} {expected : Option (List Char)}
    {failure : Failure} (h : decodeBlock lines expected = .error failure) :
    failure.IsFormatFault := by
  rw [decodeBlock] at h
  split at h
  · cases h
    exact .format _
  · split at h
    · cases h
    · split at h
      · cases h
        exact .format _
      · split at h
        · cases h
        · cases h
          exact .format _

theorem Armor.readLine_fault {progress : Progress} {line : List Char} {failure : Failure}
    (h : readLine progress line = .error failure) : failure.IsFormatFault := by
  rw [readLine] at h
  split at h
  · cases h
  · split at h
    · cases hblock : decodeBlock [] none with
      | ok payload =>
          rw [hblock] at h
          cases h
      | error fault =>
          rw [hblock] at h
          cases h
          exact decodeBlock_fault hblock
    · cases h
  · split at h
    · rename_i lines checksum _ _
      cases hblock : decodeBlock lines checksum with
      | ok payload =>
          rw [hblock] at h
          cases h
      | error fault =>
          rw [hblock] at h
          cases h
          exact decodeBlock_fault hblock
    · cases h

theorem Armor.readLines_fault {lines : List (List Char)} {progress : Progress}
    {failure : Failure} (h : lines.foldlM readLine progress = .error failure) :
    failure.IsFormatFault := by
  induction lines generalizing progress with
  | nil => cases h
  | cons line lines ih =>
      rw [List.foldlM_cons] at h
      rcases except_bind_eq_error.1 h with hline | ⟨next, -, hlines⟩
      · exact readLine_fault hline
      · exact ih hlines

/-- A document that holds no armored octets is refused as malformed. -/
theorem Armor.decode_fault {document : List Char} {failure : Failure}
    (h : decode document = .error failure) : failure.IsFormatFault := by
  rcases except_bind_eq_error.1 h with hlines | ⟨progress, -, hend⟩
  · exact readLines_fault hlines
  · split at hend
    · cases hend
      exact .format _
    · cases hend
    · cases hend
      exact .format _

end Armored

section Packets

/-- The reading of packets stops before the end only at malformed data. -/
theorem Packet.scan_fault {octets : Bytes} {failure : Failure}
    (h : (scan octets).failure? = some failure) : failure.IsFormatFault := by
  suffices hfrom : ∀ size (bytes : Bytes), (scanFrom size bytes).failure? = some failure →
      failure.IsFormatFault from hfrom _ _ h
  intro size bytes
  fun_induction scanFrom size bytes with
  | case1 => intro hnone; cases hnone
  | case2 =>
      intro hheader
      cases hheader
      exact .format _
  | case3 =>
      intro htruncated
      cases htruncated
      exact .format _
  | case4 header rest hold packet after hframe scan ih => exact ih

end Packets

section Signatures

theorem Subpacket.readAll_fault {area : Bytes} {failure : Failure}
    (h : readAll area = .error failure) : failure.IsFormatFault := by
  fun_induction readAll area with
  | case1 => cases h
  | case2 =>
      cases h
      exact .format _
  | case3 =>
      cases h
      exact .format _
  | case4 =>
      cases h
      exact .format _
  | case5 area harea length rest hlength hpositive kindOctet value after hcut ih =>
      cases hrest : readAll after with
      | ok subpackets =>
          rw [hrest] at h
          cases h
      | error fault =>
          rw [hrest] at h
          cases h
          exact ih hrest
  | case6 area harea length rest hlength hpositive after hcut =>
      -- A subpacket of at least one octet has a first one.
      rw [Packet.cut_eq] at hcut
      split at hcut
      · rename_i hle
        obtain ⟨hnil, -⟩ := Prod.mk.inj (Option.some.inj hcut)
        have hcount := congrArg List.length hnil
        rw [List.length_take, Nat.min_eq_left hle] at hcount
        exact absurd hcount hpositive
      · cases hcut

namespace SelfSignature

theorem failsIn_readArea : FailsIn Failure.IsFormatFault readArea := by
  refine (failsIn_number 2).bind fun length => (failsIn_take length).bind fun area => ?_
  split
  · exact failsIn_pure _
  · rename_i hrefused
    exact failsIn_throw (Subpacket.readAll_fault hrefused)

theorem failsIn_read : FailsIn Failure.IsFormatFault read := by
  refine failsIn_octet.bind fun version => ?_
  split
  · refine (failsIn_number 1).bind fun kind => (failsIn_take 2).bind fun _ => ?_
    exact failsIn_readArea.bind fun _ => failsIn_readArea.bind fun _ => failsIn_pure _
  · exact failsIn_pure _

/-- The properties have the widths of their fields. -/
structure FitsFields (s : SelfSignature) : Prop where
  created : ∀ time ∈ s.created?, time < 2 ^ 32
  keyExpiration : ∀ time ∈ s.keyExpiration?, time < 2 ^ 32
  issuerFingerprint : ∀ issuer ∈ s.issuerFingerprint?, issuer.length = 20
  issuerKeyId : ∀ issuer ∈ s.issuerKeyId?, issuer.length = 8

theorem FitsFields.readIssuerKeyId {s : SelfSignature} (h : s.FitsFields) (p : Subpacket) :
    (s.readIssuerKeyId p).FitsFields := by
  rw [SelfSignature.readIssuerKeyId]
  split
  · rename_i hkeyId
    exact { h with issuerKeyId := by simpa using hkeyId.2 }
  · exact h

theorem FitsFields.readHashed {s : SelfSignature} (h : s.FitsFields) (p : Subpacket) :
    (s.readHashed p).FitsFields := by
  have htime (hlength : p.value.length = 4) : ofBigEndian p.value < 2 ^ 32 := by
    have hlt := ofBigEndian_lt p.value
    rwa [hlength] at hlt
  rw [SelfSignature.readHashed]
  split
  · rename_i hcreated
    exact { h with created := by simpa using htime hcreated.2 }
  · split
    · rename_i hexpiration
      exact { h with keyExpiration := by simpa using htime hexpiration.2 }
    · split
      · rename_i hissuer
        refine { h with issuerFingerprint := ?_ }
        simp only [Option.mem_def, Option.some.injEq, forall_eq', List.length_drop]
        omega
      · exact h.readIssuerKeyId p

/-- Whatever the areas of a signature hold, a property is taken over only at its own width. -/
theorem fitsFields_ofAreas (kind : Nat) (hashed unhashed : List Subpacket) :
    (ofAreas kind hashed unhashed).FitsFields := by
  have hempty : FitsFields ⟨kind, none, none, none, none⟩ := by
    constructor <;> exact fun _ hmem => nomatch hmem
  have hhashed : (hashed.foldl readHashed ⟨kind, none, none, none, none⟩).FitsFields := by
    generalize (⟨kind, none, none, none, none⟩ : SelfSignature) = s at hempty
    induction hashed generalizing s with
    | nil => exact hempty
    | cons p hashed ih => exact ih _ (hempty.readHashed p)
  rw [ofAreas]
  generalize hashed.foldl readHashed ⟨kind, none, none, none, none⟩ = s at hhashed
  induction unhashed generalizing s with
  | nil => exact hhashed
  | cons p unhashed ih => exact ih _ (hhashed.readIssuerKeyId p)

theorem fitsFields_of_ofBody {body : Bytes} {s : SelfSignature}
    (h : ofBody body = .ok (some s)) : s.FitsFields := by
  obtain ⟨_, h⟩ := onBytes_eq_ok.1 h
  obtain ⟨version, _, -, h⟩ := bind_eq_ok.1 h
  by_cases hversion : version = 4
  · rw [if_pos hversion] at h
    obtain ⟨kind, _, -, h⟩ := bind_eq_ok.1 h
    obtain ⟨_, _, -, h⟩ := bind_eq_ok.1 h
    obtain ⟨hashed, _, -, h⟩ := bind_eq_ok.1 h
    obtain ⟨unhashed, _, -, h⟩ := bind_eq_ok.1 h
    obtain ⟨hs, -⟩ := pure_eq_ok.1 h
    cases hs
    exact fitsFields_ofAreas kind hashed unhashed
  · rw [if_neg hversion] at h
    cases (pure_eq_ok.1 h).1

end SelfSignature

end Signatures

section Keys

theorem StringToKey.failsIn_read : FailsIn Failure.IsMaterialFault read := by
  refine failsIn_octet.material.bind fun kind => ?_
  split
  · exact (failsIn_number 1).material.bind fun _ => failsIn_pure _
  · exact (failsIn_number 1).material.bind fun _ => (failsIn_take 8).material.bind fun _ =>
      failsIn_pure _
  · exact (failsIn_number 1).material.bind fun _ => (failsIn_take 8).material.bind fun _ =>
      (failsIn_number 1).material.bind fun _ => failsIn_pure _
  · refine (failsIn_number 1).material.bind fun _ => (failsIn_take 3).material.bind fun mark => ?_
    split
    · exact (failsIn_number 1).material.bind fun _ => failsIn_pure _
    · exact failsIn_throw (.unsupported _)
  · exact failsIn_throw (.unsupported _)

theorem Protection.failsIn_read : FailsIn Failure.IsMaterialFault read := by
  refine (failsIn_number 1).material.bind fun usage => ?_
  split
  · exact failsIn_pure _
  · exact failsIn_throw (.unsupported _)
  · exact (failsIn_number 1).material.bind fun _ => StringToKey.failsIn_read.bind fun _ =>
      failsIn_pure _
  · exact (failsIn_number 1).material.bind fun _ => StringToKey.failsIn_read.bind fun _ =>
      failsIn_pure _
  · exact failsIn_pure _

theorem Protection.failsIn_readInitialVector (p : Protection) :
    FailsIn Failure.IsMaterialFault p.readInitialVector := by
  rw [readInitialVector]
  split
  · split
    · exact (failsIn_take _).material
    · exact failsIn_throw (.unsupported _)
  · exact failsIn_pure _

namespace PublicPart

theorem failsIn_readShort : FailsIn Failure.IsFormatFault readShort :=
  (failsIn_number 1).bind fun length => failsIn_take length

theorem failsIn_read (algorithm : KeyAlgorithm) :
    FailsIn Failure.IsFormatFault (read algorithm) := by
  cases algorithm with
  | rsa | rsaEncryptOnly | rsaSignOnly =>
      exact failsIn_integer.bind fun _ => failsIn_integer.bind fun _ => failsIn_pure _
  | dsa =>
      exact failsIn_integer.bind fun _ => failsIn_integer.bind fun _ =>
        failsIn_integer.bind fun _ => failsIn_integer.bind fun _ => failsIn_pure _
  | elgamalEncrypt | elgamalGeneral =>
      exact failsIn_integer.bind fun _ => failsIn_integer.bind fun _ =>
        failsIn_integer.bind fun _ => failsIn_pure _
  | ecdsa | eddsaLegacy =>
      exact failsIn_readShort.bind fun _ => failsIn_integerOctets.bind fun _ => failsIn_pure _
  | ecdh =>
      exact failsIn_readShort.bind fun _ => failsIn_integerOctets.bind fun _ =>
        failsIn_readShort.bind fun _ => failsIn_pure _
  | x25519 | ed25519 | x448 | ed448 => exact (failsIn_take _).bind fun _ => failsIn_pure _

theorem takesAtMost_readShort : TakesAtMost 256 readShort := by
  intro c octets d hrun
  obtain ⟨length, e, hlength, htake⟩ := bind_eq_ok.1 hrun
  have hlt := number_lt hlength
  have hfirst := takesAtMost_number 1 hlength
  have hsecond := takesAtMost_take _ htake
  omega

/-- No algorithm has more than four integers in its public part, or anything longer. -/
theorem takesAtMost_read (algorithm : KeyAlgorithm) :
    TakesAtMost (4 * integerBound) (read algorithm) := by
  cases algorithm with
  | rsa | rsaEncryptOnly | rsaSignOnly =>
      refine TakesAtMost.weaken ?_ (show integerBound + (integerBound + 0) ≤ _ by decide)
      exact takesAtMost_integer.bind fun _ => takesAtMost_integer.bind fun _ =>
        takesAtMost_pure _
  | dsa =>
      refine TakesAtMost.weaken ?_ (show integerBound + (integerBound +
        (integerBound + (integerBound + 0))) ≤ _ by decide)
      exact takesAtMost_integer.bind fun _ => takesAtMost_integer.bind fun _ =>
        takesAtMost_integer.bind fun _ => takesAtMost_integer.bind fun _ => takesAtMost_pure _
  | elgamalEncrypt | elgamalGeneral =>
      refine TakesAtMost.weaken ?_
        (show integerBound + (integerBound + (integerBound + 0)) ≤ _ by decide)
      exact takesAtMost_integer.bind fun _ => takesAtMost_integer.bind fun _ =>
        takesAtMost_integer.bind fun _ => takesAtMost_pure _
  | ecdsa | eddsaLegacy =>
      refine TakesAtMost.weaken ?_ (show 256 + (integerBound + 0) ≤ _ by decide)
      exact takesAtMost_readShort.bind fun _ => takesAtMost_integerOctets.bind fun _ =>
        takesAtMost_pure _
  | ecdh =>
      refine TakesAtMost.weaken ?_ (show 256 + (integerBound + (256 + 0)) ≤ _ by decide)
      exact takesAtMost_readShort.bind fun _ => takesAtMost_integerOctets.bind fun _ =>
        takesAtMost_readShort.bind fun _ => takesAtMost_pure _
  | x25519 | ed25519 | x448 | ed448 =>
      refine TakesAtMost.weaken ((takesAtMost_take _).bind fun _ => takesAtMost_pure _) ?_
      decide

end PublicPart

namespace SecretKey

theorem failsIn_readVersion : FailsIn Failure.IsMaterialFault readVersion := by
  refine (failsIn_number 1).material.bind fun version => ?_
  split
  · exact failsIn_throw (.unsupported _)
  · exact failsIn_pure _

theorem failsIn_readAlgorithm : FailsIn Failure.IsMaterialFault readAlgorithm := by
  refine (failsIn_number 1).material.bind fun id => ?_
  split
  · exact failsIn_pure _
  · exact failsIn_throw (.unsupported _)

theorem failsIn_read (body : Bytes) (isSubkey : Bool) :
    FailsIn Failure.IsMaterialFault (read body isSubkey) := by
  refine failsIn_readVersion.bind fun _ => (failsIn_number 4).material.bind fun _ => ?_
  refine failsIn_readAlgorithm.bind fun algorithm => ?_
  refine (PublicPart.failsIn_read algorithm).material.bind fun _ => ?_
  refine failsIn_offset.bind fun _ => Protection.failsIn_read.bind fun protection => ?_
  refine (protection.failsIn_readInitialVector).bind fun _ => ?_
  exact failsIn_remaining.bind fun _ => failsIn_pure _

theorem takesAtMost_readVersion : TakesAtMost (1 + 0) readVersion := by
  refine (takesAtMost_number 1).bind fun version => ?_
  split
  · exact takesAtMost_throw _ 0
  · exact takesAtMost_pure _

theorem takesAtMost_readAlgorithm : TakesAtMost (1 + 0) readAlgorithm := by
  refine (takesAtMost_number 1).bind fun id => ?_
  split
  · exact takesAtMost_pure _
  · exact takesAtMost_throw _ 0

/-- The public part of a key is short enough for a length of two octets. -/
theorem length_publicBody_lt {body : Bytes} {isSubkey : Bool} {key : SecretKey}
    (h : ofBody body isSubkey = .ok key) : key.publicBody.length < 65536 := by
  obtain ⟨_, h⟩ := onBytes_eq_ok.1 h
  obtain ⟨_, afterVersion, hversion, h⟩ := bind_eq_ok.1 h
  obtain ⟨created, afterCreated, hcreated, h⟩ := bind_eq_ok.1 h
  obtain ⟨algorithm, afterAlgorithm, halgorithm, h⟩ := bind_eq_ok.1 h
  obtain ⟨part, afterPart, hpart, h⟩ := bind_eq_ok.1 h
  obtain ⟨offset, _, hoffset, h⟩ := bind_eq_ok.1 h
  cases hoffset
  obtain ⟨protection, _, -, h⟩ := bind_eq_ok.1 h
  obtain ⟨initialVector, _, -, h⟩ := bind_eq_ok.1 h
  obtain ⟨secretData, _, -, h⟩ := bind_eq_ok.1 h
  obtain ⟨rfl, -⟩ := pure_eq_ok.1 h
  have h₁ := takesAtMost_readVersion hversion
  have h₂ := takesAtMost_number 4 hcreated
  have h₃ := takesAtMost_readAlgorithm halgorithm
  have h₄ := PublicPart.takesAtMost_read algorithm hpart
  have hbound : integerBound = 8194 := by decide
  have hstart : (Cursor.start body).offset = 0 := rfl
  change (body.take afterPart.offset).length < 65536
  rw [List.length_take]
  omega

/-- The length of the public part fits the two octets in front of it, so the fingerprint is a digest
of the public part as it stands; the key id is the end of the fingerprint. -/
structure IsIdentified (key : SecretKey) : Prop where
  publicBody : key.publicBody.length < 65536
  lengthField : ofBigEndian (bigEndian 2 key.publicBody.length) = key.publicBody.length
  fingerprint : key.fingerprint.length = 20
  keyId : key.keyId.length = 8
  suffix : key.keyId <:+ key.fingerprint

theorem isIdentified_of_lt {key : SecretKey} (h : key.publicBody.length < 65536) :
    key.IsIdentified := by
  have hlength : ofBigEndian (bigEndian 2 key.publicBody.length) = key.publicBody.length := by
    rw [ofBigEndian_bigEndian]
    exact Nat.mod_eq_of_lt h
  refine ⟨h, hlength, key.length_fingerprint, ?_, List.drop_suffix _ _⟩
  rw [keyId, List.length_drop, length_fingerprint]

end SecretKey

end Keys

namespace KeyRing

theorem Growing.add_fault {ring : Growing} {packet : Packet} {failure : Failure}
    (h : ring.add packet = .error failure) : failure.IsMaterialFault := by
  rw [add] at h
  split at h
  · rcases except_bind_eq_error.1 h with hkey | ⟨_, -, hnever⟩
    · exact (SecretKey.failsIn_read _ _).onBytes hkey
    · cases hnever
  · split at h
    · cases h
    · split at h
      · cases h
      · split at h
        · rcases except_bind_eq_error.1 h with hsignature | ⟨s?, -, hnever⟩
          · exact (SelfSignature.failsIn_read.onBytes hsignature).isMaterialFault
          · cases s? with
            | none => cases hnever
            | some s =>
                simp only at hnever
                split at hnever <;> cases hnever
        · cases h

theorem Assembly.step_fault {assembly : Assembly} {packet : Packet} {failure : Failure}
    (h : assembly.step packet = .error failure) : failure.IsMaterialFault := by
  rw [step] at h
  split at h
  · rcases except_bind_eq_error.1 h with hkey | ⟨_, -, hnever⟩
    · exact (SecretKey.failsIn_read _ _).onBytes hkey
    · cases hnever
  · split at h
    · cases h
      exact .format _
    · split at h
      · split at h
        · cases h
        · cases h
          exact .format _
      · rcases except_bind_eq_error.1 h with hadd | ⟨_, -, hnever⟩
        · exact Growing.add_fault hadd
        · cases hnever

theorem Assembly.run_fault {packets : List Packet} {assembly : Assembly} {failure : Failure}
    (h : packets.foldlM step assembly = .error failure) : failure.IsMaterialFault := by
  induction packets generalizing assembly with
  | nil => cases h
  | cons packet packets ih =>
      rw [List.foldlM_cons] at h
      rcases except_bind_eq_error.1 h with hstep | ⟨next, -, hrun⟩
      · exact step_fault hstep
      · exact ih hrun

theorem ofMaterial_fault {material : Bytes} {failure : Failure}
    (h : ofMaterial material = .error failure) : failure.IsMaterialFault := by
  rcases except_bind_eq_error.1 h with hbinary | ⟨octets, -, h⟩
  · rw [binary] at hbinary
    split at hbinary
    · exact (Armor.decode_fault hbinary).isMaterialFault
    · cases hbinary
  · rcases except_bind_eq_error.1 h with hrun | ⟨assembly, -, hend⟩
    · exact Assembly.run_fault hrun
    · split at hend
      · rename_i hscan
        cases hend
        exact (Packet.scan_fault hscan).isMaterialFault
      · cases hend
        exact .format _
      · cases hend

theorem ne_nil_of_ofMaterial {material : Bytes} {rings : List KeyRing}
    (h : ofMaterial material = .ok rings) : rings ≠ [] := by
  obtain ⟨octets, -, h⟩ := except_bind_eq_ok.1 h
  obtain ⟨assembly, -, h⟩ := except_bind_eq_ok.1 h
  split at h
  · cases h
  · cases h
  · rename_i hsome
    rw [← Except.ok.inj h]
    exact hsome

theorem exists_of_forall₂ {α β : Type} {r : α → β → Prop} {xs : List α} {ys : List β} {y : β}
    (h : List.Forall₂ r xs ys) (hy : y ∈ ys) : ∃ x, r x y := by
  induction h with
  | nil => cases hy
  | cons hr _ ih =>
      rcases List.mem_cons.1 hy with rfl | hy
      · exact ⟨_, hr⟩
      · exact ih hy

/-- Every key of a ring comes from the body of a packet, which is where its public part is read. -/
theorem length_publicBody_of_ofMaterial {material : Bytes} {rings : List KeyRing} {ring : KeyRing}
    {key : SecretKey} (h : ofMaterial material = .ok rings) (hring : ring ∈ rings)
    (hkey : key ∈ ring.keys) : key.publicBody.length < 65536 := by
  obtain ⟨octets, -, h⟩ := except_bind_eq_ok.1 h
  obtain ⟨assembly, hfold, -, -, rfl⟩ := ofScan_eq_ok_iff.1 h
  obtain ⟨opening, hat⟩ := exists_of_forall₂ (Tracks.empty.run hfold).described.rings hring
  obtain ⟨place, hplace⟩ : ∃ place, KeyAt ([] ++ (Packet.scan octets).packets) ring.primary
      place key := by
    rcases List.mem_cons.1 hkey with rfl | hsubkey
    · exact ⟨opening, hat.primary⟩
    · exact exists_of_forall₂ hat.subkeys hsubkey
  obtain ⟨packet, -, hread, -⟩ := hplace.read
  have hbare : (bare key).publicBody.length < 65536 := SecretKey.length_publicBody_lt hread
  exact hbare

/-- Key material of any octets gives at least one ring of identified keys, or it is refused as
malformed or as of a kind that is not handled. The readers that it goes through refuse nothing for
another reason on their own, and the times and issuers in a self-signature have the widths of their
fields. -/
theorem material_outcomes :
    (∀ material : Bytes,
      (∃ rings, ofMaterial material = .ok rings ∧ rings ≠ [] ∧
        ∀ ring ∈ rings, ring.keys ≠ [] ∧ ∀ key ∈ ring.keys, key.IsIdentified) ∨
      ∃ failure, ofMaterial material = .error failure ∧ failure.IsMaterialFault) ∧
    (∀ document failure, Armor.decode document = .error failure → failure.IsFormatFault) ∧
    (∀ document failure, Armor.decodeBytes document = .error failure → failure.IsFormatFault) ∧
    (∀ octets failure, (Packet.scan octets).failure? = some failure → failure.IsFormatFault) ∧
    (∀ body isSubkey failure, SecretKey.ofBody body isSubkey = .error failure →
      failure.IsMaterialFault) ∧
    (∀ c failure d, StringToKey.read c = .error failure d → failure.IsMaterialFault) ∧
    (∀ body failure, SelfSignature.ofBody body = .error failure → failure.IsFormatFault) ∧
    (∀ body s, SelfSignature.ofBody body = .ok (some s) → s.FitsFields) := by
  refine ⟨fun material => ?_, fun _ _ h => Armor.decode_fault h,
    fun _ _ h => Armor.decode_fault h, fun _ _ h => Packet.scan_fault h,
    fun _ _ _ h => (SecretKey.failsIn_read _ _).onBytes h,
    fun _ _ _ h => StringToKey.failsIn_read h,
    fun _ _ h => SelfSignature.failsIn_read.onBytes h,
    fun _ _ h => SelfSignature.fitsFields_of_ofBody h⟩
  cases h : ofMaterial material with
  | error failure => exact .inr ⟨failure, rfl, ofMaterial_fault h⟩
  | ok rings =>
      refine .inl ⟨rings, rfl, ne_nil_of_ofMaterial h, fun ring hring => ?_⟩
      refine ⟨List.cons_ne_nil _ _, fun key hkey => ?_⟩
      exact SecretKey.isIdentified_of_lt (length_publicBody_of_ofMaterial h hring hkey)

end KeyRing

end ArtifactSigning
