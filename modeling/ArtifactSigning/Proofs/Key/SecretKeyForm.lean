import ArtifactSigning.Key.SecretKey
import ArtifactSigning.Proofs.Packet.Reading

/-!
# The octets of a secret key packet

The forms of the parts of a secret key packet, each as a relation between a value and its octets:
numbers and strings, the public parameters of every algorithm, the specifiers of a derivation and
the protections. Every form is read back as its value, and `ofBody_eq_ok` gives the key in a body
that is made of such parts.
-/
namespace ArtifactSigning

open Reading

/-- The form of an integer with these octets, of which the bit count needs not be the least. -/
inductive IntegerForm : Bytes → Bytes → Prop
  | mk {bits : Nat} {octets : Bytes} (hbits : bits < 256 ^ 2)
      (hoctets : octets.length = octetsFor bits) :
      IntegerForm octets (integerForm bits octets)

/-- The form of a string of octets behind its length. -/
inductive ShortForm : Bytes → Bytes → Prop
  | mk {octets : Bytes} (h : octets.length < 256) :
      ShortForm octets (UInt8.ofNat octets.length :: octets)

/-- The form of the public parameters of an algorithm. -/
inductive PublicForm : KeyAlgorithm → PublicPart → Bytes → Prop
  | rsa {algorithm : KeyAlgorithm} {n e n' e' : Bytes}
      (h : algorithm ∈ [.rsa, .rsaEncryptOnly, .rsaSignOnly])
      (hn : IntegerForm n n') (he : IntegerForm e e') :
      PublicForm algorithm (.rsa (ofBigEndian n) (ofBigEndian e)) (n' ++ e')
  | dsa {p q g y p' q' g' y' : Bytes} (hp : IntegerForm p p') (hq : IntegerForm q q')
      (hg : IntegerForm g g') (hy : IntegerForm y y') :
      PublicForm .dsa (.dsa (ofBigEndian p) (ofBigEndian q) (ofBigEndian g) (ofBigEndian y))
        (p' ++ (q' ++ (g' ++ y')))
  | elgamal {algorithm : KeyAlgorithm} {p g y p' g' y' : Bytes}
      (h : algorithm ∈ [.elgamalEncrypt, .elgamalGeneral])
      (hp : IntegerForm p p') (hg : IntegerForm g g') (hy : IntegerForm y y') :
      PublicForm algorithm (.elgamal (ofBigEndian p) (ofBigEndian g) (ofBigEndian y))
        (p' ++ (g' ++ y'))
  | curvePoint {algorithm : KeyAlgorithm} {curve point curve' point' : Bytes}
      (h : algorithm ∈ [.ecdsa, .eddsaLegacy])
      (hcurve : ShortForm curve curve') (hpoint : IntegerForm point point') :
      PublicForm algorithm (.curvePoint curve point) (curve' ++ point')
  | agreement {curve point derivation curve' point' derivation' : Bytes}
      (hcurve : ShortForm curve curve') (hpoint : IntegerForm point point')
      (hderivation : ShortForm derivation derivation') :
      PublicForm .ecdh (.agreement curve point derivation) (curve' ++ (point' ++ derivation'))
  | point {algorithm : KeyAlgorithm} {octets : Bytes}
      (h : (algorithm, octets.length) ∈
        [(.x25519, 32), (.x448, 56), (.ed25519, 32), (.ed448, 57)]) :
      PublicForm algorithm (.point octets) octets

/-- The public part of a version 4 key packet. -/
inductive PublicBody : KeyAlgorithm → Nat → PublicPart → Bytes → Prop
  | mk {algorithm : KeyAlgorithm} {created : Nat} {part : PublicPart} {form : Bytes}
      (hcreated : created < 256 ^ 4) (hpart : PublicForm algorithm part form) :
      PublicBody algorithm created part
        ([4] ++ (bigEndian 4 created ++ ([UInt8.ofNat algorithm.id] ++ form)))

/-- The form of a specifier with a rule of derivation and a known hash function. -/
inductive SpecifierForm : StringToKey → HashAlgorithm → Bytes → Prop
  | simple (hash : HashAlgorithm) :
      SpecifierForm (.simple hash.id) hash ([0] ++ [UInt8.ofNat hash.id])
  | salted (hash : HashAlgorithm) {salt : Bytes} (h : salt.length = 8) :
      SpecifierForm (.salted hash.id salt) hash ([1] ++ ([UInt8.ofNat hash.id] ++ salt))
  | iterated (hash : HashAlgorithm) {salt : Bytes} (h : salt.length = 8) (coded : UInt8) :
      SpecifierForm (.iterated hash.id salt (StringToKey.decodeCount coded.toNat)) hash
        ([3] ++ ([UInt8.ofNat hash.id] ++ (salt ++ [coded])))

/-- The form of a protection with an implemented cipher, from its usage octet to the initial
vector. -/
inductive ProtectionForm : Protection → Cipher → StringToKey → HashAlgorithm → Bytes → Prop
  | specified (withDigest : Bool) {id : Nat} {cipher : Cipher} {specifier : StringToKey}
      {hash : HashAlgorithm} {form : Bytes} (hcipher : Cipher.ofId? id = some cipher)
      (h : SpecifierForm specifier hash form) :
      ProtectionForm (.specified withDigest id specifier) cipher specifier hash
        ([if withDigest then 254 else 255] ++ ([UInt8.ofNat id] ++ form))
  | legacy {id : Nat} {cipher : Cipher} (hcipher : Cipher.ofId? id = some cipher) :
      ProtectionForm (.legacy id) cipher (.simple HashAlgorithm.md5.id) .md5 [UInt8.ofNat id]

theorem IntegerForm.reads_octets {octets form : Bytes} (h : IntegerForm octets form) :
    Reads integerOctets form octets := by
  obtain ⟨hbits, hoctets⟩ := h
  exact reads_integerOctets hbits hoctets

theorem IntegerForm.reads {octets form : Bytes} (h : IntegerForm octets form) :
    Reads integer form (ofBigEndian octets) := h.reads_octets.map

theorem ShortForm.reads {octets form : Bytes} (h : ShortForm octets form) :
    Reads PublicPart.readShort form octets := by
  obtain ⟨hlength⟩ := h
  exact (reads_smallNumber hlength).bind (reads_take octets)

/-- Public parameters are read back. -/
theorem PublicForm.reads {algorithm : KeyAlgorithm} {part : PublicPart} {form : Bytes}
    (h : PublicForm algorithm part form) : Reads (PublicPart.read algorithm) form part := by
  cases h with
  | rsa h hn he =>
      simp only [List.mem_cons, List.not_mem_nil, or_false] at h
      rcases h with rfl | rfl | rfl <;> exact hn.reads.bind he.reads.bind_pure
  | dsa hp hq hg hy =>
      exact hp.reads.bind (hq.reads.bind (hg.reads.bind hy.reads.bind_pure))
  | elgamal h hp hg hy =>
      simp only [List.mem_cons, List.not_mem_nil, or_false] at h
      rcases h with rfl | rfl <;> exact hp.reads.bind (hg.reads.bind hy.reads.bind_pure)
  | curvePoint h hcurve hpoint =>
      simp only [List.mem_cons, List.not_mem_nil, or_false] at h
      rcases h with rfl | rfl <;> exact hcurve.reads.bind hpoint.reads_octets.bind_pure
  | agreement hcurve hpoint hderivation =>
      exact hcurve.reads.bind (hpoint.reads_octets.bind hderivation.reads.bind_pure)
  | point h =>
      simp only [List.mem_cons, Prod.mk.injEq, List.not_mem_nil, or_false] at h
      rcases h with ⟨rfl, h⟩ | ⟨rfl, h⟩ | ⟨rfl, h⟩ | ⟨rfl, h⟩ <;> exact (reads_taken h).bind_pure

/-- Specifiers are read back. -/
theorem SpecifierForm.reads {specifier : StringToKey} {hash : HashAlgorithm} {form : Bytes}
    (h : SpecifierForm specifier hash form) : Reads StringToKey.read form specifier := by
  have hid : hash.id < 256 := by cases hash <;> decide
  cases h with
  | simple => exact (reads_octet 0).bind (reads_smallNumber hid).bind_pure
  | salted _ hsalt =>
      exact (reads_octet 1).bind ((reads_smallNumber hid).bind (reads_taken hsalt).bind_pure)
  | iterated _ hsalt coded =>
      exact (reads_octet 3).bind ((reads_smallNumber hid).bind
        ((reads_taken hsalt).bind (reads_octetNumber coded).bind_pure))

theorem SpecifierForm.ofId_hash {specifier : StringToKey} {hash : HashAlgorithm} {form : Bytes}
    (h : SpecifierForm specifier hash form) : HashAlgorithm.ofId specifier.hash = .ok hash := by
  have hid : HashAlgorithm.ofId hash.id = .ok hash := by
    rw [HashAlgorithm.ofId, HashAlgorithm.ofId?_id]
  cases h <;> exact hid

/-- The numbers of the implemented ciphers. -/
theorem Cipher.id_le {id : Nat} {cipher : Cipher} (h : ofId? id = some cipher) :
    0 < id ∧ id ≤ 13 := by
  unfold ofId? at h
  split at h <;> first | omega | cases h

theorem Cipher.acceptsKeySize {id count : Nat} {cipher : Cipher} (h : ofId? id = some cipher)
    (hcount : count = cipher.keySize) : cipher.family.acceptsKeySize count = true := by
  subst hcount
  unfold ofId? at h
  split at h <;> cases h <;> rfl

namespace ProtectionForm

variable {protection : Protection} {cipher : Cipher} {specifier : StringToKey}
  {hash : HashAlgorithm} {form : Bytes}

/-- Protections are read back. -/
theorem reads (h : ProtectionForm protection cipher specifier hash form) :
    Reads Protection.read form protection := by
  cases h with
  | @specified withDigest id _ _ _ _ hcipher h =>
      have hid : id < 256 := by
        have hle := (Cipher.id_le hcipher).2
        omega
      cases withDigest with
      | true => exact (reads_octetNumber 254).bind ((reads_smallNumber hid).bind h.reads.bind_pure)
      | false => exact (reads_octetNumber 255).bind ((reads_smallNumber hid).bind h.reads.bind_pure)
  | @legacy id _ hcipher =>
      obtain ⟨hpos, hle⟩ := Cipher.id_le hcipher
      have hid : id < 256 := by omega
      suffices h : Reads Protection.read ([UInt8.ofNat id] ++ []) (.legacy id) by
        rwa [List.append_nil] at h
      refine (reads_smallNumber hid).bind ?_
      -- The number of a cipher is none of the other usage octets.
      split
      · omega
      · omega
      · omega
      · omega
      · exact reads_pure (Protection.legacy id)

theorem cipher_eq (h : ProtectionForm protection cipher specifier hash form) :
    Cipher.ofId? protection.cipher = some cipher := by
  cases h with
  | specified _ hcipher => exact hcipher
  | legacy hcipher => exact hcipher

theorem specifier?_eq (h : ProtectionForm protection cipher specifier hash form) :
    protection.specifier? = some specifier := by
  cases h <;> rfl

theorem specifierForm (h : ProtectionForm protection cipher specifier hash form) :
    ∃ form, SpecifierForm specifier hash form := by
  cases h with
  | specified _ _ h => exact ⟨_, h⟩
  | legacy => exact ⟨_, .simple .md5⟩

theorem isEncrypted_eq (h : ProtectionForm protection cipher specifier hash form) :
    protection.isEncrypted = true := by
  have hpos := (Cipher.id_le h.cipher_eq).1
  simp only [Protection.isEncrypted, ne_eq, decide_eq_true_eq]
  omega

theorem isStub_eq (h : ProtectionForm protection cipher specifier hash form) :
    protection.isStub = false := by
  obtain ⟨_, hspecifier⟩ := h.specifierForm
  rw [Protection.isStub, h.specifier?_eq]
  cases hspecifier <;> rfl

/-- The initial vector is one block. -/
theorem reads_initialVector (h : ProtectionForm protection cipher specifier hash form)
    {iv : Bytes} (hiv : iv.length = cipher.family.blockSize) :
    Reads protection.readInitialVector iv iv := by
  have hsize : Cipher.blockSizeOf? protection.cipher = some cipher.family.blockSize := by
    rw [Cipher.blockSizeOf?, h.cipher_eq]
  have hcondition : protection.isEncrypted = true ∧ ¬protection.isStub = true := by
    simp [h.isEncrypted_eq, h.isStub_eq]
  rw [Protection.readInitialVector, if_pos hcondition, hsize]
  exact reads_taken hiv

end ProtectionForm

theorem Reading.run_offset_bind (next : Nat → Reading β) (c : Cursor) :
    (offset >>= next) c = next c.offset c := rfl

/-- A step that takes everything that is left. -/
theorem Reading.run_remaining_bind (next : Bytes → Reading β) (front back : Bytes) :
    (remaining >>= next) ⟨front ++ back, front.length⟩ =
      next back ⟨front ++ back, (front ++ back).length⟩ := by
  change next (Cursor.rest _) _ = _
  rw [Cursor.rest, List.drop_left]

namespace SecretKey

/-- Reads what stands in front of the usage octet. -/
def readPublicBody : Reading (KeyAlgorithm × Nat × PublicPart) := do
  readVersion
  let created ← number 4
  let algorithm ← readAlgorithm
  let part ← PublicPart.read algorithm
  return (algorithm, created, part)

theorem reads_readPublicBody {algorithm : KeyAlgorithm} {created : Nat} {part : PublicPart}
    {octets : Bytes} (h : PublicBody algorithm created part octets) :
    Reads readPublicBody octets (algorithm, created, part) := by
  cases h with | mk hcreated hpart
  have hid : algorithm.id < 256 := by cases algorithm <;> decide
  have halgorithm : Reads readAlgorithm [UInt8.ofNat algorithm.id] algorithm := by
    suffices h : Reads readAlgorithm ([UInt8.ofNat algorithm.id] ++ []) algorithm by
      rwa [List.append_nil] at h
    refine (reads_smallNumber hid).bind ?_
    rw [KeyAlgorithm.ofId?_id]
    exact reads_pure algorithm
  have hversion : Reads readVersion [4] () := (reads_octetNumber 4).bind (reads_pure ())
  exact hversion.bind ((reads_number hcreated).bind (halgorithm.bind hpart.reads.bind_pure))

theorem read_eq (body : Bytes) (isSubkey : Bool) :
    read body isSubkey = (do
      let (algorithm, created, publicPart) ← readPublicBody
      let publicBody := body.take (← offset)
      let protection ← Protection.read
      let initialVector ← protection.readInitialVector
      let secretData ← remaining
      return {
        algorithm, created, publicBody, publicPart, protection, initialVector, secretData, isSubkey
        userIds := []
        selfSignatures := [] }) := by
  simp only [read, readPublicBody, bind_assoc, pure_bind]

/-- The key in a body made of a public part, a protection, an initial vector and a secret part. -/
theorem ofBody_eq_ok {algorithm : KeyAlgorithm} {created : Nat} {part : PublicPart}
    {protection : Protection} {publicBody form iv : Bytes}
    (hbody : PublicBody algorithm created part publicBody)
    (hprotection : Reads Protection.read form protection)
    (hiv : Reads protection.readInitialVector iv iv) (secretData : Bytes) (isSubkey : Bool) :
    ofBody (publicBody ++ (form ++ (iv ++ secretData))) isSubkey = .ok {
      algorithm, created, publicBody, publicPart := part, protection, initialVector := iv
      secretData, isSubkey, userIds := [], selfSignatures := [] } := by
  have hstart : Cursor.start (publicBody ++ (form ++ (iv ++ secretData))) =
      ⟨[] ++ (publicBody ++ (form ++ (iv ++ secretData))), ([] : Bytes).length⟩ := rfl
  refine onBytes_eq_ok.2 ?_
  rw [read_eq, hstart, (reads_readPublicBody hbody).run_bind]
  simp only [run_offset_bind, hprotection.run_bind, hiv.run_bind, run_remaining_bind,
    List.nil_append, List.take_left]
  exact ⟨_, rfl⟩

end SecretKey

end ArtifactSigning
