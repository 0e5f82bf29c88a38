import ArtifactSigning.Proofs.Key.Primitives
import ArtifactSigning.Proofs.Key.SecretKeyForm
import ArtifactSigning.Proofs.Packet.Cutting

/-!
# How a secret key packet is cut

A body that is accepted is the public part, the usage octet, the parameters of the protection, the
initial vector and the secret part of the key that is read from it, one after the other; nothing is
lost or taken twice (`SecretKey.IsCutFrom`). The parameters can be written again from the key alone:
`StringToKey.octets?` gives the octets of a specifier, with its count in the coded form. What stands
in front of the usage octet is read without a look at what follows, so all bodies with one public
part give keys with one fingerprint.
-/
namespace ArtifactSigning

open Reading Step

namespace StringToKey

/-- The coded form of a count: how many binary digits follow the leading five, and the four digits
behind the first one. -/
def encodeCount (count : Nat) : Nat :=
  16 * (count.log2 - 10) + (count >>> (count.log2 - 4) - 16)

theorem log2_decodeCount (coded : Nat) : (decodeCount coded).log2 = coded / 16 + 10 := by
  have hpos : 0 < 2 ^ (coded / 16 + 6) := Nat.two_pow_pos _
  have hne : (16 + coded % 16) * 2 ^ (coded / 16 + 6) ≠ 0 := Nat.mul_ne_zero (by omega) (by omega)
  have hlow : 2 ^ (coded / 16 + 10) = 16 * 2 ^ (coded / 16 + 6) := by
    rw [show coded / 16 + 10 = 4 + (coded / 16 + 6) by omega, Nat.pow_add]
  have hhigh : 2 ^ (coded / 16 + 10 + 1) = 32 * 2 ^ (coded / 16 + 6) := by
    rw [show coded / 16 + 10 + 1 = 5 + (coded / 16 + 6) by omega, Nat.pow_add]
  rw [decodeCount, Nat.shiftLeft_eq, Nat.log2_eq_iff hne, hlow, hhigh]
  exact ⟨Nat.mul_le_mul_right _ (by omega), Nat.mul_lt_mul_of_pos_right (by omega) hpos⟩

/-- The coded form of a count comes back from the count. -/
theorem encodeCount_decodeCount (coded : Nat) : encodeCount (decodeCount coded) = coded := by
  have hshift : decodeCount coded >>> (coded / 16 + 6) = 16 + coded % 16 := by
    rw [decodeCount, Nat.shiftLeft_shiftRight]
  rw [encodeCount, log2_decodeCount, show coded / 16 + 10 - 4 = coded / 16 + 6 by omega, hshift]
  omega

/-- The octets that a specifier is read from: its kind, the number of its hash function and what
belongs to the kind. -/
def octets? : StringToKey → Option Bytes
  | .simple hash => some [0, UInt8.ofNat hash.toNat]
  | .salted hash salt => some ([1, UInt8.ofNat hash.toNat] ++ salt)
  | .iterated hash salt count =>
      some ([3, UInt8.ofNat hash.toNat] ++ salt ++ [UInt8.ofNat (encodeCount count)])
  | .placeholder hash mode =>
      some ([101, UInt8.ofNat hash.toNat] ++ placeholderMark ++ [UInt8.ofNat mode])
  | .reserved .. => none

/-- A specifier that is read has taken just its octets. -/
theorem cuts_read : Cuts read fun specifier octets => specifier.octets? = some octets := by
  refine cuts_octet.bind ?_
  rintro kind _ rfl
  split
  · rename_i hkind
    obtain rfl : kind = 0 := UInt8.toNat_inj.1 hkind
    refine cuts_smallNumber.bind_pure ?_
    rintro hash _ ⟨-, rfl⟩
    rfl
  · rename_i hkind
    obtain rfl : kind = 1 := UInt8.toNat_inj.1 hkind
    refine cuts_smallNumber.bind ?_
    rintro hash _ ⟨-, rfl⟩
    refine (cuts_take 8).bind_pure ?_
    rintro salt _ ⟨rfl, -⟩
    rfl
  · rename_i hkind
    obtain rfl : kind = 3 := UInt8.toNat_inj.1 hkind
    refine cuts_smallNumber.bind ?_
    rintro hash _ ⟨-, rfl⟩
    refine (cuts_take 8).bind ?_
    rintro salt _ ⟨rfl, -⟩
    refine cuts_smallNumber.bind_pure ?_
    rintro coded _ ⟨-, rfl⟩
    rw [octets?, encodeCount_decodeCount, List.append_assoc]
    rfl
  · rename_i hkind
    obtain rfl : kind = 101 := UInt8.toNat_inj.1 hkind
    refine cuts_smallNumber.bind ?_
    rintro hash _ ⟨-, rfl⟩
    refine (cuts_take 3).bind ?_
    rintro mark _ ⟨rfl, -⟩
    split
    · rename_i hmark
      refine cuts_smallNumber.bind_pure ?_
      rintro mode _ ⟨-, rfl⟩
      rw [hmark]
      rfl
    · exact cuts_throw _
  · exact cuts_throw _

end StringToKey

namespace Protection

/-- The octets between the usage octet and the initial vector: the number of the cipher and the
specifier, where the usage octet announces them. -/
def parameters? (p : Protection) : Option Bytes :=
  if p.usage = 254 ∨ p.usage = 255 then
    (p.specifier?.bind StringToKey.octets?).map (UInt8.ofNat p.cipher :: ·)
  else some []

/-- The octets of a protection: the usage octet and the parameters. -/
def HasForm (p : Protection) (octets : Bytes) : Prop :=
  p.usage < 256 ∧ ∃ parameters, p.parameters? = some parameters ∧
    octets = [UInt8.ofNat p.usage] ++ parameters

theorem hasForm_specified {withDigest : Bool} {cipher : Nat} {specifier : StringToKey}
    {octets : Bytes} (h : specifier.octets? = some octets) :
    HasForm (.specified withDigest cipher specifier)
      ([if withDigest then 254 else 255] ++ (UInt8.ofNat cipher :: octets)) := by
  refine ⟨?_, UInt8.ofNat cipher :: octets, ?_, ?_⟩
  · cases withDigest <;> simp [usage]
  · have husage : (Protection.specified withDigest cipher specifier).usage = 254 ∨
        (Protection.specified withDigest cipher specifier).usage = 255 := by
      cases withDigest <;> simp [usage]
    rw [parameters?, if_pos husage]
    simp [specifier?, h, Protection.cipher]
  · cases withDigest <;> rfl

theorem cuts_read : Cuts read HasForm := by
  refine cuts_smallNumber.bind ?_
  rintro usage _ ⟨husage, rfl⟩
  split
  · exact cuts_pure ⟨by decide, [], rfl, rfl⟩
  · exact cuts_throw _
  · refine cuts_smallNumber.bind ?_
    rintro cipher _ ⟨-, rfl⟩
    refine StringToKey.cuts_read.bind_pure ?_
    intro specifier octets hspecifier
    exact hasForm_specified hspecifier
  · refine cuts_smallNumber.bind ?_
    rintro cipher _ ⟨-, rfl⟩
    refine StringToKey.cuts_read.bind_pure ?_
    intro specifier octets hspecifier
    exact hasForm_specified hspecifier
  · rename_i h254 h255
    refine cuts_pure ⟨husage, [], ?_, rfl⟩
    exact if_neg fun h => h.elim h254 h255

/-- The initial vector is one block where something is encrypted, and empty otherwise. -/
def FitsVector (p : Protection) (iv : Bytes) : Prop :=
  if p.isEncrypted ∧ ¬p.isStub then Cipher.blockSizeOf? p.cipher = some iv.length else iv = []

theorem cuts_readInitialVector (p : Protection) :
    Cuts p.readInitialVector fun iv octets => p.FitsVector iv ∧ iv = octets := by
  rw [readInitialVector]
  split
  · rename_i hencrypted
    split
    · rename_i size hsize
      intro front more iv d hrun
      obtain ⟨_, back, ⟨rfl, hlength⟩, hmore, hend⟩ := cuts_take size hrun
      refine ⟨iv, back, ⟨?_, rfl⟩, hmore, hend⟩
      rw [FitsVector, if_pos hencrypted, hsize, hlength]
    · exact cuts_throw _
  · rename_i hopen
    refine cuts_pure ⟨?_, rfl⟩
    rw [FitsVector, if_neg hopen]

end Protection

section PublicPart

theorem cuts_integerForm : Cuts integerOctets IntegerForm := by
  intro front more value d hrun
  obtain ⟨_, back, ⟨bits, hbits, hlength, rfl⟩, hmore, hend⟩ := cuts_integerOctets hrun
  exact ⟨_, back, ⟨hbits, hlength⟩, hmore, hend⟩

theorem cuts_integer : Cuts integer fun n octets =>
    ∃ value, IntegerForm value octets ∧ ofBigEndian value = n :=
  cuts_integerForm.map fun value _ h => ⟨value, h, rfl⟩

theorem cuts_readShort : Cuts PublicPart.readShort ShortForm := by
  refine cuts_smallNumber.bind ?_
  rintro length _ ⟨hlength, rfl⟩ front more value d hrun
  obtain ⟨_, back, ⟨rfl, rfl⟩, hmore, hend⟩ := cuts_take length hrun
  exact ⟨value, back, ⟨hlength⟩, hmore, hend⟩

/-- A public part that is read has taken a form of its parameters. -/
theorem PublicPart.cuts_read (algorithm : KeyAlgorithm) :
    Cuts (PublicPart.read algorithm) (PublicForm algorithm) := by
  have hpoint {count : Nat} (h : (algorithm, count) ∈
      [(.x25519, 32), (.x448, 56), (.ed25519, 32), (.ed448, 57)]) :
      Cuts (take count >>= fun octets => pure (PublicPart.point octets))
        (PublicForm algorithm) := by
    refine (cuts_take count).bind_pure ?_
    rintro octets _ ⟨rfl, rfl⟩
    exact .point h
  cases algorithm with
  | rsa | rsaEncryptOnly | rsaSignOnly =>
      refine cuts_integer.bind ?_
      rintro _ n' ⟨n, hn, rfl⟩
      refine cuts_integer.bind_pure ?_
      rintro _ e' ⟨e, he, rfl⟩
      exact .rsa (by decide) hn he
  | dsa =>
      refine cuts_integer.bind ?_
      rintro _ p' ⟨p, hp, rfl⟩
      refine cuts_integer.bind ?_
      rintro _ q' ⟨q, hq, rfl⟩
      refine cuts_integer.bind ?_
      rintro _ g' ⟨g, hg, rfl⟩
      refine cuts_integer.bind_pure ?_
      rintro _ y' ⟨y, hy, rfl⟩
      exact .dsa hp hq hg hy
  | elgamalEncrypt | elgamalGeneral =>
      refine cuts_integer.bind ?_
      rintro _ p' ⟨p, hp, rfl⟩
      refine cuts_integer.bind ?_
      rintro _ g' ⟨g, hg, rfl⟩
      refine cuts_integer.bind_pure ?_
      rintro _ y' ⟨y, hy, rfl⟩
      exact .elgamal (by decide) hp hg hy
  | ecdsa | eddsaLegacy =>
      refine cuts_readShort.bind fun curve curve' hcurve => ?_
      refine cuts_integerForm.bind_pure fun point point' hpoint => ?_
      exact .curvePoint (by decide) hcurve hpoint
  | ecdh =>
      refine cuts_readShort.bind fun curve curve' hcurve => ?_
      refine cuts_integerForm.bind fun point point' hpoint => ?_
      refine cuts_readShort.bind_pure fun derivation derivation' hderivation => ?_
      exact .agreement hcurve hpoint hderivation
  | x25519 | x448 | ed25519 | ed448 => exact hpoint (by decide)

end PublicPart

namespace SecretKey

theorem cuts_readVersion : Cuts readVersion fun _ octets => octets = [4] := by
  refine cuts_smallNumber.bind ?_
  rintro version _ ⟨-, rfl⟩
  split
  · exact cuts_throw _
  · rename_i hversion
    obtain rfl := Decidable.not_not.1 hversion
    exact cuts_pure rfl

theorem cuts_readAlgorithm :
    Cuts readAlgorithm fun algorithm octets => octets = [UInt8.ofNat algorithm.id] := by
  refine cuts_smallNumber.bind ?_
  rintro id _ ⟨-, rfl⟩
  split
  · rename_i algorithm hfound
    have hid : ((algorithm.id : Nat) : Int) = (id : Int) := by
      simpa [KeyAlgorithm.ofId?] using List.find?_some hfound
    obtain rfl := Int.ofNat_inj.1 hid
    exact cuts_pure rfl
  · exact cuts_throw _

theorem cuts_readPublicBody : Cuts readPublicBody fun (algorithm, created, part) octets =>
    PublicBody algorithm created part octets := by
  refine cuts_readVersion.bind ?_
  rintro _ _ rfl
  refine (cuts_number 4).bind ?_
  rintro created _ ⟨hcreated, rfl⟩
  refine cuts_readAlgorithm.bind ?_
  rintro algorithm _ rfl
  refine (PublicPart.cuts_read algorithm).bind_pure fun part octets hpart => ?_
  exact .mk hcreated hpart

/-- The body of a packet is the parts of a key, one after the other. -/
structure IsCutFrom (key : SecretKey) (body : Bytes) : Prop where
  publicBody : PublicBody key.algorithm key.created key.publicPart key.publicBody
  usage : key.protection.usage < 256
  initialVector : key.protection.FitsVector key.initialVector
  octets : ∃ parameters, key.protection.parameters? = some parameters ∧
    body = key.publicBody ++ ([UInt8.ofNat key.protection.usage] ++ (parameters ++
      (key.initialVector ++ key.secretData)))

/-- A body that is accepted is cut without a loss. -/
theorem isCutFrom_of_ofBody {body : Bytes} {isSubkey : Bool} {key : SecretKey}
    (h : ofBody body isSubkey = .ok key) : key.IsCutFrom body := by
  obtain ⟨d, h⟩ := onBytes_eq_ok.1 h
  rw [read_eq, show Cursor.start body = ⟨[] ++ body, ([] : Bytes).length⟩ from rfl] at h
  obtain ⟨⟨algorithm, created, part⟩, c, hpublic, h⟩ := bind_eq_ok.1 h
  obtain ⟨publicBody, more, hbody, rfl, rfl⟩ := cuts_readPublicBody hpublic
  simp only [run_offset_bind] at h
  obtain ⟨protection, c, hprotection, h⟩ := bind_eq_ok.1 h
  obtain ⟨_, more, ⟨husage, parameters, hparameters, rfl⟩, rfl, rfl⟩ :=
    Protection.cuts_read hprotection
  obtain ⟨iv, c, hiv, h⟩ := bind_eq_ok.1 h
  obtain ⟨_, secretData, ⟨hvector, rfl⟩, rfl, rfl⟩ := protection.cuts_readInitialVector hiv
  rw [run_remaining_bind] at h
  obtain ⟨rfl, -⟩ := pure_eq_ok.1 h
  rw [List.nil_append, List.take_left]
  exact ⟨hbody, husage, hvector, parameters, hparameters, by rw [List.append_assoc]⟩

/-- The key has the public part that is read from some octets, and is identified by them. -/
structure HasPublicBody (key : SecretKey) (algorithm : KeyAlgorithm) (created : Nat)
    (part : PublicPart) (octets : Bytes) : Prop where
  publicBody : key.publicBody = octets
  algorithm : key.algorithm = algorithm
  created : key.created = created
  parameters : key.publicPart.parameters = part.parameters
  curve : key.publicPart.curve? = part.curve?
  fingerprint : key.fingerprint = fingerprintOf octets
  keyId : key.keyId = (fingerprintOf octets).drop 12

/-- What follows the public part does not matter for it. -/
theorem hasPublicBody_of_ofBody {algorithm : KeyAlgorithm} {created : Nat} {part : PublicPart}
    {publicBody rest : Bytes} {isSubkey : Bool} {key : SecretKey}
    (hpublic : PublicBody algorithm created part publicBody)
    (h : ofBody (publicBody ++ rest) isSubkey = .ok key) :
    key.HasPublicBody algorithm created part publicBody := by
  have hcut := isCutFrom_of_ofBody h
  obtain ⟨parameters, -, hoctets⟩ := hcut.octets
  obtain ⟨hbody, hvalues⟩ :=
    (reads_readPublicBody hpublic).unique (reads_readPublicBody hcut.publicBody) hoctets
  obtain ⟨halgorithm, hrest⟩ := Prod.mk.inj hvalues
  obtain ⟨hcreated, hpart⟩ := Prod.mk.inj hrest
  have hfingerprint : key.fingerprint = fingerprintOf publicBody := by rw [fingerprint, hbody]
  refine ⟨hbody.symm, halgorithm.symm, hcreated.symm, by rw [hpart], by rw [hpart],
    hfingerprint, ?_⟩
  rw [keyId, hfingerprint, length_fingerprintOf]

/-- A body that is accepted is the public part, the usage octet, the parameters of the protection,
the initial vector and the secret part of its key, where the parameters are those that the key
gives. Whatever follows a public part, it is refused, or it is read as a key with this public part,
this fingerprint and this key id. -/
theorem ofBody_parts :
    (∀ body isSubkey key, ofBody body isSubkey = .ok key → key.IsCutFrom body) ∧
      ∀ algorithm created part publicBody, PublicBody algorithm created part publicBody →
        ∀ rest isSubkey, (∃ failure, ofBody (publicBody ++ rest) isSubkey = .error failure) ∨
          ∃ key, ofBody (publicBody ++ rest) isSubkey = .ok key ∧
            key.HasPublicBody algorithm created part publicBody := by
  refine ⟨fun _ _ _ h => isCutFrom_of_ofBody h, ?_⟩
  intro algorithm created part publicBody hpublic rest isSubkey
  cases h : ofBody (publicBody ++ rest) isSubkey with
  | error failure => exact .inl ⟨failure, rfl⟩
  | ok key => exact .inr ⟨key, rfl, hasPublicBody_of_ofBody hpublic h⟩

/-- A key on an Edwards curve, once encrypted behind an iterated specifier and once without its
secret part. -/
theorem ofBody_parts_with_placeholder :
    ∃ locked stub : SecretKey,
      ofBody ([4, 0, 0, 0, 1, 27] ++ List.replicate 32 9 ++ [254, 7, 3, 8] ++
        [1, 2, 3, 4, 5, 6, 7, 8] ++ [96] ++ List.replicate 16 5 ++ [1, 2, 3]) false = .ok locked ∧
      locked.IsCutFrom ([4, 0, 0, 0, 1, 27] ++ List.replicate 32 9 ++ [254, 7, 3, 8] ++
        [1, 2, 3, 4, 5, 6, 7, 8] ++ [96] ++ List.replicate 16 5 ++ [1, 2, 3]) ∧
      ofBody ([4, 0, 0, 0, 1, 27] ++ List.replicate 32 9 ++
        [255, 0, 101, 2, 0x47, 0x4E, 0x55, 1]) true = .ok stub ∧
      locked.fingerprint = stub.fingerprint ∧ locked.keyId = stub.keyId := by
  have hpublic : PublicBody .ed25519 1 (.point (List.replicate 32 9))
      ([4, 0, 0, 0, 1, 27] ++ List.replicate 32 9) := .mk (by decide) (.point (by decide))
  have hread := ofBody_parts.2 _ _ _ _ hpublic
  have hlocked := hread ([254, 7, 3, 8] ++ [1, 2, 3, 4, 5, 6, 7, 8] ++ [96] ++
    List.replicate 16 5 ++ [1, 2, 3]) false
  have hstub := hread [255, 0, 101, 2, 0x47, 0x4E, 0x55, 1] true
  obtain ⟨failure, hrefused⟩ | ⟨locked, hread, hsame⟩ := hlocked
  · cases hrefused
  obtain ⟨failure, hrefused⟩ | ⟨stub, hread', hsame'⟩ := hstub
  · cases hrefused
  exact ⟨locked, stub, hread, ofBody_parts.1 _ _ _ hread, hread',
    hsame.fingerprint.trans hsame'.fingerprint.symm, hsame.keyId.trans hsame'.keyId.symm⟩

end SecretKey

end ArtifactSigning
