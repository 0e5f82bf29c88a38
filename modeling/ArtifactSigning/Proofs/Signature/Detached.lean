import ArtifactSigning.Proofs.Packet.Framing
import ArtifactSigning.Proofs.Step
import ArtifactSigning.Signature.Detached
import ArtifactSigning.Signature.Subpacket
import Mathlib.Algebra.Group.Int.Defs

/-!
# What a finished signature consists of

The subpackets that a signature is made with are short, so their length is one octet. A generator
that absorbed a document piece by piece has absorbed the whole of it, and finishing gives a packet
whose body is the header, two empty lengths, the front of the digest and the fields.
-/
namespace ArtifactSigning

open Step

namespace Subpacket

variable {time : Int} {value octets fingerprint : Bytes}

/-- The length of a short subpacket is one octet, which counts the kind octet too. -/
theorem encode_short {kind : Nat} (hkind : kind ≤ 255) (hvalue : value.length < 191) :
    encode kind value false =
      .ok (UInt8.ofNat (value.length + 1) :: UInt8.ofNat kind :: value) := by
  have hrange : ¬((kind : Int) < 0 ∨ 255 < (kind : Int)) := by omega
  have hlength : encodeLength (markedKind kind false :: value).length =
      .ok [UInt8.ofNat (value.length + 1)] := by
    rw [List.length_cons, encodeLength, if_pos (by omega)]
  rw [encode, if_neg hrange, Int.toNat_natCast]
  simp only [hlength]
  rfl

theorem encode_creationTime (n : Nat) :
    encode creationTimeKind (bigEndian 4 n) false = .ok ([0x05, 0x02] ++ bigEndian 4 n) := by
  rw [encode_short (by decide) (by rw [length_bigEndian]; decide), length_bigEndian]
  rfl

theorem creationTime_eq_ok :
    creationTime time = .ok octets ↔
      (0 ≤ time ∧ time < 2 ^ 32) ∧ [0x05, 0x02] ++ bigEndian 4 time.toNat = octets := by
  rw [creationTime, except_bind_eq_ok]
  constructor
  · rintro ⟨field, hfield, h⟩
    rw [encodeTime] at hfield
    split at hfield
    · rename_i hrange
      cases hfield
      rw [encode_creationTime] at h
      exact ⟨by simpa using hrange, Except.ok.inj h⟩
    · cases hfield
  · rintro ⟨hrange, rfl⟩
    exact ⟨_, if_pos (by simpa using hrange), encode_creationTime _⟩

theorem issuerFingerprint_eq_ok :
    issuerFingerprint fingerprint = .ok octets ↔
      fingerprint.length = 20 ∧ [0x16, 0x21, 0x04] ++ fingerprint = octets := by
  rw [issuerFingerprint]
  by_cases hlength : fingerprint.length = 20
  · have hvalue : (4 :: fingerprint).length = 21 := by rw [List.length_cons, hlength]
    rw [if_pos hlength, encode_short (by decide) (by omega), hvalue, Except.ok.injEq]
    exact (and_iff_right hlength).symm
  · rw [if_neg hlength]
    simp [hlength]

end Subpacket

namespace SignatureGenerator

variable {g : SignatureGenerator} {created : Int} {header digest fields : Bytes}

/-- How a document is cut into pieces does not matter. -/
theorem foldl_update (g : SignatureGenerator) (chunks : List Bytes) :
    chunks.foldl (·.update ·) g = g.update chunks.flatten := by
  induction chunks generalizing g with
  | nil => rfl
  | cons chunk chunks ih =>
      rw [List.foldl_cons, ih, List.flatten_cons]
      simp only [update, BlockHash.Context.update_append]

/-- The signed properties, with the creation time first. -/
def area (g : SignatureGenerator) (created : Int) : Bytes :=
  [0x05, 0x02] ++ bigEndian 4 created.toNat ++ g.properties

theorem header_eq_ok :
    g.header created = .ok header ↔
      (0 ≤ created ∧ created < 2 ^ 32) ∧ (0 ≤ g.kind ∧ g.kind ≤ 255) ∧
      (g.area created).length < 2 ^ 16 ∧
      [version, UInt8.ofNat g.kind.toNat, UInt8.ofNat g.key.algorithm.id,
        UInt8.ofNat g.hash.id] ++ bigEndian 2 (g.area created).length ++ g.area created =
          header := by
  rw [SignatureGenerator.header, except_bind_eq_ok]
  constructor
  · rintro ⟨time, htime, h⟩
    obtain ⟨hrange, rfl⟩ := Subpacket.creationTime_eq_ok.1 htime
    split at h
    · cases h
    · simp only at h
      split at h
      · cases h
      · rename_i hkind hlength
        exact ⟨hrange, by omega, Nat.lt_of_not_le hlength, Except.ok.inj h⟩
  · rintro ⟨hrange, hkind, hlength, rfl⟩
    refine ⟨_, Subpacket.creationTime_eq_ok.2 ⟨hrange, rfl⟩, ?_⟩
    have hkind' : ¬(g.kind < 0 ∨ 255 < g.kind) := by omega
    rw [if_neg hkind']
    exact if_neg (Nat.not_le_of_lt hlength)

/-- What is hashed is the document, the header and the trailer, in this order. -/
theorem digest_update (g : SignatureGenerator) (document header : Bytes)
    (hstart : g.context = g.hash.blockHash.start) :
    (g.update document).digest header =
      g.hash.hash (document ++ header ++ [0x04, 0xFF] ++ bigEndian 4 header.length) := by
  rw [digest, update, hstart, ← BlockHash.Context.update_append, HashAlgorithm.hash,
    BlockHash.hash, trailer]
  simp only [List.append_assoc]
  rfl

theorem signedFieldsBy_eq_ok {sign : Bytes → Int → Except Failure Bytes} :
    g.signedFieldsBy sign digest = .ok fields ↔ sign digest g.hash.id = .ok fields := by
  rw [signedFieldsBy]
  constructor
  · intro h
    split at h
    · cases h
    · exact h
  · intro h
    rw [h]

/-- A finished signature is a packet with the signed header, the digest and the fields. -/
theorem finishBy_eq_ok {sign : Bytes → Int → Except Failure Bytes} {s : DetachedSignature}
    (h : g.finishBy sign created = .ok s) :
    g.header created = .ok s.header ∧ s.digest = g.digest s.header ∧
      sign s.digest g.hash.id = .ok s.fields ∧
      Packet.Frame ⟨2, s.header ++ [0, 0] ++ s.digest.take 2 ++ s.fields⟩ s.packet := by
  obtain ⟨header, hheader, h⟩ := except_bind_eq_ok.1 h
  obtain ⟨fields, hfields, h⟩ := except_bind_eq_ok.1 h
  obtain ⟨packet, hpacket, h⟩ := except_bind_eq_ok.1 h
  obtain rfl := Except.ok.inj h
  exact ⟨hheader, rfl, signedFieldsBy_eq_ok.1 hfields, Packet.frame_of_encode hpacket⟩

theorem finish_eq_ok {s : DetachedSignature} (h : g.finish created = .ok s) :
    g.header created = .ok s.header ∧ s.digest = g.digest s.header ∧
      g.key.sign s.digest g.hash.id = .ok s.fields ∧
      Packet.Frame ⟨2, s.header ++ [0, 0] ++ s.digest.take 2 ++ s.fields⟩ s.packet :=
  finishBy_eq_ok h

/-- A signature is finished whenever there is a header, the key signs and the packet is not too
long. -/
theorem exists_finish (hheader : g.header created = .ok header)
    (hsign : g.key.sign (g.digest header) g.hash.id = .ok fields)
    (hlength : header.length + fields.length < 2 ^ 31) : ∃ s, g.finish created = .ok s := by
  have hbody : (DetachedSignature.front header (g.digest header) ++ fields).length < 2 ^ 32 := by
    simp only [DetachedSignature.front, List.length_append, List.length_cons, List.length_nil,
      List.length_take]
    omega
  obtain ⟨packet, hpacket⟩ := Packet.encode_ok (show 2 ≤ 15 by decide) hbody
  refine ⟨⟨created, header, g.digest header, fields, packet⟩, ?_⟩
  refine except_bind_eq_ok.2 ⟨header, hheader, ?_⟩
  refine except_bind_eq_ok.2 ⟨fields, signedFieldsBy_eq_ok.2 hsign, ?_⟩
  exact except_bind_eq_ok.2 ⟨packet, hpacket, rfl⟩

end SignatureGenerator

namespace DetachedSignature

/-- The signed properties: when the signature was made and with which key. -/
def properties (created : Int) (fingerprint : Bytes) : Bytes :=
  [0x05, 0x02] ++ bigEndian 4 created.toNat ++ ([0x16, 0x21, 0x04] ++ fingerprint)

/-- The signed part of the body, for a signature over the octets of a document with SHA-512. -/
def documentHeader (algorithm : KeyAlgorithm) (properties : Bytes) : Bytes :=
  [0x04, 0x00, UInt8.ofNat algorithm.id, 0x0A] ++ bigEndian 2 properties.length ++ properties

/-- The digest over a document, a header and the trailer. -/
def documentDigest (document header : Bytes) : Bytes :=
  HashAlgorithm.sha512.hash (document ++ header ++ [0x04, 0xFF] ++ bigEndian 4 header.length)

end DetachedSignature

end ArtifactSigning
