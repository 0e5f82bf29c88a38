import ArtifactSigning.Proofs.Packet.Reading
import ArtifactSigning.Signature.SelfSignature

/-!
# The two areas of a signature

The body of a version 4 signature packet has two areas of subpackets, and the signature covers the
first one only. `SignatureBody` is such a body in its parts: `ofBody_octets` says what is read from
it, and every body that is read as a signature is one (`exists_octets_of_ofBody`). Of the area that
is not covered nothing is taken over but the key id of the issuer, so `withoutKeyId` forgets all
that this area can change.
-/
namespace ArtifactSigning

open Reading Step

/-- The form of an area: its length and its subpackets. -/
def areaForm (area : Bytes) : Bytes := bigEndian 2 area.length ++ area

/-- The body of a version 4 signature packet in its parts. -/
structure SignatureBody where
  kind : UInt8
  /-- The numbers of the public-key algorithm and of the hash function. -/
  algorithms : Bytes
  hashed : Bytes
  unhashed : Bytes
  /-- The start of the digest and the signature itself. -/
  rest : Bytes
  algorithms_length : algorithms.length = 2
  hashed_lt : hashed.length < 256 ^ 2
  unhashed_lt : unhashed.length < 256 ^ 2

namespace SignatureBody

def octets (b : SignatureBody) : Bytes :=
  [4] ++ ([b.kind] ++ (b.algorithms ++ (areaForm b.hashed ++ (areaForm b.unhashed ++ b.rest))))

/-- Bodies that differ at most in the area that the signature does not cover. -/
structure SameButUnhashed (b b' : SignatureBody) : Prop where
  kind : b.kind = b'.kind
  algorithms : b.algorithms = b'.algorithms
  hashed : b.hashed = b'.hashed
  rest : b.rest = b'.rest

/-- Whether the covered area has a subpacket with the fingerprint of the issuer. -/
def NamesIssuer (b : SignatureBody) : Prop :=
  ∃ subpackets, Subpacket.readAll b.hashed = .ok subpackets ∧
    ∃ p ∈ subpackets, p.kind = Subpacket.issuerFingerprintKind ∧ p.value.length = 21

end SignatureBody

namespace SelfSignature

variable {b b' : SignatureBody} {s s' : SelfSignature} {p : Subpacket}

section Octets

/-- What follows an area, and what comes of one that has no subpackets. -/
theorem run_readArea_bind {area : Bytes} (h : area.length < 256 ^ 2)
    (next : List Subpacket → Reading α) (front back : Bytes) :
    (readArea >>= next) ⟨front ++ (areaForm area ++ back), front.length⟩ =
      match Subpacket.readAll area with
      | .ok subpackets =>
          next subpackets ⟨(front ++ areaForm area) ++ back, (front ++ areaForm area).length⟩
      | .error failure =>
          .error failure ⟨(front ++ areaForm area) ++ back, (front ++ areaForm area).length⟩ := by
  have hform : front ++ (areaForm area ++ back) =
      front ++ (bigEndian 2 area.length ++ (area ++ back)) := by
    rw [areaForm, List.append_assoc]
  have hbehind : (front ++ bigEndian 2 area.length) ++ area = front ++ areaForm area := by
    rw [areaForm, List.append_assoc]
  rw [readArea, bind_assoc, hform, (reads_number h).run_bind, bind_assoc,
    (reads_take area).run_bind, hbehind]
  cases Subpacket.readAll area <;> rfl

/-- What is read from the body of a signature packet. -/
theorem ofBody_octets (b : SignatureBody) : ofBody b.octets = (do
    let hashed ← Subpacket.readAll b.hashed
    let unhashed ← Subpacket.readAll b.unhashed
    return some (ofAreas b.kind.toNat hashed unhashed)) := by
  have hstart : Cursor.start b.octets = ⟨[] ++ ([4] ++ ([b.kind] ++ (b.algorithms ++
      (areaForm b.hashed ++ (areaForm b.unhashed ++ b.rest))))), ([] : Bytes).length⟩ := rfl
  have hrun : (read.run (Cursor.start b.octets) : EStateM.Result _ _ _) =
      read (Cursor.start b.octets) := rfl
  rw [ofBody, onBytes, hrun, hstart, read, (reads_octet 4).run_bind, if_pos rfl,
    (reads_octetNumber b.kind).run_bind, (reads_taken b.algorithms_length).run_bind,
    run_readArea_bind b.hashed_lt]
  cases Subpacket.readAll b.hashed with
  | error failure => rfl
  | ok hashed =>
      simp only [run_readArea_bind b.unhashed_lt]
      cases Subpacket.readAll b.unhashed <;> rfl

theorem ofBody_eq_ok {found : Option SelfSignature} :
    ofBody b.octets = .ok found ↔ ∃ hashed unhashed, Subpacket.readAll b.hashed = .ok hashed ∧
      Subpacket.readAll b.unhashed = .ok unhashed ∧
        found = some (ofAreas b.kind.toNat hashed unhashed) := by
  rw [ofBody_octets, except_bind_eq_ok]
  refine exists_congr fun hashed => ?_
  rw [except_bind_eq_ok, ← exists_and_left]
  refine exists_congr fun unhashed => and_congr_right fun _ => and_congr_right fun _ => ?_
  constructor
  · intro h
    exact (Except.ok.inj h).symm
  · rintro rfl
    rfl

/-- An area that is read behind other octets stands there in its form. -/
theorem readArea_behind {front more : Bytes} {subpackets : List Subpacket} {d : Cursor}
    (h : readArea ⟨front ++ more, front.length⟩ = .ok subpackets d) :
    ∃ area back, area.length < 256 ^ 2 ∧ more = areaForm area ++ back ∧
      d = ⟨(front ++ areaForm area) ++ back, (front ++ areaForm area).length⟩ := by
  obtain ⟨length, c, hlength, h⟩ := bind_eq_ok.1 h
  obtain ⟨hlt, middle, rfl, rfl⟩ := number_behind hlength
  obtain ⟨area, c, harea, h⟩ := bind_eq_ok.1 h
  obtain ⟨rfl, back, rfl, rfl⟩ := take_behind harea
  refine ⟨area, back, hlt, (List.append_assoc ..).symm, ?_⟩
  rw [areaForm, ← List.append_assoc front]
  cases hread : Subpacket.readAll area with
  | ok subpackets =>
      rw [hread] at h
      exact (pure_eq_ok.1 h).2.symm
  | error failure =>
      rw [hread] at h
      exact absurd h throw_ne_ok

/-- Every body that is read as a signature has the two areas. -/
theorem exists_octets_of_ofBody {body : Bytes} (h : ofBody body = .ok (some s)) :
    ∃ b : SignatureBody, b.octets = body := by
  obtain ⟨d, h⟩ := onBytes_eq_ok.1 h
  have hstart : Cursor.start body = ⟨[] ++ body, ([] : Bytes).length⟩ := rfl
  rw [hstart] at h
  obtain ⟨version, c, hversion, h⟩ := bind_eq_ok.1 h
  obtain ⟨more, rfl, rfl⟩ := octet_behind hversion
  split at h
  · rename_i hfour
    obtain ⟨kind, c, hkind, h⟩ := bind_eq_ok.1 h
    obtain ⟨-, more, rfl, rfl⟩ := number_behind hkind
    obtain ⟨algorithms, c, halgorithms, h⟩ := bind_eq_ok.1 h
    obtain ⟨htwo, more, rfl, rfl⟩ := take_behind halgorithms
    obtain ⟨_, c, hhashed, h⟩ := bind_eq_ok.1 h
    obtain ⟨hashed, more, hlt, rfl, rfl⟩ := readArea_behind hhashed
    obtain ⟨_, c, hunhashed, h⟩ := bind_eq_ok.1 h
    obtain ⟨unhashed, rest, hlt', rfl, rfl⟩ := readArea_behind hunhashed
    exact ⟨⟨UInt8.ofNat kind, algorithms, hashed, unhashed, rest, htwo, hlt, hlt'⟩,
      by simp [SignatureBody.octets, bigEndian, hfour]⟩
  · have hnone := (pure_eq_ok.1 h).1
    simp at hnone

end Octets

section KeyId

/-- A signature without the key id of its issuer. -/
def withoutKeyId (s : SelfSignature) : SelfSignature := { s with issuerKeyId? := none }

@[simp] theorem withoutKeyId_kind (s : SelfSignature) : s.withoutKeyId.kind = s.kind := rfl
@[simp] theorem withoutKeyId_created? (s : SelfSignature) :
    s.withoutKeyId.created? = s.created? := rfl
@[simp] theorem withoutKeyId_keyExpiration? (s : SelfSignature) :
    s.withoutKeyId.keyExpiration? = s.keyExpiration? := rfl
@[simp] theorem withoutKeyId_issuerFingerprint? (s : SelfSignature) :
    s.withoutKeyId.issuerFingerprint? = s.issuerFingerprint? := rfl

theorem exists_of_withoutKeyId_eq (h : s'.withoutKeyId = s.withoutKeyId) :
    ∃ keyId?, s' = { s with issuerKeyId? := keyId? } := by
  refine ⟨s'.issuerKeyId?, ?_⟩
  cases s
  cases s'
  simpa [withoutKeyId] using h

theorem withoutKeyId_readIssuerKeyId (s : SelfSignature) (p : Subpacket) :
    (s.readIssuerKeyId p).withoutKeyId = s.withoutKeyId := by
  rw [readIssuerKeyId]
  split <;> rfl

/-- The area that is not covered changes nothing but the key id. -/
theorem withoutKeyId_ofAreas (kind : Nat) (hashed unhashed : List Subpacket) :
    (ofAreas kind hashed unhashed).withoutKeyId =
      (hashed.foldl readHashed ⟨kind, none, none, none, none⟩).withoutKeyId := by
  rw [ofAreas]
  generalize hashed.foldl readHashed ⟨kind, none, none, none, none⟩ = s
  induction unhashed generalizing s with
  | nil => rfl
  | cons p unhashed ih => rw [List.foldl_cons, ih, withoutKeyId_readIssuerKeyId]

/-- Bodies that differ at most in the area that is not covered give signatures that differ at most
in the key id. -/
theorem withoutKeyId_eq_of_sameButUnhashed {found found' : Option SelfSignature}
    (h : b.SameButUnhashed b') (hb : ofBody b.octets = .ok found)
    (hb' : ofBody b'.octets = .ok found') :
    ∃ s s', found = some s ∧ found' = some s' ∧ s'.withoutKeyId = s.withoutKeyId := by
  obtain ⟨hashed, unhashed, hhashed, -, rfl⟩ := ofBody_eq_ok.1 hb
  obtain ⟨hashed', unhashed', hhashed', -, rfl⟩ := ofBody_eq_ok.1 hb'
  rw [← h.hashed, hhashed] at hhashed'
  obtain rfl := Except.ok.inj hhashed'
  refine ⟨_, _, rfl, rfl, ?_⟩
  rw [withoutKeyId_ofAreas, withoutKeyId_ofAreas, h.kind]

/-- Later subpackets keep that there is a fingerprint. -/
theorem isSome_issuerFingerprint_readHashed (h : s.issuerFingerprint?.isSome) (p : Subpacket) :
    (s.readHashed p).issuerFingerprint?.isSome := by
  rw [readHashed]
  split
  · exact h
  split
  · exact h
  split
  · rfl
  · rw [← withoutKeyId_issuerFingerprint?, withoutKeyId_readIssuerKeyId]
    exact h

theorem isSome_issuerFingerprint_foldl {subpackets : List Subpacket}
    (h : s.issuerFingerprint?.isSome ∨ ∃ p ∈ subpackets,
      p.kind = Subpacket.issuerFingerprintKind ∧ p.value.length = 21) :
    (subpackets.foldl readHashed s).issuerFingerprint?.isSome := by
  induction subpackets generalizing s with
  | nil =>
      rcases h with h | ⟨p, hmem, -⟩
      · exact h
      · cases hmem
  | cons q subpackets ih =>
      refine ih ?_
      rcases h with h | ⟨p, hmem, hkind, hlength⟩
      · exact .inl (isSome_issuerFingerprint_readHashed h q)
      · rcases List.mem_cons.1 hmem with rfl | hmem
        · left
          simp [readHashed, hkind, hlength, Subpacket.issuerFingerprintKind,
            Subpacket.creationTimeKind, Subpacket.keyExpirationKind]
        · exact .inr ⟨p, hmem, hkind, hlength⟩

/-- A fingerprint in the covered area is read. -/
theorem isSome_issuerFingerprint_of_namesIssuer (h : b.NamesIssuer)
    (hb : ofBody b.octets = .ok (some s)) : s.issuerFingerprint?.isSome := by
  obtain ⟨hashed, unhashed, hhashed, -, hs⟩ := ofBody_eq_ok.1 hb
  obtain ⟨subpackets, hsubpackets, hnames⟩ := h
  rw [hhashed] at hsubpackets
  obtain rfl := Except.ok.inj hsubpackets
  have hforgotten : s.withoutKeyId = _ :=
    (congrArg withoutKeyId (Option.some.inj hs)).trans (withoutKeyId_ofAreas _ _ _)
  rw [← withoutKeyId_issuerFingerprint?, hforgotten]
  exact isSome_issuerFingerprint_foldl (.inr hnames)

/-- Where a fingerprint is named, the key id does not matter for the issuer. -/
theorem issuedBy_eq_of_isSome (h : s'.withoutKeyId = s.withoutKeyId)
    (hissuer : s.issuerFingerprint?.isSome) (fingerprint keyId : Bytes) :
    s'.issuedBy fingerprint keyId = s.issuedBy fingerprint keyId := by
  obtain ⟨keyId?, rfl⟩ := exists_of_withoutKeyId_eq h
  obtain ⟨issuer, hissuer⟩ := Option.isSome_iff_exists.1 hissuer
  simp only [issuedBy, hissuer]

end KeyId

end SelfSignature

end ArtifactSigning
