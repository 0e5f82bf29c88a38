import ArtifactSigning.Proofs.Signature.Areas
import ArtifactSigning.Proofs.Signature.Detached
import ArtifactSigning.Proofs.Signature.Fields

/-!
# Properties that are written are read back

A subpacket is read back whatever follows it, in all three forms of its length, so an area is read
as the subpackets that it was written from. Of those the last one of a kind counts, among the ones
whose value has the size of the kind. `SignedProperty` is a property to be written; a finished
signature is read as the time that the generator puts in front of such properties and what they say
(`written_properties_read_back`).
-/
namespace ArtifactSigning

open Step

/-- A property of a signature: its kind, its value, and whether it must be understood. -/
structure SignedProperty where
  kind : Nat
  value : Bytes
  critical : Bool
  kind_lt : kind < 128

namespace SignedProperty

def encode (p : SignedProperty) : Except Failure Bytes :=
  Subpacket.encode p.kind p.value p.critical

/-- The subpacket that is written. -/
def subpacket (p : SignedProperty) : Subpacket := ⟨Subpacket.markedKind p.kind p.critical, p.value⟩

/-- The value of a property, if it has the given kind and size. -/
def valueOf? (p : SignedProperty) (kind size : Nat) : Option Bytes :=
  if p.kind = kind ∧ p.value.length = size then some p.value else none

/-- The value of the last property of a kind that has the given size. -/
def lastValue? (properties : List SignedProperty) (kind size : Nat) : Option Bytes :=
  (properties.filterMap (·.valueOf? kind size)).getLast?

/-- When a signature was made. -/
def creationTime (time : Nat) : SignedProperty where
  kind := Subpacket.creationTimeKind
  value := bigEndian 4 time
  critical := false
  kind_lt := by decide

@[simp] theorem subpacket_value (p : SignedProperty) : p.subpacket.value = p.value := rfl

/-- The mark is no part of the kind. -/
@[simp] theorem subpacket_kind (p : SignedProperty) : p.subpacket.kind = p.kind := by
  have hkind : p.kind % 256 = p.kind := Nat.mod_eq_of_lt (by have := p.kind_lt; omega)
  have hmod : p.kind % 2 ^ 7 = p.kind := Nat.mod_eq_of_lt p.kind_lt
  change (Subpacket.markedKind p.kind p.critical).toNat % 2 ^ 7 = p.kind
  rw [Subpacket.markedKind]
  split
  · rw [UInt8.toNat_or, UInt8.toNat_ofNat', hkind, Nat.or_mod_two_pow, hmod]
    exact Nat.or_zero _
  · rw [UInt8.toNat_ofNat', hkind, hmod]

@[simp] theorem lastValue?_nil (kind size : Nat) : lastValue? [] kind size = none := rfl

theorem lastValue?_cons (p : SignedProperty) (properties : List SignedProperty) (kind size : Nat) :
    lastValue? (p :: properties) kind size =
      (lastValue? properties kind size).or (p.valueOf? kind size) := by
  rw [lastValue?, List.filterMap_cons, lastValue?]
  cases p.valueOf? kind size with
  | none => rw [Option.or_none]
  | some value => rw [List.getLast?_cons]; cases List.getLast? _ <;> rfl

end SignedProperty

namespace Subpacket

variable {n : Nat} {form rest : Bytes} {p : SignedProperty}

/-- A length is read back. The writer keeps to first octets below 224 for the length in two octets;
the reader takes all below 255. -/
theorem length?_of_encodeLength (h : encodeLength n = .ok form) (rest : Bytes) :
    length? (form ++ rest) = some (n, rest) := by
  rw [encodeLength] at h
  split at h
  · rename_i hone
    cases h
    have hn := Packet.toNat_ofNat (n := n) (by omega)
    simp [length?, hn, hone]
  split at h
  · rename_i hone htwo
    cases h
    have hfirst : (UInt8.ofNat ((n - 192 + 192 * 256) / 256)).toNat = (n - 192) / 256 + 192 := by
      rw [Packet.toNat_ofNat (by omega)]
      omega
    have hsecond : (UInt8.ofNat (n - 192 + 192 * 256)).toNat = (n - 192) % 256 := by
      rw [UInt8.toNat_ofNat']
      omega
    have hge : ¬(n - 192) / 256 + 192 < 192 := by omega
    have hlt : (n - 192) / 256 + 192 < 255 := by omega
    have hsum : ((n - 192) / 256 + 192 - 192) * 256 + (n - 192) % 256 + 192 = n := by omega
    simp only [bigEndian, Nat.pow_one, Nat.pow_zero, Nat.div_one, List.cons_append,
      List.nil_append, length?, hfirst, hsecond, if_neg hge, if_pos hlt, hsum]
  split at h
  · rename_i hfull
    cases h
    have hnumber : Packet.cutNumber 4 (bigEndian 4 n ++ rest) = some (n, rest) :=
      Packet.cutNumber_eq_some_iff.2 ⟨by omega, rfl⟩
    simp [length?, hnumber]
  · cases h

theorem readAll_nil : readAll [] = .ok [] := by rw [readAll, if_pos rfl]

/-- Behind its length a subpacket is cut off, and the area is read on. -/
theorem readAll_of_length {area value : Bytes} {kindOctet : UInt8}
    (h : length? area = some (value.length + 1, kindOctet :: value ++ rest)) :
    readAll area = (readAll rest).map (⟨kindOctet, value⟩ :: ·) := by
  have hne : area ≠ [] := by
    rintro rfl
    cases h
  have hcut : Packet.cut (value.length + 1) (kindOctet :: value ++ rest) =
      some (kindOctet :: value, rest) := Packet.cut_eq_some_iff.2 ⟨rfl, rfl⟩
  rw [readAll, if_neg hne]
  split
  · rename_i hnone
    rw [h] at hnone
    cases hnone
  · rename_i hsome
    rw [h] at hsome
    cases hsome
    rw [if_neg (Nat.succ_ne_zero _)]
    split <;> rename_i heq <;> rw [hcut] at heq <;> cases heq
    rfl

/-- A subpacket is read back, whatever follows it. -/
theorem readAll_encode (h : p.encode = .ok form) (rest : Bytes) :
    readAll (form ++ rest) = (readAll rest).map (p.subpacket :: ·) := by
  rw [SignedProperty.encode, encode] at h
  split at h
  · cases h
  obtain ⟨length, hlength, h⟩ := except_bind_eq_ok.1 h
  cases h
  refine readAll_of_length ?_
  rw [List.append_assoc]
  exact length?_of_encodeLength hlength _

/-- An area is read as the subpackets that it was written from. -/
theorem readAll_flatten {properties : List SignedProperty} {forms : List Bytes}
    (h : properties.mapM SignedProperty.encode = .ok forms) :
    readAll forms.flatten = .ok (properties.map (·.subpacket)) := by
  induction properties generalizing forms with
  | nil =>
      obtain rfl := Except.ok.inj h
      exact readAll_nil
  | cons p properties ih =>
      rw [List.mapM_cons] at h
      obtain ⟨form, hform, h⟩ := except_bind_eq_ok.1 h
      obtain ⟨rest, hrest, h⟩ := except_bind_eq_ok.1 h
      cases h
      rw [List.flatten_cons, readAll_encode hform, ih hrest]
      rfl

end Subpacket

namespace SelfSignature

/-- Takes over the values that are there for the kinds that matter, each in its size. -/
def takeOver (s : SelfSignature) (value? : (kind size : Nat) → Option Bytes) : SelfSignature where
  kind := s.kind
  created? := ((value? Subpacket.creationTimeKind 4).map ofBigEndian).or s.created?
  keyExpiration? := ((value? Subpacket.keyExpirationKind 4).map ofBigEndian).or s.keyExpiration?
  issuerFingerprint? :=
    ((value? Subpacket.issuerFingerprintKind 21).map (·.drop 1)).or s.issuerFingerprint?
  issuerKeyId? := (value? Subpacket.issuerKeyIdKind 8).or s.issuerKeyId?

variable {value? later? : (kind size : Nat) → Option Bytes}

/-- Of two values for a kind the later one counts. -/
theorem takeOver_takeOver (s : SelfSignature) :
    (s.takeOver value?).takeOver later? =
      s.takeOver fun kind size => (later? kind size).or (value? kind size) := by
  simp only [takeOver, Option.map_or, Option.or_assoc]

/-- One written subpacket: its value is taken over, if its kind matters and its size is right. -/
theorem readHashed_subpacket (s : SelfSignature) (p : SignedProperty) :
    s.readHashed p.subpacket = s.takeOver p.valueOf? := by
  simp only [readHashed, readIssuerKeyId, SignedProperty.subpacket_kind,
    SignedProperty.subpacket_value, takeOver, SignedProperty.valueOf?,
    Subpacket.creationTimeKind, Subpacket.keyExpirationKind, Subpacket.issuerFingerprintKind,
    Subpacket.issuerKeyIdKind]
  -- The kinds differ, so at most one of the four values is there.
  split
  · rename_i h
    simp [h]
  split
  · rename_i h
    simp [h]
  split
  · rename_i h
    simp [h]
  split
  · rename_i h
    simp [h]
  · rename_i h₁ h₂ h₃ h₄
    simp [h₁, h₂, h₃, h₄]

/-- The creation time is the only property that a generator adds. -/
theorem readHashed_creationTime {kind time : Nat} (h : time < 256 ^ 4) :
    readHashed ⟨kind, none, none, none, none⟩ (SignedProperty.creationTime time).subpacket =
      ⟨kind, some time, none, none, none⟩ := by
  have hvalue : ofBigEndian (bigEndian 4 time) = time := by
    rw [ofBigEndian_bigEndian, Nat.mod_eq_of_lt h]
  rw [readHashed, if_pos ⟨SignedProperty.subpacket_kind _, length_bigEndian _ _⟩]
  exact congrArg (fun created => SelfSignature.mk kind (some created) none none none) hvalue

/-- All written subpackets: of each kind the last value in the right size is taken over. -/
theorem foldl_readHashed (s : SelfSignature) (properties : List SignedProperty) :
    (properties.map (·.subpacket)).foldl readHashed s =
      s.takeOver (SignedProperty.lastValue? properties) := by
  induction properties generalizing s with
  | nil => rfl
  | cons p properties ih =>
      rw [List.map_cons, List.foldl_cons, ih, readHashed_subpacket, takeOver_takeOver]
      simp only [← SignedProperty.lastValue?_cons]

end SelfSignature

namespace SignatureGenerator

variable {g : SignatureGenerator} {created : Int} {header : Bytes} {s : DetachedSignature}

/-- A signature is finished if and only if the key signs the digest. -/
theorem exists_finish_iff (hcurve : g.key.HasOwnCurve) (hheader : g.header created = .ok header) :
    (∃ s, g.finish created = .ok s) ↔
      ∃ fields, g.key.sign (g.digest header) g.hash.id = .ok fields := by
  constructor
  · rintro ⟨s, h⟩
    obtain ⟨hheader', hdigest, hsign, -⟩ := finish_eq_ok h
    rw [hheader] at hheader'
    obtain rfl := Except.ok.inj hheader'
    exact ⟨s.fields, hdigest ▸ hsign⟩
  · rintro ⟨fields, hsign⟩
    obtain ⟨-, -, harea, rfl⟩ := header_eq_ok.1 hheader
    have hfields := PrivateKey.length_of_sign hcurve hsign
    refine exists_finish hheader hsign ?_
    simp only [octetsFor, maxIntegerBits] at hfields
    simp only [List.length_append, List.length_cons, List.length_nil, length_bigEndian]
    omega

/-- A finished signature is one packet, whose body has the signed properties in the area that is
covered and nothing in the other one. -/
theorem exists_body_of_finish (h : g.finish created = .ok s) :
    ∃ b : SignatureBody, b.kind = UInt8.ofNat g.kind.toNat ∧ b.hashed = g.area created ∧
      b.unhashed = [] ∧ Packet.scan s.packet = ⟨[⟨2, b.octets⟩], none⟩ := by
  obtain ⟨hheader, -, -, hframe⟩ := finish_eq_ok h
  obtain ⟨-, -, harea, hform⟩ := header_eq_ok.1 hheader
  let b : SignatureBody := {
    kind := UInt8.ofNat g.kind.toNat
    algorithms := [UInt8.ofNat g.key.algorithm.id, UInt8.ofNat g.hash.id]
    hashed := g.area created
    unhashed := []
    rest := s.digest.take 2 ++ s.fields
    algorithms_length := rfl
    hashed_lt := harea
    unhashed_lt := by decide }
  have hbody : s.header ++ [0, 0] ++ s.digest.take 2 ++ s.fields = b.octets := by
    rw [← hform]
    simp only [b, SignatureBody.octets, areaForm, List.append_assoc, List.cons_append,
      List.nil_append]
    rfl
  refine ⟨b, rfl, rfl, rfl, ?_⟩
  rw [← hbody, Packet.scan_complete_iff, ← List.append_nil s.packet]
  exact .cons hframe .nil

variable {kind time : Nat} {hash : HashAlgorithm} {properties : List SignedProperty}
  {forms : List Bytes}

theorem start_id (key : PrivateKey) (kind : Int) (hash : HashAlgorithm) (forms : List Bytes) :
    start key kind hash.id forms =
      .ok ⟨key, kind, hash, forms.flatten, hash.blockHash.start⟩ := by
  simp only [start, HashAlgorithm.ofId, HashAlgorithm.ofId?_id]
  rfl

/-- The covered area is read as the creation time and the properties behind it. -/
theorem readAll_area (hforms : properties.mapM SignedProperty.encode = .ok forms)
    (hg : g.properties = forms.flatten) :
    Subpacket.readAll (g.area created) =
      .ok ((SignedProperty.creationTime created.toNat :: properties).map (·.subpacket)) := by
  have htime : (SignedProperty.creationTime created.toNat).encode =
      .ok ([0x05, 0x02] ++ bigEndian 4 created.toNat) := Subpacket.encode_creationTime _
  rw [area, hg, Subpacket.readAll_encode htime, Subpacket.readAll_flatten hforms]
  rfl

/-- A finished signature is read as its own time and what its properties say. -/
theorem ofBody_of_finish (hkind : g.kind = kind)
    (hforms : properties.mapM SignedProperty.encode = .ok forms)
    (hg : g.properties = forms.flatten) (h : g.finish time = .ok s) :
    ∃ body, Packet.scan s.packet = ⟨[⟨2, body⟩], none⟩ ∧
      SelfSignature.ofBody body = .ok (some (SelfSignature.takeOver
        ⟨kind, some time, none, none, none⟩ (SignedProperty.lastValue? properties))) := by
  obtain ⟨hheader, -⟩ := finish_eq_ok h
  obtain ⟨⟨-, htime⟩, ⟨-, hkind'⟩, -⟩ := header_eq_ok.1 hheader
  obtain ⟨b, hb, hhashed, hunhashed, hscan⟩ := exists_body_of_finish h
  have hnat : b.kind.toNat = kind := by
    rw [hb, hkind, Int.toNat_natCast, Packet.toNat_ofNat (by omega)]
  refine ⟨_, hscan, SelfSignature.ofBody_eq_ok.2 ⟨_, [], hhashed ▸ readAll_area hforms hg,
    hunhashed ▸ Subpacket.readAll_nil, ?_⟩⟩
  rw [SelfSignature.ofAreas, List.foldl_nil, List.map_cons, List.foldl_cons, Int.toNat_natCast,
    SelfSignature.readHashed_creationTime (by omega), SelfSignature.foldl_readHashed, hnat]

/-- With any properties that fit the area, a generator starts, and after any document it finishes a
signature if and only if the key signs the digest. The body of the packet is read as the kind of the
signature and the last value in the right size of each property that matters; the generator's own
time counts if the given properties have none. -/
theorem written_properties_read_back (key : PrivateKey) (kind time : Nat) (hash : HashAlgorithm)
    (hkind : kind ≤ 255) (htime : time < 2 ^ 32)
    (hforms : properties.mapM SignedProperty.encode = .ok forms)
    (harea : 6 + forms.flatten.length ≤ 65535) :
    ∃ empty, start key kind hash.id forms = .ok empty ∧ ∀ chunks : List Bytes,
      let g := chunks.foldl (·.update ·) empty
      (∃ header, g.header time = .ok header ∧
        (key.HasOwnCurve → ((∃ s, g.finish time = .ok s) ↔
          ∃ fields, key.sign (g.digest header) hash.id = .ok fields))) ∧
      ∀ s, g.finish time = .ok s → ∃ body, Packet.scan s.packet = ⟨[⟨2, body⟩], none⟩ ∧
        SelfSignature.ofBody body = .ok (some
          { kind
            created? := ((SignedProperty.lastValue? properties Subpacket.creationTimeKind 4).map
              ofBigEndian).or (some time)
            keyExpiration? :=
              (SignedProperty.lastValue? properties Subpacket.keyExpirationKind 4).map ofBigEndian
            issuerFingerprint? :=
              (SignedProperty.lastValue? properties Subpacket.issuerFingerprintKind 21).map
                (·.drop 1)
            issuerKeyId? :=
              SignedProperty.lastValue? properties Subpacket.issuerKeyIdKind 8 }) := by
  refine ⟨_, start_id key kind hash forms, fun chunks => ?_⟩
  rw [foldl_update]
  intro g
  have hlength : (g.area time).length = 6 + forms.flatten.length := by
    change ([0x05, 0x02] ++ bigEndian 4 _ ++ forms.flatten).length = _
    rw [List.length_append, List.length_append, length_bigEndian]
    rfl
  have hheader : g.header time = .ok _ := header_eq_ok.2
    ⟨by omega, (by omega : 0 ≤ (kind : Int) ∧ (kind : Int) ≤ 255), by omega, rfl⟩
  refine ⟨⟨_, hheader, fun hcurve => exists_finish_iff hcurve hheader⟩, fun s h => ?_⟩
  simpa only [SelfSignature.takeOver, Option.or_none] using ofBody_of_finish rfl hforms rfl h

/-- Two expirations in the right size and one that is too short, a fingerprint, a key id that is too
long, and a property of another kind with a length in two octets. -/
theorem written_properties_read_back_last_wins :
    ∃ (properties : List SignedProperty) (forms : List Bytes),
      properties.map (·.value.length) = [4, 4, 3, 21, 9, 200] ∧
      properties.mapM SignedProperty.encode = .ok forms ∧
      6 + forms.flatten.length ≤ 65535 ∧
      ∃ empty s body,
        start ⟨.ed25519, .edwards .ed25519 (List.replicate 32 1)⟩ 0x13 HashAlgorithm.sha512.id
          forms = .ok empty ∧
        (empty.update [0x61]).finish 5 = .ok s ∧ Packet.scan s.packet = ⟨[⟨2, body⟩], none⟩ ∧
        SelfSignature.ofBody body =
          .ok (some ⟨0x13, some 5, some 20, some (List.replicate 20 7), none⟩) := by
  let properties : List SignedProperty :=
    [⟨9, [0, 0, 0, 10], false, by decide⟩, ⟨9, [0, 0, 0, 20], true, by decide⟩,
      ⟨9, [0, 0, 30], false, by decide⟩, ⟨33, 4 :: List.replicate 20 7, true, by decide⟩,
      ⟨16, List.replicate 9 8, false, by decide⟩, ⟨100, List.replicate 200 0, false, by decide⟩]
  let forms : List Bytes :=
    [[5, 9, 0, 0, 0, 10], [5, 0x89, 0, 0, 0, 20], [4, 9, 0, 0, 30],
      22 :: 0xA1 :: 4 :: List.replicate 20 7, 10 :: 16 :: List.replicate 9 8,
      0xC0 :: 9 :: 100 :: List.replicate 200 0]
  have hforms : properties.mapM SignedProperty.encode = .ok forms := by
    set_option maxRecDepth 4000 in rfl
  have harea : 6 + forms.flatten.length ≤ 65535 := by decide +kernel
  have hcurve : PrivateKey.HasOwnCurve ⟨.ed25519, .edwards .ed25519 (List.replicate 32 1)⟩ := by
    intro curve seed h
    cases h
    exact .inr ⟨by decide, rfl⟩
  obtain ⟨empty, hempty, hread⟩ := written_properties_read_back
    ⟨.ed25519, .edwards .ed25519 (List.replicate 32 1)⟩ 0x13 5 .sha512 (by decide) (by decide)
    hforms harea
  obtain ⟨⟨header, -, hfinish⟩, hread⟩ := hread [[0x61]]
  obtain ⟨s, hs⟩ := (hfinish hcurve).2 ⟨_, rfl⟩
  obtain ⟨body, hscan, hbody⟩ := hread s hs
  exact ⟨properties, forms, by decide +kernel, hforms, harea, empty, s, body, hempty, hs, hscan,
    hbody⟩

end SignatureGenerator

end ArtifactSigning
