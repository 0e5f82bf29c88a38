import ArtifactSigning.Proofs.Key.Concatenation
import ArtifactSigning.Proofs.Signature.Areas

/-!
# What the area that no signature covers can change

Two sequences of packets are compared that differ only in areas which no signature covers, of
signatures that name the fingerprint of their issuer in the covered area. Forgetting the key ids of
the issuers, the rings grow alike with every packet (`Growing.withoutKeyIds_add`), so they are the
same in the end; and no key's validity nor the choice of a key depends on what is forgotten.
-/
namespace ArtifactSigning

namespace SecretKey

/-- A key whose self-signatures have no key ids of their issuers. -/
def withoutKeyIds (key : SecretKey) : SecretKey :=
  { key with selfSignatures := key.selfSignatures.map SelfSignature.withoutKeyId }

variable {key key' : SecretKey}

@[simp] theorem withoutKeyIds_fingerprint (key : SecretKey) :
    key.withoutKeyIds.fingerprint = key.fingerprint := rfl
@[simp] theorem withoutKeyIds_keyId (key : SecretKey) : key.withoutKeyIds.keyId = key.keyId := rfl
@[simp] theorem withoutKeyIds_created (key : SecretKey) :
    key.withoutKeyIds.created = key.created := rfl
@[simp] theorem withoutKeyIds_hasPrivatePart (key : SecretKey) :
    key.withoutKeyIds.hasPrivatePart = key.hasPrivatePart := rfl

theorem withoutKeyId_later (best s : SelfSignature) :
    (later best s).withoutKeyId = later best.withoutKeyId s.withoutKeyId := by
  rw [later, later, SelfSignature.withoutKeyId_created?, SelfSignature.withoutKeyId_created?]
  split <;> rfl

theorem withoutKeyId_foldl_later (best : SelfSignature) (signatures : List SelfSignature) :
    (signatures.foldl later best).withoutKeyId =
      (signatures.map SelfSignature.withoutKeyId).foldl later best.withoutKeyId := by
  induction signatures generalizing best with
  | nil => rfl
  | cons s signatures ih =>
      rw [List.foldl_cons, ih, withoutKeyId_later, List.map_cons, List.foldl_cons]

/-- The newest self-signature is found without key ids. -/
theorem newestSelfSignature?_withoutKeyIds (key : SecretKey) :
    key.withoutKeyIds.newestSelfSignature? =
      key.newestSelfSignature?.map SelfSignature.withoutKeyId := by
  have hfilter : key.withoutKeyIds.selfSignatures.filter
      (fun s => key.withoutKeyIds.validityKinds.contains s.kind) =
        (key.selfSignatures.filter fun s => key.validityKinds.contains s.kind).map
          SelfSignature.withoutKeyId := List.filter_map
  rw [newestSelfSignature?, newestSelfSignature?, hfilter]
  cases key.selfSignatures.filter fun s => key.validityKinds.contains s.kind with
  | nil => rfl
  | cons first others => exact congrArg some (withoutKeyId_foldl_later first others).symm

@[simp] theorem validSeconds_withoutKeyIds (key : SecretKey) :
    key.withoutKeyIds.validSeconds = key.validSeconds := by
  rw [validSeconds, validSeconds, newestSelfSignature?_withoutKeyIds]
  cases key.newestSelfSignature? <;> rfl

@[simp] theorem expiresAt?_withoutKeyIds (key : SecretKey) :
    key.withoutKeyIds.expiresAt? = key.expiresAt? := by
  rw [expiresAt?, expiresAt?, validSeconds_withoutKeyIds, withoutKeyIds_created]

end SecretKey

namespace KeyRing

open Packet Step

/-- A ring whose self-signatures have no key ids of their issuers. -/
def withoutKeyIds (ring : KeyRing) : KeyRing :=
  ⟨ring.primary.withoutKeyIds, ring.subkeys.map SecretKey.withoutKeyIds⟩

def Growing.withoutKeyIds (ring : Growing) : Growing :=
  ⟨ring.primary.withoutKeyIds, ring.subkeys.map SecretKey.withoutKeyIds, ring.onSubkey⟩

def Assembly.withoutKeyIds (assembly : Assembly) : Assembly :=
  ⟨assembly.complete.map KeyRing.withoutKeyIds, assembly.growing?.map Growing.withoutKeyIds⟩

/-- Packets that differ at most in the area of a signature that it does not cover, where it names
the fingerprint of its issuer in the other one. -/
inductive SameSigned : Packet → Packet → Prop
  | same (packet : Packet) : SameSigned packet packet
  | unhashed {b b' : SignatureBody} (h : b.SameButUnhashed b') (hissuer : b.NamesIssuer) :
      SameSigned ⟨signatureTag, b.octets⟩ ⟨signatureTag, b'.octets⟩

section Growth

variable {packet packet' : Packet} {ring ring' grown grown' : Growing}
  {assembly assembly' next next' : Assembly} {s s' : SelfSignature}

theorem Growing.withoutKeyIds_finish (ring : Growing) :
    ring.finish.withoutKeyIds = ring.withoutKeyIds.finish := by
  simp [finish, settled, KeyRing.withoutKeyIds, Growing.withoutKeyIds, SecretKey.withoutKeyIds]

theorem Assembly.withoutKeyIds_reversed (assembly : Assembly) :
    assembly.reversed.map KeyRing.withoutKeyIds = assembly.withoutKeyIds.reversed := by
  obtain ⟨complete, growing?⟩ := assembly
  cases growing? with
  | none => rfl
  | some ring => exact congrArg (· :: _) ring.withoutKeyIds_finish

theorem Growing.withoutKeyIds_addSignature (ring : Growing) (s : SelfSignature) :
    (ring.addSignature s).withoutKeyIds = ring.withoutKeyIds.addSignature s.withoutKeyId := by
  obtain ⟨primary, subkeys, onSubkey⟩ := ring
  cases onSubkey <;> cases subkeys <;> rfl

/-- A signature goes to the same place, if it is issued by the same key. -/
theorem Growing.withoutKeyIds_attach (hring : ring'.withoutKeyIds = ring.withoutKeyIds)
    (hs : s'.withoutKeyId = s.withoutKeyId)
    (hissued : ∀ fingerprint keyId, s'.issuedBy fingerprint keyId = s.issuedBy fingerprint keyId) :
    (ring'.attach (some s')).withoutKeyIds = (ring.attach (some s)).withoutKeyIds := by
  have hprimary : ring'.primary.withoutKeyIds = ring.primary.withoutKeyIds :=
    congrArg Growing.primary hring
  rw [attach, attach, hissued, ← ring'.primary.withoutKeyIds_fingerprint,
    ← ring'.primary.withoutKeyIds_keyId, hprimary, SecretKey.withoutKeyIds_fingerprint,
    SecretKey.withoutKeyIds_keyId]
  split
  · rw [withoutKeyIds_addSignature, withoutKeyIds_addSignature, hring, hs]
  · exact hring

/-- The same packet makes rings grow alike. -/
theorem Growing.withoutKeyIds_add_same (hring : ring'.withoutKeyIds = ring.withoutKeyIds)
    (packet : Packet) :
    withoutKeyIds <$> ring'.add packet = withoutKeyIds <$> ring.add packet := by
  by_cases hsignature : packet.tag = signatureTag
  · rw [add_signature _ hsignature, add_signature _ hsignature]
    cases SelfSignature.ofBody packet.body with
    | error failure => rfl
    | ok found =>
        cases found with
        | none => exact congrArg Except.ok hring
        | some s =>
            exact congrArg Except.ok (withoutKeyIds_attach hring rfl fun _ _ => rfl)
  have hprimary : ring'.primary.withoutKeyIds = ring.primary.withoutKeyIds :=
    congrArg Growing.primary hring
  have hsubkeys : ring'.subkeys.map SecretKey.withoutKeyIds =
      ring.subkeys.map SecretKey.withoutKeyIds := congrArg Growing.subkeys hring
  rw [add, add]
  split
  · cases SecretKey.ofBody packet.body true with
    | error failure => rfl
    | ok subkey =>
        refine congrArg Except.ok ?_
        simp only [withoutKeyIds, List.map_cons, hprimary, hsubkeys]
  split
  · have hnamed (text : String) : ({ ring'.primary with
        userIds := text :: ring'.primary.userIds } : SecretKey).withoutKeyIds =
          ({ ring.primary with userIds := text :: ring.primary.userIds } :
            SecretKey).withoutKeyIds :=
      congrArg (fun key : SecretKey => { key with userIds := text :: key.userIds }) hprimary
    refine congrArg Except.ok ?_
    simp only [withoutKeyIds, hsubkeys, hnamed]
  split
  · refine congrArg Except.ok ?_
    simp only [withoutKeyIds, hprimary, hsubkeys]
  · exact congrArg Except.ok hring

/-- Two packets that differ in an area that is not covered make rings grow alike. -/
theorem Growing.withoutKeyIds_add (hpacket : SameSigned packet packet')
    (hring : ring'.withoutKeyIds = ring.withoutKeyIds) (hadd : ring.add packet = .ok grown)
    (hadd' : ring'.add packet' = .ok grown') : grown'.withoutKeyIds = grown.withoutKeyIds := by
  cases hpacket with
  | same packet =>
      have h := withoutKeyIds_add_same hring packet
      rw [hadd, hadd'] at h
      exact Except.ok.inj h
  | @unhashed b b' h hissuer =>
      rw [add_signature _ rfl] at hadd hadd'
      obtain ⟨found, hb, hgrown⟩ := except_bind_eq_ok.1 hadd
      obtain ⟨found', hb', hgrown'⟩ := except_bind_eq_ok.1 hadd'
      obtain ⟨s, s', rfl, rfl, hs⟩ := SelfSignature.withoutKeyId_eq_of_sameButUnhashed h hb hb'
      have hnamed := SelfSignature.isSome_issuerFingerprint_of_namesIssuer hissuer hb
      rw [← Except.ok.inj hgrown, ← Except.ok.inj hgrown']
      exact withoutKeyIds_attach hring hs (SelfSignature.issuedBy_eq_of_isSome hs hnamed)

theorem SameSigned.tag_eq (h : SameSigned packet packet') : packet'.tag = packet.tag := by
  cases h <;> rfl

/-- A step keeps that two assemblies agree but for the key ids. -/
theorem Assembly.withoutKeyIds_step (hpacket : SameSigned packet packet')
    (h : assembly'.withoutKeyIds = assembly.withoutKeyIds)
    (hstep : assembly.step packet = .ok next) (hstep' : assembly'.step packet' = .ok next') :
    next'.withoutKeyIds = next.withoutKeyIds := by
  by_cases hopens : packet.tag = secretKeyTag
  · have hopens' : packet'.tag = secretKeyTag := hpacket.tag_eq.trans hopens
    obtain ⟨primary, hread, rfl⟩ := (step_key_eq_ok hopens).1 hstep
    obtain ⟨primary', hread', rfl⟩ := (step_key_eq_ok hopens').1 hstep'
    cases hpacket with
    | unhashed => cases hopens
    | same =>
        obtain rfl := Except.ok.inj (hread.symm.trans hread')
        rw [withoutKeyIds, withoutKeyIds, withoutKeyIds_reversed, withoutKeyIds_reversed, h]
  · have hopens' : packet'.tag ≠ secretKeyTag := fun h => hopens (hpacket.tag_eq.symm.trans h)
    have hcomplete : assembly'.complete.map KeyRing.withoutKeyIds =
        assembly.complete.map KeyRing.withoutKeyIds := congrArg Assembly.complete h
    have hgrowing : assembly'.growing?.map Growing.withoutKeyIds =
        assembly.growing?.map Growing.withoutKeyIds := congrArg Assembly.growing? h
    obtain ⟨-, hcases⟩ := (step_other_eq_ok hopens).1 hstep
    obtain ⟨-, hcases'⟩ := (step_other_eq_ok hopens').1 hstep'
    rcases hcases with ⟨hnone, -, rfl⟩ | ⟨ring, grown, hsome, hadd, rfl⟩ <;>
    rcases hcases' with ⟨hnone', -, rfl⟩ | ⟨ring', grown', hsome', hadd', rfl⟩
    · exact h
    · simp [hnone, hsome'] at hgrowing
    · simp [hnone', hsome] at hgrowing
    · rw [hsome, hsome'] at hgrowing
      have hgrown := Growing.withoutKeyIds_add hpacket (Option.some.inj hgrowing) hadd hadd'
      simp only [withoutKeyIds, hcomplete, Option.map_some, hgrown]

/-- A whole run, packet after packet. -/
theorem Assembly.withoutKeyIds_run {packets packets' : List Packet}
    (hpackets : List.Forall₂ SameSigned packets packets')
    (h : assembly'.withoutKeyIds = assembly.withoutKeyIds)
    (hrun : packets.foldlM Assembly.step assembly = .ok next)
    (hrun' : packets'.foldlM Assembly.step assembly' = .ok next') :
    next'.withoutKeyIds = next.withoutKeyIds := by
  induction hpackets generalizing assembly assembly' with
  | nil =>
      obtain rfl := Except.ok.inj hrun
      obtain rfl := Except.ok.inj hrun'
      exact h
  | cons hpacket hpackets ih =>
      rw [List.foldlM_cons] at hrun hrun'
      obtain ⟨middle, hstep, hrun⟩ := except_bind_eq_ok.1 hrun
      obtain ⟨middle', hstep', hrun'⟩ := except_bind_eq_ok.1 hrun'
      exact ih (withoutKeyIds_step hpacket h hstep hstep') hrun hrun'

end Growth

section Rings

variable {rings rings' : List KeyRing} {packets packets' : List Packet}

theorem withoutKeyIds_of_ofPackets (hpackets : List.Forall₂ SameSigned packets packets')
    (h : ofPackets packets = .ok rings) (h' : ofPackets packets' = .ok rings') :
    rings'.map withoutKeyIds = rings.map withoutKeyIds := by
  obtain ⟨assembly, hrun, -, rfl⟩ := ofPackets_eq_ok_iff.1 h
  obtain ⟨assembly', hrun', -, rfl⟩ := ofPackets_eq_ok_iff.1 h'
  rw [List.map_reverse, List.map_reverse, Assembly.withoutKeyIds_reversed,
    Assembly.withoutKeyIds_reversed, Assembly.withoutKeyIds_run hpackets rfl hrun hrun']

theorem map_withoutKeyIds_allKeys (rings : List KeyRing) :
    (allKeys rings).map SecretKey.withoutKeyIds = allKeys (rings.map withoutKeyIds) := by
  rw [allKeys, allKeys, List.map_flatMap, List.flatMap_map]
  rfl

theorem forall₂_of_map_eq {f : α → β} {xs ys : List α} (h : xs.map f = ys.map f) :
    List.Forall₂ (fun x y => f x = f y) xs ys := by
  rw [← List.forall₂_eq_eq_eq, List.forall₂_map_left_iff, List.forall₂_map_right_iff] at h
  exact h

/-- In lists that a condition does not tell apart the same place is found. -/
theorem find?_at_same_place {condition : α → Bool} {xs ys : List α}
    (h : List.Forall₂ (fun x y => condition x = condition y) xs ys) :
    ∃ place? : Option Nat, xs.find? condition = place?.bind (xs[·]?) ∧
      ys.find? condition = place?.bind (ys[·]?) := by
  have hplace : xs.findIdx? condition = ys.findIdx? condition := by
    induction h with
    | nil => rfl
    | cons hxy h ih => rw [List.findIdx?_cons, List.findIdx?_cons, hxy, ih]
  refine ⟨xs.findIdx? condition, List.find?_eq_bind_findIdx?_getElem?, ?_⟩
  rw [hplace]
  exact List.find?_eq_bind_findIdx?_getElem?

/-- The choice of a key does not depend on key ids of issuers. -/
theorem select?_at_same_place (h : rings.map withoutKeyIds = rings'.map withoutKeyIds)
    (fingerprint? : Option Bytes) :
    ∃ place? : Option Nat, select? rings fingerprint? = place?.bind ((allKeys rings)[·]?) ∧
      select? rings' fingerprint? = place?.bind ((allKeys rings')[·]?) := by
  have hkeys : (allKeys rings).map SecretKey.withoutKeyIds =
      (allKeys rings').map SecretKey.withoutKeyIds := by
    rw [map_withoutKeyIds_allKeys, map_withoutKeyIds_allKeys, h]
  refine find?_at_same_place ((forall₂_of_map_eq hkeys).imp fun key key' hkey => ?_)
  cases fingerprint? with
  | none =>
      change key.hasPrivatePart = key'.hasPrivatePart
      rw [← key.withoutKeyIds_hasPrivatePart, hkey, key'.withoutKeyIds_hasPrivatePart]
  | some fingerprint =>
      change decide (key.fingerprint = fingerprint) = decide (key'.fingerprint = fingerprint)
      rw [← key.withoutKeyIds_fingerprint, hkey, key'.withoutKeyIds_fingerprint]

/-- The area that no signature covers changes no key's validity: from two bodies that differ in it
alone the same is read but for the key id, and where the covered area names the fingerprint of the
issuer, two accepted pieces of key material have the same rings but for the key ids, keys that are
valid for the same time, and the same key is chosen. -/
theorem validity_behind_unhashed_areas :
    (∀ b b' found found', SignatureBody.SameButUnhashed b b' →
      SelfSignature.ofBody b.octets = .ok found → SelfSignature.ofBody b'.octets = .ok found' →
        ∃ s keyId?, found = some s ∧ found' = some { s with issuerKeyId? := keyId? }) ∧
      ∀ material material' packets packets' rings rings', Holds material packets →
        Holds material' packets' → List.Forall₂ SameSigned packets packets' →
          ofMaterial material = .ok rings → ofMaterial material' = .ok rings' →
            rings.map withoutKeyIds = rings'.map withoutKeyIds ∧
              List.Forall₂ (fun key key' => key.validSeconds = key'.validSeconds ∧
                key.expiresAt? = key'.expiresAt?) (allKeys rings) (allKeys rings') ∧
              ∀ fingerprint?, ∃ place? : Option Nat,
                select? rings fingerprint? = place?.bind ((allKeys rings)[·]?) ∧
                  select? rings' fingerprint? = place?.bind ((allKeys rings')[·]?) := by
  constructor
  · intro b b' found found' h hb hb'
    obtain ⟨s, s', hs, hs', hsame⟩ := SelfSignature.withoutKeyId_eq_of_sameButUnhashed h hb hb'
    obtain ⟨keyId?, rfl⟩ := SelfSignature.exists_of_withoutKeyId_eq hsame
    exact ⟨s, keyId?, hs, hs'⟩
  · intro material material' packets packets' rings rings' hholds hholds' hpackets h h'
    rw [hholds.ofMaterial_eq] at h
    rw [hholds'.ofMaterial_eq] at h'
    have hrings := (withoutKeyIds_of_ofPackets hpackets h h').symm
    refine ⟨hrings, ?_, select?_at_same_place hrings⟩
    have hkeys := congrArg allKeys hrings
    rw [← map_withoutKeyIds_allKeys, ← map_withoutKeyIds_allKeys] at hkeys
    refine (forall₂_of_map_eq hkeys).imp fun key key' hkey => ⟨?_, ?_⟩
    · rw [← key.validSeconds_withoutKeyIds, hkey, key'.validSeconds_withoutKeyIds]
    · rw [← key.expiresAt?_withoutKeyIds, hkey, key'.expiresAt?_withoutKeyIds]

/-- A signature on the key in `keyPacket`, with a key id in the area that is not covered. -/
def certification (b : UInt8) : SignatureBody where
  kind := 0x13
  algorithms := [1, 8]
  hashed := [22, 33, 4, 30, 153, 171, 192, 194, 2, 172, 57, 146, 154, 171, 124, 126, 223, 41, 118,
    176, 177, 95, 48, 5, 9, 0, 0, 0, 10]
  unhashed := 9 :: 16 :: List.replicate 8 b
  rest := [0]
  algorithms_length := rfl
  hashed_lt := by decide
  unhashed_lt := by simp

/-- The two key ids are read, and the key is valid for the same time with each of them. -/
theorem validity_behind_key_ids :
    (∃ s keyId?, SelfSignature.ofBody (certification 1).octets = .ok (some s) ∧
      SelfSignature.ofBody (certification 2).octets =
        .ok (some { s with issuerKeyId? := keyId? })) ∧
    ∃ rings rings', ofMaterial (keyPacket ++ 0x88 :: 48 :: (certification 1).octets) = .ok rings ∧
      ofMaterial (keyPacket ++ 0x88 :: 48 :: (certification 2).octets) = .ok rings' ∧
      rings.map withoutKeyIds = rings'.map withoutKeyIds ∧
      List.Forall₂ (fun key key' => key.validSeconds = key'.validSeconds ∧
        key.expiresAt? = key'.expiresAt?) (allKeys rings) (allKeys rings') ∧
      ∀ fingerprint?, ∃ place? : Option Nat,
        select? rings fingerprint? = place?.bind ((allKeys rings)[·]?) ∧
          select? rings' fingerprint? = place?.bind ((allKeys rings')[·]?) := by
  have hkey : Frame ⟨5, [4, 0, 0, 0, 0, 1, 0, 1, 1, 0, 1, 1, 0, 0]⟩ keyPacket :=
    frame_of_encode (show encode 5 _ = _ from rfl)
  have hframe (b : UInt8) :
      Frame ⟨signatureTag, (certification b).octets⟩ (0x88 :: 48 :: (certification b).octets) :=
    frame_of_encode (show encode 2 _ = _ from rfl)
  have hholds (b : UInt8) : Holds (keyPacket ++ 0x88 :: 48 :: (certification b).octets)
      [⟨5, [4, 0, 0, 0, 0, 1, 0, 1, 1, 0, 1, 1, 0, 0]⟩,
        ⟨signatureTag, (certification b).octets⟩] := by
    refine holds_of_frames (Armor.isArmored_cons_eq_false (by decide)) ?_
    simpa using Frames.cons hkey (.cons (hframe b) .nil)
  have hhashed (b : UInt8) : Subpacket.readAll (certification b).hashed =
      .ok [⟨33, [4, 30, 153, 171, 192, 194, 2, 172, 57, 146, 154, 171, 124, 126, 223, 41, 118, 176,
        177, 95, 48]⟩, ⟨9, [0, 0, 0, 10]⟩] := by cbv
  have hunhashed (b : UInt8) : Subpacket.readAll (certification b).unhashed =
      .ok [⟨16, List.replicate 8 b⟩] := by cbv
  have hissuer : (certification 1).NamesIssuer :=
    ⟨_, hhashed 1, _, List.mem_cons_self, rfl, rfl⟩
  have hsame : SignatureBody.SameButUnhashed (certification 1) (certification 2) :=
    ⟨rfl, rfl, rfl, rfl⟩
  have hread (b : UInt8) := SelfSignature.ofBody_eq_ok.2 ⟨_, _, hhashed b, hunhashed b, rfl⟩
  have haccepted (b : UInt8) : ∃ rings,
      ofMaterial (keyPacket ++ 0x88 :: 48 :: (certification b).octets) = .ok rings := by
    obtain ⟨primary, hprimary⟩ : ∃ primary,
        readKey ⟨5, [4, 0, 0, 0, 0, 1, 0, 1, 1, 0, 1, 1, 0, 0]⟩ = .ok primary := ⟨_, rfl⟩
    rw [(hholds b).ofMaterial_eq]
    exact ⟨_, ofPackets_signed_key rfl hprimary rfl (hread b)⟩
  obtain ⟨s, keyId?, hs, hs'⟩ :=
    validity_behind_unhashed_areas.1 _ _ _ _ hsame (hread 1) (hread 2)
  obtain ⟨rings, h⟩ := haccepted 1
  obtain ⟨rings', h'⟩ := haccepted 2
  refine ⟨⟨s, keyId?, hs ▸ hread 1, hs' ▸ hread 2⟩, rings, rings', h, h', ?_⟩
  exact validity_behind_unhashed_areas.2 _ _ _ _ _ _ (hholds 1) (hholds 2)
    (.cons (.same _) (.cons (.unhashed hsame hissuer) .nil)) h h'

end Rings

end KeyRing

end ArtifactSigning
