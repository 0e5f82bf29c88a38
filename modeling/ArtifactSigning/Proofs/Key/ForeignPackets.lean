import ArtifactSigning.Proofs.Key.Concatenation

/-!
# Packets that key rings do not take in

Among the packets of a ring there may be others that it takes no notice of: packets of other kinds,
signatures of other versions and signatures of other keys. Such a packet leaves the assembly of the
rings as it is, with the ring that grows and the key that signatures follow
(`Assembly.step_inert`), so it may stand at every place behind the first primary key. Before this
key only marker and padding packets may stand.
-/
namespace ArtifactSigning

namespace SelfSignature

/-- Whether the signature names a key other than the given one as its issuer, by its fingerprint or
else by its key id. -/
def NamesOther (s : SelfSignature) (key : SecretKey) : Prop :=
  match s.issuerFingerprint? with
  | some issuer => issuer ≠ key.fingerprint
  | none => ∃ issuer, s.issuerKeyId? = some issuer ∧ issuer ≠ key.keyId

theorem issuedBy_eq_false_iff {s : SelfSignature} {key : SecretKey} :
    s.issuedBy key.fingerprint key.keyId = false ↔ s.NamesOther key := by
  rw [issuedBy, NamesOther]
  cases s.issuerFingerprint? with
  | some issuer => simp
  | none => cases s.issuerKeyId? <;> simp

/-- From a signature of another version nothing is read. -/
theorem ofBody_of_version_ne {version : UInt8} (h : version ≠ 4) (rest : Bytes) :
    ofBody (version :: rest) = .ok none := by
  have hversion := Reading.reads_octet version [] rest
  have hread : read (Cursor.start (version :: rest)) = .ok none ⟨version :: rest, 1⟩ := by
    refine Step.bind_eq_ok.2 ⟨version, _, hversion, ?_⟩
    rw [if_neg h]
    rfl
  exact Reading.onBytes_eq_ok.2 ⟨_, hread⟩

end SelfSignature

namespace KeyRing

open Packet Step

/-- The tags of the packets that key rings consist of or that are refused. -/
def ringTags : List Nat :=
  [signatureTag, secretKeyTag, publicKeyTag, secretSubkeyTag, userIdTag, publicSubkeyTag,
    userAttributeTag]

/-- The primary key of the ring that is open behind some packets. -/
def openPrimary? (before : List Packet) : Option SecretKey := do
  let place ← openRing? before
  let packet ← before[place]?
  (readKey packet).toOption

/-- A packet that a ring takes no notice of behind some packets. -/
inductive Inert (before : List Packet) (packet : Packet) : Prop
  | unknown (htag : packet.tag ∉ ringTags)
  | otherVersion {version : UInt8} {rest : Bytes} (htag : packet.tag = signatureTag)
      (hbody : packet.body = version :: rest) (hversion : version ≠ 4)
  | otherIssuer {s : SelfSignature} {primary : SecretKey} (htag : packet.tag = signatureTag)
      (hs : SelfSignature.ofBody packet.body = .ok (some s))
      (hprimary : openPrimary? before = some primary) (hother : s.NamesOther primary)

variable {front back fillers : List Packet} {packet : Packet} {assembly : Assembly}
  {ring : Growing} {opening : Nat}

theorem Grows.openPrimary?_eq (h : Grows front opening ring) :
    openPrimary? front = some (bare ring.primary) := by
  obtain ⟨packet, hat, hread, -⟩ := h.described.primary.read
  rw [openPrimary?, h.opened]
  simp only [Option.bind_eq_bind, Option.bind_some, hat, hread]
  rfl

/-- A ring takes no notice of the packet. -/
theorem Growing.add_inert (h : Grows front opening ring) (hinert : Inert front packet) :
    ring.add packet = .ok ring := by
  cases hinert with
  | unknown htag =>
      simp only [ringTags, List.mem_cons, List.not_mem_nil, or_false, not_or] at htag
      obtain ⟨hsignature, -, -, hsubkey, huserId, -, hattribute⟩ := htag
      rw [add, if_neg hsubkey, if_neg huserId, if_neg hattribute, if_neg hsignature]
      rfl
  | otherVersion htag hbody hversion =>
      rw [add_signature ring htag, hbody, SelfSignature.ofBody_of_version_ne hversion]
      rfl
  | @otherIssuer s primary htag hs hprimary hother =>
      rw [h.openPrimary?_eq] at hprimary
      obtain rfl := Option.some.inj hprimary
      have hissued : s.issuedBy ring.primary.fingerprint ring.primary.keyId = false :=
        SelfSignature.issuedBy_eq_false_iff.2 hother
      rw [add_signature ring htag, hs]
      refine congrArg Except.ok ?_
      rw [attach, hissued, if_neg (by decide)]

theorem Inert.tag_not_mem (h : Inert front packet) :
    packet.tag ∉ [secretKeyTag, publicKeyTag, publicSubkeyTag] := by
  cases h with
  | unknown htag =>
      have hsubset : [secretKeyTag, publicKeyTag, publicSubkeyTag] ⊆ ringTags := by decide
      exact fun hmem => htag (hsubset hmem)
  | otherVersion htag =>
      rw [htag]
      decide
  | otherIssuer htag =>
      rw [htag]
      decide

/-- Behind a primary key a ring grows. -/
theorem Tracks.exists_growing (h : Tracks front assembly)
    (hkey : ∃ packet ∈ front, packet.tag = secretKeyTag) :
    ∃ ring opening, assembly.growing? = some ring ∧ Grows front opening ring := by
  have hrings := h.rings
  cases hgrowing : assembly.growing? with
  | none =>
      rw [hgrowing] at hrings
      obtain ⟨packet, hmem, htag⟩ := hkey
      obtain ⟨place, hat⟩ := List.mem_iff_getElem?.1 hmem
      have hplace : place ∈ places (hasTag [secretKeyTag]) front :=
        mem_places.2 ⟨packet, hat, by simp [hasTag, htag]⟩
      rw [hrings.2] at hplace
      cases hplace
  | some ring =>
      rw [hgrowing] at hrings
      obtain ⟨_, opening, -, -, hgrows⟩ := hrings
      exact ⟨ring, opening, rfl, hgrows⟩

/-- A step with the packet changes nothing. -/
theorem Assembly.step_inert (h : Tracks front assembly)
    (hkey : ∃ packet ∈ front, packet.tag = secretKeyTag) (hinert : Inert front packet) :
    assembly.step packet = .ok assembly := by
  obtain ⟨ring, opening, hgrowing, hgrows⟩ := h.exists_growing hkey
  have htag := hinert.tag_not_mem
  simp only [List.mem_cons, List.not_mem_nil, or_false, not_or] at htag
  refine (step_other_eq_ok htag.1).2 ⟨not_or.2 htag.2, .inr ?_⟩
  exact ⟨ring, ring, hgrowing, Growing.add_inert hgrows hinert, by rw [← hgrowing]⟩

/-- Before the first primary key marker and padding packets change nothing. -/
theorem Assembly.step_filler (h : packet.tag = markerTag ∨ packet.tag = paddingTag) :
    empty.step packet = .ok empty := by
  have hother : packet.tag ≠ secretKeyTag := by rcases h with h | h <;> rw [h] <;> decide
  refine (step_other_eq_ok hother).2 ⟨?_, .inl ⟨rfl, h, rfl⟩⟩
  rcases h with h | h <;> rw [h] <;> decide

/-- Before the first primary key no other packet is accepted. -/
theorem Assembly.step_unexpected
    (h : packet.tag ∉ [secretKeyTag, markerTag, paddingTag]) :
    ∃ cause, empty.step packet = .error (.format cause) := by
  simp only [List.mem_cons, List.not_mem_nil, or_false, not_or] at h
  rw [step, if_neg h.1]
  split
  · exact ⟨_, rfl⟩
  · exact ⟨_, if_neg (not_or.2 h.2)⟩

theorem Assembly.run_fillers
    (h : ∀ packet ∈ fillers, packet.tag = markerTag ∨ packet.tag = paddingTag) :
    fillers.foldlM Assembly.step .empty = .ok .empty := by
  induction fillers with
  | nil => rfl
  | cons packet fillers ih =>
      obtain ⟨hpacket, hfillers⟩ := List.forall_mem_cons.1 h
      rw [List.foldlM_cons]
      exact except_bind_eq_ok.2 ⟨_, step_filler hpacket, ih hfillers⟩

/-- Up to the first primary key nothing is assembled. -/
theorem Assembly.run_before_key (h : ∀ packet ∈ front, packet.tag ≠ secretKeyTag) :
    front.foldlM Assembly.step .empty = .ok .empty ∨
      ∃ cause, front.foldlM Assembly.step .empty = .error (.format cause) := by
  induction front with
  | nil => exact .inl rfl
  | cons packet front ih =>
      obtain ⟨hpacket, hfront⟩ := List.forall_mem_cons.1 h
      rw [List.foldlM_cons]
      by_cases hfiller : packet.tag = markerTag ∨ packet.tag = paddingTag
      · rw [step_filler hfiller]
        exact ih hfront
      · have hunexpected : packet.tag ∉ [secretKeyTag, markerTag, paddingTag] := by
          simpa [hpacket] using hfiller
        obtain ⟨cause, hstep⟩ := step_unexpected hunexpected
        rw [hstep]
        exact .inr ⟨cause, rfl⟩

/-- Packets that change nothing where they stand make no difference to the rings. -/
theorem ofPackets_insert (h : ∀ assembly, front.foldlM Assembly.step .empty = .ok assembly →
    fillers.foldlM Assembly.step assembly = .ok assembly) :
    ofPackets (front ++ (fillers ++ back)) = ofPackets (front ++ back) := by
  rw [ofPackets, ofPackets, ofScan, ofScan, List.foldlM_append, List.foldlM_append]
  cases hfront : front.foldlM Assembly.step .empty with
  | error failure => rfl
  | ok assembly =>
      have hrun : (fillers ++ back).foldlM Assembly.step assembly =
          back.foldlM Assembly.step assembly := by
        rw [List.foldlM_append, h assembly hfront]
        rfl
      change ((fillers ++ back).foldlM Assembly.step assembly >>= _) = _
      rw [hrun]
      rfl

/-- Behind the first primary key, packets that a ring takes no notice of change no result wherever
they stand. Before this key any number of marker and padding packets may stand, and other packets
make the key material no key ring. -/
theorem ofMaterial_with_foreign_packets :
    (∀ material material' front packet back,
      (∃ opening ∈ front, opening.tag = secretKeyTag) → Inert front packet →
        Holds material (front ++ back) → Holds material' (front ++ packet :: back) →
          ofMaterial material' = ofMaterial material) ∧
      (∀ material material' front fillers back,
        (∀ packet ∈ front, packet.tag ≠ secretKeyTag) →
          (∀ packet ∈ fillers, packet.tag = markerTag ∨ packet.tag = paddingTag) →
            Holds material (front ++ back) → Holds material' (front ++ (fillers ++ back)) →
              ofMaterial material' = ofMaterial material) ∧
      ∀ material front packet back, (∀ packet ∈ front, packet.tag ≠ secretKeyTag) →
        packet.tag ∉ [secretKeyTag, markerTag, paddingTag] →
          Holds material (front ++ packet :: back) →
            ∃ cause, ofMaterial material = .error (.format cause) := by
  refine ⟨?_, ?_, ?_⟩
  · intro material material' front packet back hkey hinert h h'
    rw [h.ofMaterial_eq, h'.ofMaterial_eq]
    have hunchanged (assembly : Assembly)
        (hfront : front.foldlM Assembly.step .empty = .ok assembly) :
          [packet].foldlM Assembly.step assembly = .ok assembly := by
      have hstep := Assembly.step_inert (Tracks.empty.run hfront) hkey hinert
      rw [List.foldlM_cons]
      exact except_bind_eq_ok.2 ⟨_, hstep, rfl⟩
    exact ofPackets_insert hunchanged
  · intro material material' front fillers back hfront hfillers h h'
    rw [h.ofMaterial_eq, h'.ofMaterial_eq]
    refine ofPackets_insert fun assembly hassembly => ?_
    rcases Assembly.run_before_key hfront with hempty | ⟨cause, herror⟩
    · rw [hempty] at hassembly
      obtain rfl := Except.ok.inj hassembly
      exact Assembly.run_fillers hfillers
    · rw [herror] at hassembly
      cases hassembly
  · intro material front packet back hfront htag h
    rw [h.ofMaterial_eq, ofPackets, ofScan, List.foldlM_append]
    rcases Assembly.run_before_key hfront with hempty | ⟨cause, herror⟩
    · obtain ⟨cause, hstep⟩ := Assembly.step_unexpected htag
      rw [hempty]
      refine ⟨cause, ?_⟩
      change ((packet :: back).foldlM Assembly.step .empty >>= _) = _
      rw [List.foldlM_cons, hstep]
      rfl
    · rw [herror]
      exact ⟨cause, rfl⟩

/-- A key with a signature of another key behind it, with a marker packet before it and with a user
id before it. -/
theorem ofMaterial_around_key :
    (∃ b : UInt8, ofMaterial (keyPacket ++
        0x88 :: 18 :: 4 :: 0x13 :: 1 :: 8 :: 0 :: 0 :: 0 :: 10 :: 9 :: 16 :: List.replicate 8 b) =
      ofMaterial keyPacket) ∧
    ofMaterial ([0xA8, 3, 0x50, 0x47, 0x50] ++ keyPacket) = ofMaterial keyPacket ∧
    ∃ cause, ofMaterial ([0xB4, 1, 0x61] ++ keyPacket) = .error (.format cause) := by
  have hkey : Frame ⟨5, [4, 0, 0, 0, 0, 1, 0, 1, 1, 0, 1, 1, 0, 0]⟩ keyPacket :=
    frame_of_encode (show encode 5 _ = _ from rfl)
  have hsignature (b : UInt8) :
      Frame ⟨2, 4 :: 0x13 :: 1 :: 8 :: 0 :: 0 :: 0 :: 10 :: 9 :: 16 :: List.replicate 8 b⟩
        (0x88 :: 18 :: 4 :: 0x13 :: 1 :: 8 :: 0 :: 0 :: 0 :: 10 :: 9 :: 16 ::
          List.replicate 8 b) :=
    frame_of_encode (show encode 2 _ = _ from rfl)
  have hmarker : Frame ⟨10, [0x50, 0x47, 0x50]⟩ [0xA8, 3, 0x50, 0x47, 0x50] :=
    frame_of_encode (show encode 10 _ = _ from rfl)
  have huserId : Frame ⟨13, [0x61]⟩ [0xB4, 1, 0x61] :=
    frame_of_encode (show encode 13 _ = _ from rfl)
  have hs (b : UInt8) : SelfSignature.ofBody
      (4 :: 0x13 :: 1 :: 8 :: 0 :: 0 :: 0 :: 10 :: 9 :: 16 :: List.replicate 8 b) =
        .ok (some ⟨0x13, none, none, none, some (List.replicate 8 b)⟩) := by cbv
  have hopen : (openPrimary? [⟨5, [4, 0, 0, 0, 0, 1, 0, 1, 1, 0, 1, 1, 0, 0]⟩]).isSome = true := by
    rfl
  obtain ⟨primary, hprimary⟩ := Option.isSome_iff_exists.1 hopen
  -- of two key ids one is another key's
  have hother : ∃ b : UInt8, List.replicate 8 b ≠ primary.keyId := by
    by_contra! h
    exact absurd ((h 1).trans (h 2).symm) (by decide)
  obtain ⟨b, hother⟩ := hother
  have hinert : Inert [⟨5, [4, 0, 0, 0, 0, 1, 0, 1, 1, 0, 1, 1, 0, 0]⟩]
      ⟨2, 4 :: 0x13 :: 1 :: 8 :: 0 :: 0 :: 0 :: 10 :: 9 :: 16 :: List.replicate 8 b⟩ :=
    .otherIssuer rfl (hs b) hprimary ⟨_, rfl, hother⟩
  have hholds : Holds keyPacket ([⟨5, [4, 0, 0, 0, 0, 1, 0, 1, 1, 0, 1, 1, 0, 0]⟩] ++ []) :=
    holds_of_frames (by decide) (List.append_nil keyPacket ▸ .cons hkey .nil)
  refine ⟨⟨b, ?_⟩, ?_, ?_⟩
  · exact ofMaterial_with_foreign_packets.1 _ _ _ _ [] ⟨_, List.mem_cons_self, rfl⟩ hinert hholds
      (holds_of_frames (Armor.isArmored_cons_eq_false (by decide))
        (.cons hkey (.cons (hsignature b) .nil)))
  · exact ofMaterial_with_foreign_packets.2.1 _ _ [] [⟨10, [0x50, 0x47, 0x50]⟩] _ (by simp)
      (by simp [markerTag]) hholds
      (holds_of_frames (by decide) (.cons hmarker (.cons hkey .nil)))
  · exact ofMaterial_with_foreign_packets.2.2 _ [] ⟨13, [0x61]⟩ _ (by simp) (by decide)
      (holds_of_frames (by decide) (.cons huserId (.cons hkey .nil)))

end KeyRing

end ArtifactSigning
