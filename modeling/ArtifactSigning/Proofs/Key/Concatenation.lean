import ArtifactSigning.Proofs.Armor.Recognition
import ArtifactSigning.Proofs.Key.RingStructure
import ArtifactSigning.Proofs.Packet.Truncation

/-!
# Key material one after the other

The rings of a sequence of packets stand in the order of the packets, and what has been assembled
before does not change how later packets are read (`Assembly.step_behind`). So the rings in key
material that is put behind other key material are those of both, and it makes no difference
whether the material is armored, as one block or as two.
-/
namespace ArtifactSigning

namespace Packet

/-- Whether octets are packets in frames that all say where their packet ends, so that none of them
takes everything that follows. -/
def Delimited (octets : Bytes) : Prop :=
  ∃ forms : List Bytes, (∀ form ∈ forms, ∃ packet, Frame packet form) ∧ octets = forms.flatten

variable {octets more : Bytes} {packet : Packet} {packets : List Packet}

theorem delimited_nil : Delimited [] := ⟨[], by simp, rfl⟩

theorem Delimited.cons {form : Bytes} (h : Frame packet form) (hmore : Delimited more) :
    Delimited (form ++ more) := by
  obtain ⟨forms, hforms, rfl⟩ := hmore
  exact ⟨form :: forms, List.forall_mem_cons.2 ⟨⟨packet, h⟩, hforms⟩, rfl⟩

theorem delimited_octets (frames : List Framed) : Delimited (Framed.octets frames) := by
  induction frames with
  | nil => exact delimited_nil
  | cons frame frames ih =>
      rw [Framed.octets_cons]
      exact ih.cons frame.isFrame

/-- Octets that are scanned to their end are delimited, unless they end with a packet that takes
everything behind its header. -/
theorem delimited_or_toEnd (h : Frames packets octets) :
    Delimited octets ∨ ∃ front tag body, Delimited front ∧ tag ≤ 15 ∧
      octets = front ++ UInt8.ofNat (128 + 4 * tag + 3) :: body := by
  rcases exists_framed_or_endsOpen h with ⟨frames, rfl, -⟩ | ⟨frames, tag, body, htag, rfl⟩
  · exact .inl (delimited_octets frames)
  · exact .inr ⟨_, tag, body, delimited_octets frames, htag, rfl⟩

/-- Frames stand behind delimited ones as they stand alone. -/
theorem Delimited.frames_append (h : Delimited octets) :
    ∃ front, ∀ packets more, Frames packets more → Frames (front ++ packets) (octets ++ more) := by
  obtain ⟨forms, hforms, rfl⟩ := h
  induction forms with
  | nil => exact ⟨[], fun packets more hmore => hmore⟩
  | cons form forms ih =>
      obtain ⟨packet, hpacket⟩ := hforms form List.mem_cons_self
      obtain ⟨front, hfront⟩ := ih fun other hother => hforms other (.tail _ hother)
      refine ⟨packet :: front, fun packets more hmore => ?_⟩
      rw [List.flatten_cons, List.append_assoc]
      exact .cons hpacket (hfront packets more hmore)

/-- The scan of delimited octets is continued by that of what follows. -/
theorem Delimited.scan_append (h : Delimited octets) :
    ∃ front, scan octets = ⟨front, none⟩ ∧
      ∀ packets more, scan more = ⟨packets, none⟩ →
        scan (octets ++ more) = ⟨front ++ packets, none⟩ := by
  obtain ⟨front, hfront⟩ := h.frames_append
  refine ⟨front, ?_, fun packets more hmore => ?_⟩
  · simpa using scan_complete_iff.2 (hfront [] [] .nil)
  · exact scan_complete_iff.2 (hfront packets more (scan_complete_iff.1 hmore))

/-- Delimited octets do not begin with an ASCII character. -/
theorem Delimited.first_octet {b : UInt8} (h : Delimited (b :: octets)) : 0x80 ≤ b.toNat := by
  obtain ⟨forms, hforms, heq⟩ := h
  cases forms with
  | nil => cases heq
  | cons form forms =>
      obtain ⟨packet, hpacket⟩ := hforms form List.mem_cons_self
      obtain ⟨header, tail, rfl, hheader, -⟩ := afterHeader_of_frame hpacket
      rw [(List.cons.inj heq).1]
      exact hheader

end Packet

namespace KeyRing

open Packet Step Text

variable {packets before : List Packet} {packet : Packet} {assembly next later : Assembly}
  {ring : Growing} {rings : List KeyRing} {material octets more : Bytes}

/-- An assembly that was started on its own, as it is behind another one. -/
def Assembly.behind (assembly later : Assembly) : Assembly :=
  match later.growing? with
  | none => assembly
  | some ring => ⟨later.complete ++ assembly.reversed, some ring⟩

/-- Before the first ring grows, none is complete. -/
theorem Tracks.complete_eq_nil (h : Tracks packets assembly) (hnone : assembly.growing? = none) :
    assembly.complete = [] := by
  have hrings := h.rings
  rw [hnone] at hrings
  exact hrings.1

theorem Assembly.reversed_behind (h : Tracks packets later) :
    (assembly.behind later).reversed = later.reversed ++ assembly.reversed := by
  have hnone := h.complete_eq_nil
  obtain ⟨complete, growing?⟩ := later
  cases growing? with
  | none =>
      obtain rfl := hnone rfl
      rfl
  | some ring => rfl

/-- Marker and padding packets leave a ring as it is. -/
theorem Growing.add_ignored (h : packet.tag = markerTag ∨ packet.tag = paddingTag) :
    ring.add packet = .ok ring := by
  rcases h with h | h <;> rw [add, h] <;> rfl

/-- A step behind a ring is the step of an assembly on its own. -/
theorem Assembly.step_behind (hgrowing : assembly.growing? = some ring) (h : Tracks packets later)
    (hstep : later.step packet = .ok next) :
    (assembly.behind later).step packet = .ok (assembly.behind next) := by
  by_cases hopens : packet.tag = secretKeyTag
  · obtain ⟨primary, hread, rfl⟩ := (step_key_eq_ok hopens).1 hstep
    refine (step_key_eq_ok hopens).2 ⟨primary, hread, ?_⟩
    rw [reversed_behind h]
    rfl
  · obtain ⟨hpublic, hcases⟩ := (step_other_eq_ok hopens).1 hstep
    refine (step_other_eq_ok hopens).2 ⟨hpublic, .inr ?_⟩
    rcases hcases with ⟨hnone, htag, rfl⟩ | ⟨grows, grown, hsome, hadd, rfl⟩
    · -- What may stand before the first ring of its own goes to the ring before it.
      have hbehind : assembly.behind next = assembly := by rw [behind, hnone]
      rw [hbehind]
      exact ⟨ring, ring, hgrowing, Growing.add_ignored htag, by rw [← hgrowing]⟩
    · refine ⟨grows, grown, ?_, hadd, ?_⟩
      · rw [behind, hsome]
      · rw [behind, behind, hsome]

/-- A whole run behind a ring. -/
theorem Assembly.foldlM_behind (hgrowing : assembly.growing? = some ring)
    (h : Tracks before later) (hrun : packets.foldlM Assembly.step later = .ok next) :
    packets.foldlM Assembly.step (assembly.behind later) = .ok (assembly.behind next) := by
  induction packets generalizing before later with
  | nil =>
      obtain rfl := Except.ok.inj hrun
      rfl
  | cons packet packets ih =>
      rw [List.foldlM_cons] at hrun ⊢
      obtain ⟨middle, hstep, hrun⟩ := except_bind_eq_ok.1 hrun
      exact except_bind_eq_ok.2 ⟨_, step_behind hgrowing h hstep, ih (h.step hstep) hrun⟩

/-- The packets of two pieces of key material give the rings of both. -/
theorem ofScan_append {front : List Packet} {rings' : List KeyRing}
    (h : ofScan ⟨front, none⟩ = .ok rings) (h' : ofScan ⟨packets, none⟩ = .ok rings') :
    ofScan ⟨front ++ packets, none⟩ = .ok (rings ++ rings') := by
  obtain ⟨assembly, hfront, -, hsome, rfl⟩ := ofScan_eq_ok_iff.1 h
  obtain ⟨later, hpackets, -, -, rfl⟩ := ofScan_eq_ok_iff.1 h'
  have htracks := Tracks.empty.run hfront
  have htracks' := Tracks.empty.run hpackets
  obtain ⟨ring, hgrowing⟩ : ∃ ring, assembly.growing? = some ring := by
    cases hnone : assembly.growing? with
    | some ring => exact ⟨ring, rfl⟩
    | none =>
        rw [Assembly.reversed, hnone] at hsome
        exact absurd (htracks.complete_eq_nil hnone) hsome
  have hrun := Assembly.foldlM_behind hgrowing Tracks.empty hpackets
  have hreversed : (assembly.behind later).reversed = later.reversed ++ assembly.reversed :=
    Assembly.reversed_behind htracks'
  refine ofScan_eq_ok_iff.2 ⟨assembly.behind later, ?_, rfl, ?_, ?_⟩
  · rw [List.foldlM_append]
    exact except_bind_eq_ok.2 ⟨assembly, hfront, hrun⟩
  · rw [hreversed]
    simp [hsome]
  · rw [hreversed, List.reverse_append]

/-- Armored material is read as the octets that it holds. -/
theorem binary_armored {blanks : Bytes} {text : List Char} (hblanks : Armor.AreBlanks blanks)
    (hmark : Armor.openingMark <+: text) :
    binary (blanks ++ Utf8.encode text) = Armor.decode text := by
  rw [binary, if_pos (Armor.isArmored_append_blanks hblanks hmark),
    Armor.decodeBytes_append_blanks hblanks]

theorem ofMaterial_armored {blanks : Bytes} {text : List Char} (hblanks : Armor.AreBlanks blanks)
    (hmark : Armor.openingMark <+: text) (hread : Armor.decode text = .ok octets) :
    ofMaterial (blanks ++ Utf8.encode text) = ofScan (scan octets) := by
  rw [ofMaterial, binary_armored hblanks hmark, hread]
  rfl

theorem ofMaterial_binary (h : Armor.isArmored material = false) :
    ofMaterial material = ofScan (scan material) := by
  rw [ofMaterial, binary, if_neg (by rw [h]; decide)]
  rfl

/-- Accepted octets that are delimited are not armored, whatever follows. -/
theorem isArmored_append_of_delimited (hdelimited : Delimited octets)
    (h : ofMaterial octets = .ok rings) : Armor.isArmored (octets ++ more) = false := by
  cases octets with
  | nil =>
      have hempty : ofMaterial [] = .error (.format .noSecretKey) := by
        rw [ofMaterial_binary (by decide), scan, scanFrom_nil]
        rfl
      rw [hempty] at h
      cases h
  | cons b octets => exact Armor.isArmored_cons_eq_false hdelimited.first_octet

/-- The rings of two pieces of key material, one of which says where it ends. -/
theorem ofScan_scan_append {rings' : List KeyRing} (hdelimited : Delimited octets)
    (hbinary : Armor.isArmored more = false) (h : ofMaterial octets = .ok rings)
    (h' : ofMaterial more = .ok rings') :
    ofScan (scan (octets ++ more)) = .ok (rings ++ rings') := by
  have hfront : Armor.isArmored (octets ++ []) = false := isArmored_append_of_delimited hdelimited h
  rw [List.append_nil] at hfront
  rw [ofMaterial_binary hfront] at h
  rw [ofMaterial_binary hbinary] at h'
  obtain ⟨front, hscan, hscan'⟩ := hdelimited.scan_append
  obtain ⟨assembly, -, hfailure, -⟩ := ofScan_eq_ok_iff.1 h'
  have hmore : scan more = ⟨(scan more).packets, none⟩ := by rw [← hfailure]
  rw [hscan] at h
  rw [hmore] at h'
  rw [hscan' _ _ hmore]
  exact ofScan_append h h'

/-- Key material that holds the octets of two pieces one after the other: the octets themselves, one
armored block or an armored block for each, the blocks with or without blanks in front. -/
inductive Joins (octets more : Bytes) : Bytes → Prop
  | binary : Joins octets more (octets ++ more)
  | oneBlock {blanks : Bytes} {label : String} (hblanks : Armor.AreBlanks blanks)
      (hlabel : Armor.IsLabel label) :
      Joins octets more (blanks ++ Utf8.encode (Armor.encode (octets ++ more) label []).toList)
  | twoBlocks {blanks : Bytes} {label label' : String} (hblanks : Armor.AreBlanks blanks)
      (hlabel : Armor.IsLabel label) (hlabel' : Armor.IsLabel label') :
      Joins octets more (blanks ++ Utf8.encode
        ((Armor.encode octets label []).toList ++ (Armor.encode more label' []).toList))

theorem decode_two_blocks {label label' : String} (octets more : Bytes)
    (hlabel : Armor.IsLabel label) (hlabel' : Armor.IsLabel label') :
    Armor.decode ((Armor.encode octets label []).toList ++ (Armor.encode more label' []).toList) =
      .ok (octets ++ more) := by
  let blocks : List Armor.Passage := [⟨[], octets, label⟩, ⟨[], more, label'⟩]
  have hread : Armor.decode (Armor.documentText blocks []) = .ok (blocks.flatMap (·.bytes)) :=
    Armor.decode_documentText (by simp [blocks])
      (by simp [blocks, Armor.isProse_nil, hlabel, hlabel']) Armor.isProse_nil
  simpa [blocks, Armor.documentText, Armor.Passage.text] using hread

/-- The rings in two pieces of key material that are put together, the first of which says where it
ends, are those of both. Key material that is not armored is read, or refused, as it is in an
armored block. -/
theorem rings_of_joined :
    (∀ octets more rings rings', Delimited octets → Armor.isArmored more = false →
      ofMaterial octets = .ok rings → ofMaterial more = .ok rings' →
        ∀ material, Joins octets more material → ofMaterial material = .ok (rings ++ rings')) ∧
      ∀ material label, Armor.isArmored material = false → Armor.IsLabel label →
        ofMaterial (Utf8.encode (Armor.encode material label []).toList) = ofMaterial material := by
  constructor
  · intro octets more rings rings' hdelimited hbinary h h' material hmaterial
    rw [← ofScan_scan_append hdelimited hbinary h h']
    cases hmaterial with
    | binary => exact ofMaterial_binary (isArmored_append_of_delimited hdelimited h)
    | oneBlock hblanks hlabel =>
        exact ofMaterial_armored hblanks (Armor.openingMark_prefix_encode _ _)
          (Armor.decode_encode _ hlabel)
    | twoBlocks hblanks hlabel hlabel' =>
        exact ofMaterial_armored hblanks
          ((Armor.openingMark_prefix_encode _ _).trans (List.prefix_append _ _))
          (decode_two_blocks _ _ hlabel hlabel')
  · intro material label hbinary hlabel
    have hread : ofMaterial ([] ++ Utf8.encode (Armor.encode material label []).toList) =
        ofScan (scan material) :=
      ofMaterial_armored (by simp [Armor.AreBlanks]) (Armor.openingMark_prefix_encode _ _)
        (Armor.decode_encode material hlabel)
    rwa [List.nil_append, ← ofMaterial_binary hbinary] at hread

/-- A packet with a secret key that has no secret part. -/
def keyPacket : Bytes := [0x94, 14, 4, 0, 0, 0, 0, 1, 0, 1, 1, 0, 1, 1, 0, 0]

theorem rings_of_joined_keys :
    ∃ rings, ofMaterial keyPacket = .ok rings ∧ Delimited keyPacket ∧
      Armor.isArmored keyPacket = false ∧
      ∀ material, Joins keyPacket keyPacket material →
        ofMaterial material = .ok (rings ++ rings) := by
  have hframe : Frame ⟨5, [4, 0, 0, 0, 0, 1, 0, 1, 1, 0, 1, 1, 0, 0]⟩ keyPacket :=
    frame_of_encode (show encode 5 _ = _ from rfl)
  have hdelimited : Delimited (keyPacket ++ []) := delimited_nil.cons hframe
  rw [List.append_nil] at hdelimited
  have hbinary : Armor.isArmored keyPacket = false := by decide
  obtain ⟨rings, hrings⟩ : ∃ rings, ofMaterial keyPacket = .ok rings := by
    obtain ⟨primary, hprimary⟩ : ∃ key,
        SecretKey.ofBody [4, 0, 0, 0, 0, 1, 0, 1, 1, 0, 1, 1, 0, 0] false = .ok key := ⟨_, rfl⟩
    have hstep : Assembly.empty.step ⟨5, [4, 0, 0, 0, 0, 1, 0, 1, 1, 0, 1, 1, 0, 0]⟩ =
        .ok ⟨[], some (.start primary)⟩ :=
      (Assembly.step_key_eq_ok rfl).2 ⟨primary, hprimary, rfl⟩
    have hscan : scan keyPacket = ⟨[⟨5, [4, 0, 0, 0, 0, 1, 0, 1, 1, 0, 1, 1, 0, 0]⟩], none⟩ := by
      simpa using scan_complete_iff.2 (.cons hframe .nil)
    have hrun : (scan keyPacket).packets.foldlM Assembly.step .empty =
        .ok ⟨[], some (.start primary)⟩ := by
      rw [hscan, List.foldlM_cons, hstep]
      rfl
    have haccepted := ofScan_eq_ok_iff.2
      ⟨_, hrun, by rw [hscan], by simp [Assembly.reversed], rfl⟩
    exact ⟨_, (ofMaterial_binary hbinary).trans haccepted⟩
  exact ⟨rings, hrings, hdelimited, hbinary,
    rings_of_joined.1 _ _ _ _ hdelimited hbinary hrings hrings⟩

end KeyRing

end ArtifactSigning
