import ArtifactSigning.Proofs.Packet.Framing

/-!
# Truncated packets

A frame that says where its packet ends is told apart from whatever follows it, so octets begin with
at most one frame (`Frame.unique`), and a proper part of a frame is no frame. Octets that consist of
such frames are therefore cut into them in one way only, and the scan of a front part of the octets
gives the packets whose frames lie in it; it ends as truncated unless the part ends with a frame.
-/
namespace ArtifactSigning.Packet

variable {packet packet' : Packet} {form form' rest rest' : Bytes} {header : UInt8}

/-- Octets begin with at most one frame. -/
theorem Frame.unique (h : Frame packet form) (h' : Frame packet' form')
    (heq : form ++ rest = form' ++ rest') : packet = packet' ∧ form = form' := by
  obtain ⟨header, tail, rfl, -, hafter⟩ := afterHeader_of_frame h
  obtain ⟨header', tail', rfl, -, hafter'⟩ := afterHeader_of_frame h'
  obtain ⟨rfl, htail⟩ := List.cons.inj heq
  have hread := hafter rest
  rw [show tail ++ rest = tail' ++ rest' from htail, hafter' rest'] at hread
  obtain ⟨rfl, rfl⟩ := Prod.mk.inj (Option.some.inj hread)
  exact ⟨rfl, List.append_cancel_right heq⟩

/-- The header of a frame that says where its packet ends is not that of a packet to the end. -/
theorem Frame.header_ne {tag : Nat} {tail : Bytes} (h : Frame packet (header :: tail))
    (htag : tag ≤ 15) : header ≠ UInt8.ofNat (128 + 4 * tag + 3) := by
  intro hheader
  obtain ⟨header', tail', heq, -, hafter⟩ := afterHeader_of_frame h
  obtain ⟨rfl, rfl⟩ := List.cons.inj heq
  -- Behind a header to the end an octet more would belong to the body.
  have hread := hafter [0]
  rw [hheader, afterHeader_toEnd htag] at hread
  exact absurd (Prod.mk.inj (Option.some.inj hread)).2 (List.cons_ne_nil 0 [] ∘ Eq.symm)

/-- Behind the header of a frame no packet is cut off from a proper part of the frame. -/
theorem Frame.afterHeader_take {tail : Bytes} {n : Nat} (h : Frame packet (header :: tail))
    (hn : n < tail.length) : afterHeader header (tail.take n) = none := by
  obtain ⟨header', tail', heq, hheader, -⟩ := afterHeader_of_frame h
  obtain ⟨rfl, rfl⟩ := List.cons.inj heq
  cases hread : afterHeader header (tail.take n) with
  | none => rfl
  | some found =>
      exfalso
      obtain ⟨packet', rest⟩ := found
      rcases frame_of_afterHeader hheader hread with ⟨form', h', hform⟩ | ⟨tag, htag, hopen, -⟩
      · -- The part would be a frame and more, and so would be the whole frame.
        have hwhole : header :: tail ++ [] = form' ++ (rest ++ tail.drop n) := by
          rw [← List.append_assoc, ← hform, List.cons_append, List.cons_append,
            List.take_append_drop, List.append_nil]
        obtain ⟨-, hsame⟩ := h.unique h' hwhole
        have hlength := congrArg List.length hform
        rw [← hsame, List.length_append, List.length_cons, List.length_cons,
          List.length_take] at hlength
        omega
      · exact h.header_ne htag hopen

/-- A packet in a frame that says where the packet ends. -/
structure Framed where
  packet : Packet
  form : Bytes
  isFrame : Frame packet form

namespace Framed

/-- The octets of frames, one after the other. -/
def octets (frames : List Framed) : Bytes := frames.flatMap (·.form)

/-- The place behind the first `count` frames. -/
def endOf (frames : List Framed) (count : Nat) : Nat := (octets (frames.take count)).length

/-- The places at which a frame ends, and the start. -/
def ends (frames : List Framed) : List Nat := (List.range (frames.length + 1)).map (endOf frames)

/-- The packets whose frames lie in the first `n` octets, in order. -/
def packetsIn (frames : List Framed) (n : Nat) : List Packet :=
  (frames.zipIdx.filter fun (_, place) => endOf frames (place + 1) ≤ n).map (·.1.packet)

variable {frame : Framed} {frames : List Framed} {n : Nat}

@[simp] theorem octets_nil : octets [] = [] := rfl

@[simp] theorem octets_cons : octets (frame :: frames) = frame.form ++ octets frames :=
  List.flatMap_cons

theorem form_ne_nil (frame : Framed) : frame.form ≠ [] := by
  obtain ⟨header, tail, heq, -⟩ := afterHeader_of_frame frame.isFrame
  rw [heq]
  exact List.cons_ne_nil _ _

@[simp] theorem endOf_zero : endOf frames 0 = 0 := by rw [endOf, List.take_zero]; rfl

@[simp] theorem endOf_cons_succ (count : Nat) :
    endOf (frame :: frames) (count + 1) = frame.form.length + endOf frames count := by
  rw [endOf, List.take_succ_cons, octets_cons, List.length_append, endOf]

theorem mem_ends_cons : n ∈ ends (frame :: frames) ↔
    n = 0 ∨ ∃ m ∈ ends frames, n = frame.form.length + m := by
  rw [ends, List.length_cons, List.range_succ_eq_map, List.map_cons, List.mem_cons, endOf_zero,
    List.map_map]
  simp only [ends, List.mem_map, Function.comp_apply, Nat.succ_eq_add_one, endOf_cons_succ]
  refine or_congr_right ⟨?_, ?_⟩
  · rintro ⟨count, hcount, rfl⟩
    exact ⟨_, ⟨count, hcount, rfl⟩, rfl⟩
  · rintro ⟨_, ⟨count, hcount, rfl⟩, rfl⟩
    exact ⟨count, hcount, rfl⟩

/-- Where the first frame lies in the octets, so do the frames that lie in what is left. -/
theorem packetsIn_cons_of_le (h : frame.form.length ≤ n) :
    packetsIn (frame :: frames) n =
      frame.packet :: packetsIn frames (n - frame.form.length) := by
  have hplace (place : Nat) : endOf (frame :: frames) (place + 1) ≤ n ↔
      endOf frames place ≤ n - frame.form.length := by
    rw [endOf_cons_succ]
    omega
  simp only [packetsIn, List.zipIdx_cons', hplace, List.filter_cons, endOf_zero, Nat.zero_le,
    decide_true, if_true, List.map_cons, List.filter_map, List.map_map]
  rfl

/-- Where the first frame does not lie in the octets, no frame does. -/
theorem packetsIn_cons_of_lt (h : n < frame.form.length) :
    packetsIn (frame :: frames) n = [] := by
  rw [packetsIn, List.map_eq_nil_iff, List.filter_eq_nil_iff]
  rintro ⟨_, place⟩ -
  simp only [endOf_cons_succ, decide_eq_true_eq]
  omega

/-- Octets are cut into frames in one way only. -/
theorem octets_injective {frames' : List Framed} (h : octets frames = octets frames') :
    frames = frames' := by
  induction frames generalizing frames' with
  | nil =>
      cases frames' with
      | nil => rfl
      | cons frame' frames' =>
          rw [octets_nil, octets_cons] at h
          exact absurd (List.append_eq_nil_iff.1 h.symm).1 frame'.form_ne_nil
  | cons frame frames ih =>
      cases frames' with
      | nil =>
          rw [octets_nil, octets_cons] at h
          exact absurd (List.append_eq_nil_iff.1 h).1 frame.form_ne_nil
      | cons frame' frames' =>
          rw [octets_cons, octets_cons] at h
          obtain ⟨hpacket, hform⟩ := frame.isFrame.unique frame'.isFrame h
          rw [hform] at h
          obtain rfl := ih (List.append_cancel_left h)
          cases frame
          cases frame'
          cases hpacket
          cases hform
          rfl

/-- Inside the first frame no frame ends. -/
theorem not_mem_ends_of_lt (hpos : 0 < n) (h : n < frame.form.length) :
    n ∉ ends (frame :: frames) := by
  rw [mem_ends_cons]
  rintro (hzero | ⟨m, -, hm⟩) <;> omega

/-- Behind the first frame, the ends are those of the others. -/
theorem mem_ends_of_le (h : frame.form.length ≤ n) :
    n ∈ ends (frame :: frames) ↔ n - frame.form.length ∈ ends frames := by
  have hpos := List.length_pos_iff.2 frame.form_ne_nil
  rw [mem_ends_cons]
  constructor
  · rintro (hzero | ⟨m, hm, rfl⟩)
    · omega
    · rwa [Nat.add_sub_cancel_left]
  · exact fun hends => .inr ⟨_, hends, by omega⟩

/-- The scan of a proper part of a frame finds nothing and stops because of the truncation. -/
theorem scanFrom_take_form (size : Nat) (hpos : 0 < n) (h : n < frame.form.length) :
    scanFrom size (frame.form.take n) = ⟨[], some (.format .truncated)⟩ := by
  obtain ⟨count, rfl⟩ := Nat.exists_eq_succ_of_ne_zero (Nat.ne_of_gt hpos)
  obtain ⟨header, tail, hform, hheader, -⟩ := afterHeader_of_frame frame.isFrame
  rw [hform, List.length_cons] at h
  have hnone := Frame.afterHeader_take (hform ▸ frame.isFrame) (Nat.lt_of_succ_lt_succ h)
  rw [hform, List.take_succ_cons, scanFrom, if_neg (by omega)]
  split
  · rfl
  · rename_i hsome
    rw [hnone] at hsome
    cases hsome

/-- The scan of a front part of some frames. -/
theorem scanFrom_take (size : Nat) (hn : n ≤ (octets frames).length) :
    scanFrom size ((octets frames).take n) =
      ⟨packetsIn frames n, if n ∈ ends frames then none else some (.format .truncated)⟩ := by
  induction frames generalizing n with
  | nil =>
      obtain rfl : n = 0 := by simpa using hn
      rw [octets_nil, List.take_nil, scanFrom_nil]
      rfl
  | cons frame frames ih =>
      rw [octets_cons, List.length_append] at hn
      rw [octets_cons]
      rcases Nat.lt_or_ge n frame.form.length with hlt | hge
      · rw [List.take_append_of_le_length (Nat.le_of_lt hlt), packetsIn_cons_of_lt hlt]
        rcases Nat.eq_zero_or_pos n with rfl | hpos
        · rw [List.take_zero, scanFrom_nil, if_pos (mem_ends_cons.2 (.inl rfl))]
        · rw [scanFrom_take_form size hpos hlt, if_neg (not_mem_ends_of_lt hpos hlt)]
      · rw [List.take_append, List.take_of_length_le hge, packetsIn_cons_of_le hge,
          scanFrom_frame frame.isFrame, ih (by omega)]
        simp only [mem_ends_of_le hge]

end Framed

/-- Octets whose last packet stands in an old-style frame without a length. -/
def EndsOpen (data : Bytes) : Prop :=
  ∃ frames tag body, tag ≤ 15 ∧
    data = Framed.octets frames ++ UInt8.ofNat (128 + 4 * tag + 3) :: body

/-- Octets that are frames of some packets end with a packet to the end, or all the frames say where
their packets end. -/
theorem exists_framed_or_endsOpen {packets : List Packet} {data : Bytes}
    (h : Frames packets data) :
    (∃ frames : List Framed, Framed.octets frames = data ∧ frames.map (·.packet) = packets) ∨
      EndsOpen data := by
  induction h with
  | nil => exact .inl ⟨[], rfl, rfl⟩
  | @toEnd tag body htag => exact .inr ⟨[], tag, body, htag, rfl⟩
  | @cons packet packets form rest hframe hrest ih =>
      rcases ih with ⟨frames, rfl, rfl⟩ | ⟨frames, tag, body, htag, rfl⟩
      · exact .inl ⟨⟨packet, form, hframe⟩ :: frames, rfl, rfl⟩
      · refine .inr ⟨⟨packet, form, hframe⟩ :: frames, tag, body, htag, ?_⟩
        rw [Framed.octets_cons, List.append_assoc]

/-- Frames that all say where their packets end do not end with a packet to the end. -/
theorem not_endsOpen_octets (frames : List Framed) : ¬EndsOpen (Framed.octets frames) := by
  rintro ⟨front, tag, body, htag, heq⟩
  induction front generalizing frames with
  | nil =>
      cases frames with
      | nil => cases heq
      | cons frame frames =>
          obtain ⟨header, tail, hform, -⟩ := afterHeader_of_frame frame.isFrame
          rw [Framed.octets_cons, hform] at heq
          exact Frame.header_ne (hform ▸ frame.isFrame) htag (List.cons.inj heq).1
  | cons first front ih =>
      cases frames with
      | nil =>
          rw [Framed.octets_cons, List.append_assoc] at heq
          exact first.form_ne_nil (List.append_eq_nil_iff.1 heq.symm).1
      | cons frame frames =>
          rw [Framed.octets_cons, Framed.octets_cons, List.append_assoc] at heq
          obtain ⟨-, hform⟩ := frame.isFrame.unique first.isFrame heq
          rw [hform] at heq
          exact ih frames (List.append_cancel_left heq)

/-- Octets that are scanned to their end, and of which no packet goes to the end for want of a
length, are frames in one way only. The scan of their first `n` octets gives exactly the packets
whose frames lie in these; it comes to the end if a frame ends there, and otherwise it stops because
of the truncation. -/
theorem scan_take {data : Bytes} {packets : List Packet} (hscan : scan data = ⟨packets, none⟩)
    (hclosed : ¬EndsOpen data) :
    ∃ frames : List Framed, Framed.octets frames = data ∧ frames.map (·.packet) = packets ∧
      (∀ frames', Framed.octets frames' = data → frames' = frames) ∧
      ∀ n ≤ data.length, scan (data.take n) =
        ⟨Framed.packetsIn frames n,
          if n ∈ Framed.ends frames then none else some (.format .truncated)⟩ := by
  rcases exists_framed_or_endsOpen (scan_complete_iff.1 hscan) with ⟨frames, rfl, hpackets⟩ | hopen
  · exact ⟨frames, rfl, hpackets, fun frames' h => Framed.octets_injective h,
      fun n hn => Framed.scanFrom_take _ hn⟩
  · exact absurd hopen hclosed

/-- A packet in an old-style frame and one in two chunks, cut between the chunks. -/
theorem scan_take_between_chunks :
    scan [0x88, 1, 7, 0xCD, 0xE1, 0x61, 0x62, 1, 0x63] =
        ⟨[⟨2, [7]⟩, ⟨13, [0x61, 0x62, 0x63]⟩], none⟩ ∧
      ¬EndsOpen [0x88, 1, 7, 0xCD, 0xE1, 0x61, 0x62, 1, 0x63] ∧
      scan [0x88, 1, 7, 0xCD, 0xE1, 0x61, 0x62] =
        ⟨[⟨2, [7]⟩], some (.format .truncated)⟩ := by
  have hold : Frame ⟨2, [7]⟩ [0x88, 1, 7] :=
    @Frame.old 2 0 [7] (by decide) (by decide) (by decide)
  have hlast : Chunked [0x63] [1, 0x63] := .last (.short (by decide))
  have hchunks : Chunked [0x61, 0x62, 0x63] [0xE1, 0x61, 0x62, 1, 0x63] :=
    @Chunked.more 1 [0x61, 0x62] _ _ (by decide) rfl hlast
  have hnew : Frame ⟨13, [0x61, 0x62, 0x63]⟩ [0xCD, 0xE1, 0x61, 0x62, 1, 0x63] :=
    .new (by decide) hchunks
  let frames : List Framed := [⟨_, _, hold⟩, ⟨_, _, hnew⟩]
  have hscan : scan [0x88, 1, 7, 0xCD, 0xE1, 0x61, 0x62, 1, 0x63] =
      ⟨[⟨2, [7]⟩, ⟨13, [0x61, 0x62, 0x63]⟩], none⟩ :=
    scan_complete_iff.2 (.cons hold (.cons hnew .nil))
  have hclosed := not_endsOpen_octets frames
  obtain ⟨_, -, -, hunique, htake⟩ := scan_take hscan hclosed
  have hcut := htake 7 (by decide)
  rw [← hunique frames rfl] at hcut
  exact ⟨hscan, hclosed, hcut⟩

end ArtifactSigning.Packet
