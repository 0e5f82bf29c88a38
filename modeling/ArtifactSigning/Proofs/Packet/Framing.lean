import ArtifactSigning.Packet.Frame

/-!
# The framing grammar of packets

`Frames` lists the ways in which octets hold a sequence of packets: every packet in an old-style or
a new-style frame, and an old-style frame without a length only at the very end. The scan is exact
for this grammar (`scan_complete_iff`): it comes to the end of some octets with certain packets if
and only if the octets are frames of these packets. What `encode` writes is one of these frames
(`frame_of_encode`), so it is read back whatever stands behind it.
-/
namespace ArtifactSigning.Packet

/-- The octets that announce the last chunk of a new-style body, by the length of the chunk. A
length that is below 8384 may be announced by the widest form too. -/
inductive LastLength : Nat → Bytes → Prop
  | short {n : Nat} (h : n < 192) : LastLength n [UInt8.ofNat n]
  | double {n : Nat} (hlow : 192 ≤ n) (hhigh : n ≤ 8383) :
      LastLength n [UInt8.ofNat (192 + (n - 192) / 256), UInt8.ofNat ((n - 192) % 256)]
  | full {n : Nat} (h : n < 256 ^ 4) : LastLength n (0xFF :: bigEndian 4 n)

/-- The octets that hold a new-style body: any number of partial chunks, each with a power of two as
its length, and a last chunk. -/
inductive Chunked : Bytes → Bytes → Prop
  | last {body length : Bytes} (h : LastLength body.length length) : Chunked body (length ++ body)
  | more {k : Nat} {chunk body form : Bytes} (hk : k ≤ 30) (hchunk : chunk.length = 2 ^ k)
      (h : Chunked body form) : Chunked (chunk ++ body) (UInt8.ofNat (224 + k) :: chunk ++ form)

/-- A frame that says where its packet ends. An old-style length has one, two or four octets and
need not be the narrowest. -/
inductive Frame : Packet → Bytes → Prop
  | old {tag lengthType : Nat} {body : Bytes} (htag : tag ≤ 15) (htype : lengthType ≤ 2)
      (hbody : body.length < 256 ^ 2 ^ lengthType) :
      Frame ⟨tag, body⟩
        (UInt8.ofNat (128 + 4 * tag + lengthType) ::
          (bigEndian (2 ^ lengthType) body.length ++ body))
  | new {tag : Nat} {body form : Bytes} (htag : tag ≤ 63) (h : Chunked body form) :
      Frame ⟨tag, body⟩ (UInt8.ofNat (192 + tag) :: form)

/-- The octets that hold a sequence of packets, one frame after the other. The last packet may
stand in an old-style frame of indeterminate length. -/
inductive Frames : List Packet → Bytes → Prop
  | nil : Frames [] []
  | toEnd {tag : Nat} {body : Bytes} (htag : tag ≤ 15) :
      Frames [⟨tag, body⟩] (UInt8.ofNat (128 + 4 * tag + 3) :: body)
  | cons {packet : Packet} {packets : List Packet} {form rest : Bytes}
      (h : Frame packet form) (hrest : Frames packets rest) :
      Frames (packet :: packets) (form ++ rest)

theorem cut_eq_some_iff {count : Nat} {bytes front rest : Bytes} :
    cut count bytes = some (front, rest) ↔ front.length = count ∧ bytes = front ++ rest := by
  rw [cut_eq]
  constructor
  · intro h
    split at h
    · simp only [Option.some.injEq, Prod.mk.injEq] at h
      obtain ⟨rfl, rfl⟩ := h
      refine ⟨?_, (List.take_append_drop ..).symm⟩
      rw [List.length_take]
      omega
    · simp at h
  · rintro ⟨rfl, rfl⟩
    simp

theorem cutNumber_eq_some_iff {width n : Nat} {bytes rest : Bytes} :
    cutNumber width bytes = some (n, rest) ↔
      n < 256 ^ width ∧ bytes = bigEndian width n ++ rest := by
  simp only [cutNumber, Option.map_eq_some_iff, Prod.mk.injEq, Prod.exists]
  constructor
  · rintro ⟨front, tail, hcut, rfl, rfl⟩
    obtain ⟨rfl, rfl⟩ := cut_eq_some_iff.1 hcut
    exact ⟨ofBigEndian_lt front, by rw [bigEndian_ofBigEndian]⟩
  · rintro ⟨hn, rfl⟩
    refine ⟨bigEndian width n, rest, cut_eq_some_iff.2 ⟨length_bigEndian .., rfl⟩, ?_, rfl⟩
    rw [ofBigEndian_bigEndian, Nat.mod_eq_of_lt hn]

theorem toNat_ofNat {n : Nat} (h : n < 256) : (UInt8.ofNat n).toNat = n := by
  rw [UInt8.toNat_ofNat', Nat.mod_eq_of_lt h]

theorem eq_ofNat {b : UInt8} {n : Nat} (h : b.toNat = n) : b = UInt8.ofNat n := by
  rw [← h, UInt8.ofNat_toNat]

theorem chunkLength_of_lastLength {n : Nat} {form : Bytes} (h : LastLength n form)
    (rest : Bytes) : chunkLength (form ++ rest) = some (.last n, rest) := by
  cases h with
  | short h =>
      have hn := toNat_ofNat (n := n) (by omega)
      simp [chunkLength, hn, h]
  | double hlow hhigh =>
      have hfirst := toNat_ofNat (n := 192 + (n - 192) / 256) (by omega)
      have hsecond := toNat_ofNat (n := (n - 192) % 256) (by omega)
      have hlt : 192 + (n - 192) / 256 < 224 := by omega
      have hge : ¬192 + (n - 192) / 256 < 192 := by omega
      have hsum : (192 + (n - 192) / 256 - 192) * 256 + (n - 192) % 256 + 192 = n := by omega
      simp only [chunkLength, List.cons_append, List.nil_append, hfirst, hsecond, if_neg hge,
        if_pos hlt, hsum]
  | full h =>
      have hnumber : cutNumber 4 (bigEndian 4 n ++ rest) = some (n, rest) :=
        cutNumber_eq_some_iff.2 ⟨h, rfl⟩
      simp [chunkLength, hnumber]

theorem chunkLength_of_partial {k : Nat} (hk : k ≤ 30) (rest : Bytes) :
    chunkLength (UInt8.ofNat (224 + k) :: rest) = some (.more (2 ^ k), rest) := by
  have hn := toNat_ofNat (n := 224 + k) (by omega)
  have h₁ : ¬224 + k < 192 := by omega
  have h₂ : ¬224 + k < 224 := by omega
  have h₃ : ¬224 + k = 255 := by omega
  have h₄ : (224 + k) % 32 = k := by omega
  simp only [chunkLength, hn, if_neg h₁, if_neg h₂, if_neg h₃, h₄]

/-- Every length at the front of a new-style body is one that the grammar lists. -/
theorem form_of_chunkLength {bytes rest : Bytes} {length : ChunkLength}
    (h : chunkLength bytes = some (length, rest)) :
    match length with
    | .last n => ∃ form, LastLength n form ∧ bytes = form ++ rest
    | .more n => ∃ k, k ≤ 30 ∧ n = 2 ^ k ∧ bytes = UInt8.ofNat (224 + k) :: rest := by
  cases bytes with
  | nil => simp [chunkLength] at h
  | cons first tail =>
      have hfirst := first.toNat_lt
      simp only [chunkLength] at h
      split at h
      · rename_i hlt
        simp only [Option.some.injEq, Prod.mk.injEq] at h
        obtain ⟨rfl, rfl⟩ := h
        exact ⟨_, .short hlt, by simp⟩
      · split at h
        · cases tail with
          | nil => simp at h
          | cons second tail =>
              have hsecond := second.toNat_lt
              simp only [Option.some.injEq, Prod.mk.injEq] at h
              obtain ⟨rfl, rfl⟩ := h
              refine ⟨_, .double (by omega) (by omega), ?_⟩
              have h₁ := eq_ofNat (b := first)
                (n := 192 + ((first.toNat - 192) * 256 + second.toNat + 192 - 192) / 256)
                (by omega)
              have h₂ := eq_ofNat (b := second)
                (n := ((first.toNat - 192) * 256 + second.toNat + 192 - 192) % 256) (by omega)
              rw [← h₁, ← h₂]
              rfl
        · split at h
          · rename_i hfull
            simp only [Option.map_eq_some_iff, Prod.mk.injEq, Prod.exists] at h
            obtain ⟨n, after, hnumber, rfl, rfl⟩ := h
            obtain ⟨hn, rfl⟩ := cutNumber_eq_some_iff.1 hnumber
            exact ⟨_, .full hn, by rw [eq_ofNat hfull]; rfl⟩
          · simp only [Option.some.injEq, Prod.mk.injEq] at h
            obtain ⟨rfl, rfl⟩ := h
            refine ⟨first.toNat % 32, by omega, rfl, ?_⟩
            rw [← eq_ofNat (b := first) (by omega)]

/-- The recursion of `chunks` with the steps of one partial chunk joined. -/
theorem chunks_eq (bytes : Bytes) :
    chunks bytes =
      match chunkLength bytes with
      | none => none
      | some (.last length, rest) => cut length rest
      | some (.more length, rest) =>
          (cut length rest).bind fun (chunk, rest) =>
            (chunks rest).map fun (body, rest) => (chunk ++ body, rest) := by
  rw [chunks]
  split
  · rename_i h
    simp only [h]
  · rename_i h
    simp only [h]
  · rename_i length rest h
    simp only [h]
    split <;> rename_i hcut <;> simp only [hcut, Option.bind_none, Option.bind_some]

theorem chunks_of_chunked {body form : Bytes} (h : Chunked body form) (rest : Bytes) :
    chunks (form ++ rest) = some (body, rest) := by
  induction h with
  | @last body length h =>
      have hlength := chunkLength_of_lastLength h (body ++ rest)
      rw [chunks_eq, List.append_assoc, hlength]
      exact cut_eq_some_iff.2 ⟨rfl, rfl⟩
  | @more k chunk body form hk hchunk h ih =>
      have hlength := chunkLength_of_partial hk (chunk ++ (form ++ rest))
      have hcut : cut (2 ^ k) (chunk ++ (form ++ rest)) = some (chunk, form ++ rest) :=
        cut_eq_some_iff.2 ⟨hchunk, rfl⟩
      rw [chunks_eq, List.cons_append, List.cons_append, List.append_assoc, hlength]
      simp only [hcut, Option.bind_some, ih, Option.map_some]

/-- The body of a new-style frame is cut only from octets that the grammar lists. -/
theorem chunked_of_chunks {bytes body rest : Bytes} (h : chunks bytes = some (body, rest)) :
    ∃ form, Chunked body form ∧ bytes = form ++ rest := by
  fun_induction chunks bytes generalizing body with
  | case1 => simp at h
  | case2 bytes length after hlength =>
      obtain ⟨form, hform, rfl⟩ := form_of_chunkLength hlength
      obtain ⟨rfl, rfl⟩ := cut_eq_some_iff.1 h
      exact ⟨form ++ body, .last hform, by rw [List.append_assoc]⟩
  | case3 => simp at h
  | case4 bytes length after hlength chunk tail hcut ih =>
      simp only [Option.map_eq_some_iff, Prod.mk.injEq, Prod.exists] at h
      obtain ⟨body', rest', hrest, rfl, rfl⟩ := h
      obtain ⟨k, hk, rfl, rfl⟩ := form_of_chunkLength hlength
      obtain ⟨hchunk, rfl⟩ := cut_eq_some_iff.1 hcut
      obtain ⟨form, hform, rfl⟩ := ih hrest
      exact ⟨_, .more hk hchunk hform, by simp⟩

/-- A frame that says where its packet ends is cut off whatever stands behind it. -/
theorem afterHeader_of_frame {packet : Packet} {form : Bytes} (h : Frame packet form) :
    ∃ header tail, form = header :: tail ∧ 128 ≤ header.toNat ∧
      ∀ rest, afterHeader header (tail ++ rest) = some (packet, rest) := by
  cases h with
  | @old tag lengthType body htag htype hbody =>
      have hn := toNat_ofNat (n := 128 + 4 * tag + lengthType) (by omega)
      refine ⟨_, _, rfl, by omega, fun rest => ?_⟩
      have hstyle : ¬64 ≤ (128 + 4 * tag + lengthType) % 128 := by omega
      have htype' : (128 + 4 * tag + lengthType) % 4 = lengthType := by omega
      have htag' : (128 + 4 * tag + lengthType) / 4 % 16 = tag := by omega
      have hne : ¬lengthType = 3 := by omega
      have hnumber : cutNumber (2 ^ lengthType)
          (bigEndian (2 ^ lengthType) body.length ++ (body ++ rest)) =
            some (body.length, body ++ rest) := cutNumber_eq_some_iff.2 ⟨hbody, rfl⟩
      have hcut : cut body.length (body ++ rest) = some (body, rest) :=
        cut_eq_some_iff.2 ⟨rfl, rfl⟩
      simp only [afterHeader, hn, if_neg hstyle, htype', htag', oldBody, if_neg hne,
        List.append_assoc, hnumber, hcut, Option.bind_eq_bind, Option.bind_some, Option.map_some]
  | @new tag body form htag h =>
      have hn := toNat_ofNat (n := 192 + tag) (by omega)
      refine ⟨_, _, rfl, by omega, fun rest => ?_⟩
      have hstyle : 64 ≤ (192 + tag) % 128 := by omega
      have htag' : (192 + tag) % 64 = tag := by omega
      simp only [afterHeader, hn, if_pos hstyle, htag', chunks_of_chunked h, Option.map_some]

theorem afterHeader_toEnd {tag : Nat} (htag : tag ≤ 15) (body : Bytes) :
    afterHeader (UInt8.ofNat (128 + 4 * tag + 3)) body = some (⟨tag, body⟩, []) := by
  have hn := toNat_ofNat (n := 128 + 4 * tag + 3) (by omega)
  have hstyle : ¬64 ≤ (128 + 4 * tag + 3) % 128 := by omega
  have htype : (128 + 4 * tag + 3) % 4 = 3 := by omega
  have htag' : (128 + 4 * tag + 3) / 4 % 16 = tag := by omega
  simp only [afterHeader, hn, if_neg hstyle, htype, htag', oldBody, if_true, Option.map_some]

/-- What is cut off behind a header octet is a frame, or everything if the frame does not say where
its packet ends. -/
theorem frame_of_afterHeader {header : UInt8} {bytes rest : Bytes} {packet : Packet}
    (hheader : 128 ≤ header.toNat) (h : afterHeader header bytes = some (packet, rest)) :
    (∃ form, Frame packet form ∧ header :: bytes = form ++ rest) ∨
      ∃ tag, tag ≤ 15 ∧ header = UInt8.ofNat (128 + 4 * tag + 3) ∧ packet = ⟨tag, bytes⟩ ∧
        rest = [] := by
  have hlt := header.toNat_lt
  simp only [afterHeader] at h
  split at h
  · simp only [Option.map_eq_some_iff, Prod.mk.injEq, Prod.exists] at h
    obtain ⟨body, after, hbody, rfl, rfl⟩ := h
    obtain ⟨form, hform, rfl⟩ := chunked_of_chunks hbody
    have hframe : Frame ⟨header.toNat % 64, body⟩ _ := .new (by omega) hform
    refine .inl ⟨_, hframe, ?_⟩
    rw [← eq_ofNat (b := header) (by omega), List.cons_append]
  · simp only [Option.map_eq_some_iff, Prod.mk.injEq, Prod.exists] at h
    obtain ⟨body, after, hbody, rfl, rfl⟩ := h
    unfold oldBody at hbody
    split at hbody
    · simp only [Option.some.injEq, Prod.mk.injEq] at hbody
      obtain ⟨rfl, rfl⟩ := hbody
      exact .inr ⟨header.toNat / 4 % 16, by omega, eq_ofNat (by omega), rfl, rfl⟩
    · simp only [Option.bind_eq_bind, Option.bind_eq_some_iff, Prod.exists] at hbody
      obtain ⟨length, tail, hnumber, hcut⟩ := hbody
      obtain ⟨hlength, rfl⟩ := cutNumber_eq_some_iff.1 hnumber
      obtain ⟨rfl, rfl⟩ := cut_eq_some_iff.1 hcut
      have hframe : Frame ⟨header.toNat / 4 % 16, body⟩ _ := .old (by omega) (by omega) hlength
      refine .inl ⟨_, hframe, ?_⟩
      rw [← eq_ofNat (b := header) (by omega), List.cons_append, List.append_assoc]

/-- The scan of octets that begin with a header octet. -/
theorem scanFrom_cons {size : Nat} {header : UInt8} {tail rest : Bytes} {packet : Packet}
    (hheader : 128 ≤ header.toNat) (h : afterHeader header tail = some (packet, rest)) :
    scanFrom size (header :: tail) =
      ⟨packet :: (scanFrom size rest).packets, (scanFrom size rest).failure?⟩ := by
  rw [scanFrom, if_neg (by omega)]
  split
  · rename_i hnone
    rw [h] at hnone
    simp at hnone
  · rename_i packet' rest' hsome
    rw [h] at hsome
    simp only [Option.some.injEq, Prod.mk.injEq] at hsome
    obtain ⟨rfl, rfl⟩ := hsome
    rfl

theorem scanFrom_nil (size : Nat) : scanFrom size [] = ⟨[], none⟩ := by
  rw [scanFrom]

/-- A frame is scanned as its packet, and the scan goes on behind it. -/
theorem scanFrom_frame {packet : Packet} {form : Bytes} (h : Frame packet form) (size : Nat)
    (rest : Bytes) : scanFrom size (form ++ rest) =
      ⟨packet :: (scanFrom size rest).packets, (scanFrom size rest).failure?⟩ := by
  obtain ⟨header, tail, rfl, hheader, hafter⟩ := afterHeader_of_frame h
  exact scanFrom_cons hheader (hafter rest)

theorem scanFrom_of_frames {packets : List Packet} {bytes : Bytes} (h : Frames packets bytes)
    (size : Nat) : scanFrom size bytes = ⟨packets, none⟩ := by
  induction h with
  | nil => exact scanFrom_nil size
  | @toEnd tag body htag =>
      have hn := toNat_ofNat (n := 128 + 4 * tag + 3) (by omega)
      rw [scanFrom_cons (by omega) (afterHeader_toEnd htag body), scanFrom_nil]
  | @cons packet packets form rest hframe hrest ih =>
      rw [scanFrom_frame hframe, ih]

theorem frames_of_scanFrom {size : Nat} {bytes : Bytes} {packets : List Packet}
    (h : scanFrom size bytes = ⟨packets, none⟩) : Frames packets bytes := by
  fun_induction scanFrom size bytes generalizing packets with
  | case1 =>
      simp only [Scan.mk.injEq, and_true] at h
      exact h ▸ .nil
  | case2 => simp at h
  | case3 => simp at h
  | case4 header tail hheader packet rest hafter after =>
      rename_i ih
      simp only [Scan.mk.injEq] at h
      obtain ⟨rfl, hnone⟩ := h
      have hrest : Frames after.packets rest := ih (by rw [← hnone])
      rcases frame_of_afterHeader (by omega) hafter with
        ⟨form, hform, heq⟩ | ⟨tag, htag, rfl, rfl, rfl⟩
      · rw [heq]
        exact .cons hform hrest
      · have hempty : after.packets = [] := by
          simp only [after, scanFrom_nil]
        rw [hempty]
        exact .toEnd htag

/-- The scan comes to the end of some octets with the given packets exactly if the octets are frames
of these packets. -/
theorem scan_complete_iff {bytes : Bytes} {packets : List Packet} :
    scan bytes = ⟨packets, none⟩ ↔ Frames packets bytes :=
  ⟨frames_of_scanFrom, fun h => scanFrom_of_frames h _⟩

/-- A written header holds the tag and the length in one of the three widths. -/
theorem form_of_header {tag length : Nat} {octets : Bytes} (h : header tag length = .ok octets) :
    ∃ lengthType, lengthType ≤ 2 ∧ length < 256 ^ 2 ^ lengthType ∧
      octets = UInt8.ofNat (128 + 4 * tag + lengthType) ::
        bigEndian (2 ^ lengthType) length := by
  unfold header at h
  split at h
  · rename_i hlength
    cases h
    exact ⟨0, by decide, by simpa using hlength, by simp [bigEndian, Nat.mul_comm]⟩
  · split at h
    · rename_i hlength
      cases h
      exact ⟨1, by decide, by simpa using hlength, by simp [Nat.mul_comm]⟩
    · split at h
      · rename_i hlength
        cases h
        exact ⟨2, by decide, by simpa using hlength, by simp [Nat.mul_comm]⟩
      · simp at h

/-- The written form of a packet is an old-style frame. -/
theorem frame_of_encode {tag : Int} {body form : Bytes} (h : encode tag body = .ok form) :
    Frame ⟨tag.toNat, body⟩ form := by
  unfold encode at h
  split at h
  · simp at h
  · split at h
    · simp at h
    · rename_i hle hpos
      cases hheader : header tag.toNat body.length with
      | error failure =>
          rw [hheader] at h
          simp [Except.map] at h
      | ok octets =>
          obtain ⟨lengthType, htype, hlength, rfl⟩ := form_of_header hheader
          rw [hheader] at h
          cases h
          exact .old (by omega) htype hlength

theorem encode_ok {tag : Nat} {body : Bytes} (htag : tag ≤ 15)
    (hbody : body.length < 2 ^ 32) : ∃ form, encode tag body = .ok form := by
  have h₁ : ¬(15 : Int) < tag := by omega
  have h₂ : ¬(tag : Int) < 0 := by omega
  simp only [encode, if_neg h₁, if_neg h₂, header]
  split
  · exact ⟨_, rfl⟩
  · split
    · exact ⟨_, rfl⟩
    · rw [if_pos (by omega)]
      exact ⟨_, rfl⟩

/-- Packets that have been written one after the other are frames of these packets. -/
theorem frames_of_encode {packets : List Packet}
    (h : ∀ packet ∈ packets, packet.tag ≤ 15 ∧ packet.body.length < 2 ^ 32) :
    ∃ forms, packets.mapM (fun packet => encode packet.tag packet.body) = .ok forms ∧
      Frames packets forms.flatten := by
  induction packets with
  | nil => exact ⟨[], rfl, .nil⟩
  | cons packet packets ih =>
      obtain ⟨htag, hbody⟩ := h packet List.mem_cons_self
      obtain ⟨form, hform⟩ := encode_ok htag hbody
      obtain ⟨forms, hforms, hframes⟩ := ih fun other hother => h other (.tail _ hother)
      refine ⟨form :: forms, ?_, .cons (frame_of_encode hform) hframes⟩
      rw [List.mapM_cons, hform, hforms]
      rfl

/-- The scan accepts exactly the framing grammar. In particular the written forms of packets, put
one after the other, give back all the packets. -/
theorem scan_exact_for_grammar :
    (∀ bytes packets, scan bytes = ⟨packets, none⟩ ↔ Frames packets bytes) ∧
      ∀ packets : List Packet,
        (∀ packet ∈ packets, packet.tag ≤ 15 ∧ packet.body.length < 2 ^ 32) →
        ∃ forms, packets.mapM (fun packet => encode packet.tag packet.body) = .ok forms ∧
          scan forms.flatten = ⟨packets, none⟩ := by
  refine ⟨fun _ _ => scan_complete_iff, fun packets h => ?_⟩
  obtain ⟨forms, hforms, hframes⟩ := frames_of_encode h
  exact ⟨forms, hforms, scan_complete_iff.2 hframes⟩

/-- A body of 256 octets, which needs the wider length, between two short ones. -/
theorem scan_exact_for_three_packets :
    (∀ packet ∈ [⟨2, [1]⟩, ⟨13, List.replicate 256 7⟩, (⟨15, []⟩ : Packet)],
        packet.tag ≤ 15 ∧ packet.body.length < 2 ^ 32) ∧
      ∃ forms, [⟨2, [1]⟩, ⟨13, List.replicate 256 7⟩, (⟨15, []⟩ : Packet)].mapM
          (fun packet => encode packet.tag packet.body) = .ok forms ∧
        scan forms.flatten = ⟨[⟨2, [1]⟩, ⟨13, List.replicate 256 7⟩, ⟨15, []⟩], none⟩ := by
  have h : ∀ packet ∈ [⟨2, [1]⟩, ⟨13, List.replicate 256 7⟩, (⟨15, []⟩ : Packet)],
      packet.tag ≤ 15 ∧ packet.body.length < 2 ^ 32 := by
    intro packet hpacket
    simp only [List.mem_cons, List.not_mem_nil, or_false] at hpacket
    rcases hpacket with rfl | rfl | rfl
    · decide
    · exact ⟨by decide, by rw [List.length_replicate]; decide⟩
    · decide
  exact ⟨h, scan_exact_for_grammar.2 _ h⟩

end ArtifactSigning.Packet
