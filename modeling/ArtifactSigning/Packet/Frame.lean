import ArtifactSigning.Failure

/-!
# Packets

A packet is a tag and a body. A frame holds one packet: an old-style frame has the tag and the
width of the length in its first octet, a new-style frame may give its body in several chunks.
`scan` cuts a byte string into packets and stops at the first place where no frame begins;
`encode` writes an old-style frame with the narrowest length.
-/
namespace ArtifactSigning

structure Packet where
  tag : Nat
  body : Bytes
  deriving DecidableEq, Repr

namespace Packet

/-- The first `count` octets and the rest, if there are so many. -/
def cut (count : Nat) (bytes : Bytes) : Option (Bytes × Bytes) :=
  let (front, rest) := bytes.splitAt count
  if front.length = count then some (front, rest) else none

theorem cut_eq (count : Nat) (bytes : Bytes) :
    cut count bytes =
      if count ≤ bytes.length then some (bytes.take count, bytes.drop count) else none := by
  have h : min count bytes.length = count ↔ count ≤ bytes.length := by omega
  simp only [cut, List.splitAt_eq, List.length_take, h]

/-- A number of `width` octets and the rest. -/
def cutNumber (width : Nat) (bytes : Bytes) : Option (Nat × Bytes) :=
  (cut width bytes).map fun (number, rest) => (ofBigEndian number, rest)

theorem length_of_cut {count : Nat} {bytes front rest : Bytes}
    (h : cut count bytes = some (front, rest)) : bytes.length = count + rest.length := by
  rw [cut_eq] at h
  split at h
  · simp only [Option.some.injEq, Prod.mk.injEq] at h
    rw [← h.2, List.length_drop]
    omega
  · simp at h

theorem length_of_cutNumber {width n : Nat} {bytes rest : Bytes}
    (h : cutNumber width bytes = some (n, rest)) : bytes.length = width + rest.length := by
  simp only [cutNumber, Option.map_eq_some_iff, Prod.mk.injEq, Prod.exists] at h
  obtain ⟨front, tail, hcut, _, rfl⟩ := h
  exact length_of_cut hcut

/-- The length that a new-style header begins with: the length of one partial chunk, after which
another header follows, or of the last chunk. -/
inductive ChunkLength where
  | more (length : Nat)
  | last (length : Nat)
  deriving DecidableEq, Repr

/-- The length in a new-style header: one octet below 192, two below 224, five after 255; the other
first octets announce a partial chunk whose length is a power of two. -/
def chunkLength : Bytes → Option (ChunkLength × Bytes)
  | [] => none
  | first :: rest =>
      let n := first.toNat
      if n < 192 then some (.last n, rest)
      else if n < 224 then
        match rest with
        | [] => none
        | second :: rest => some (.last ((n - 192) * 256 + second.toNat + 192), rest)
      else if n = 255 then (cutNumber 4 rest).map fun (length, rest) => (.last length, rest)
      else some (.more (2 ^ (n % 32)), rest)

theorem length_of_chunkLength {bytes rest : Bytes} {length : ChunkLength}
    (h : chunkLength bytes = some (length, rest)) : rest.length < bytes.length := by
  unfold chunkLength at h
  split at h
  · simp at h
  · rename_i first rest'
    simp only at h
    split at h
    · simp_all
    · split at h
      · split at h
        · simp at h
        · simp only [Option.some.injEq, Prod.mk.injEq] at h
          rw [← h.2]
          simp only [List.length_cons]
          omega
      · split at h
        · simp only [Option.map_eq_some_iff, Prod.mk.injEq, Prod.exists] at h
          obtain ⟨_, tail, hcut, _, rfl⟩ := h
          have := length_of_cutNumber hcut
          simp only [List.length_cons]
          omega
        · simp_all

/-- The body of a new-style frame and what follows it. -/
def chunks (bytes : Bytes) : Option (Bytes × Bytes) :=
  match _h : chunkLength bytes with
  | none => none
  | some (.last length, rest) => cut length rest
  | some (.more length, rest) =>
      match _hcut : cut length rest with
      | none => none
      | some (chunk, rest) => (chunks rest).map fun (body, rest) => (chunk ++ body, rest)
termination_by bytes.length
decreasing_by
  have h₁ := length_of_chunkLength _h
  have h₂ := length_of_cut _hcut
  omega

theorem length_of_chunks {bytes body rest : Bytes} (h : chunks bytes = some (body, rest)) :
    rest.length < bytes.length := by
  fun_induction chunks bytes generalizing body with
  | case1 => simp at h
  | case2 bytes length after hlength =>
      have h₁ := length_of_chunkLength hlength
      have h₂ := length_of_cut h
      omega
  | case3 => simp at h
  | case4 bytes length after hlength chunk tail hcut ih =>
      simp only [Option.map_eq_some_iff, Prod.mk.injEq, Prod.exists] at h
      obtain ⟨body', rest', hrest, _, rfl⟩ := h
      have h₁ := length_of_chunkLength hlength
      have h₂ := length_of_cut hcut
      have h₃ := ih hrest
      omega

/-- The body of an old-style frame and what follows it. The two low bits of the header give the
width of the length; without a length the body takes everything. -/
def oldBody (lengthType : Nat) (bytes : Bytes) : Option (Bytes × Bytes) :=
  if lengthType = 3 then some (bytes, [])
  else do
    let (length, rest) ← cutNumber (2 ^ lengthType) bytes
    cut length rest

theorem length_of_oldBody {lengthType : Nat} {bytes body rest : Bytes}
    (h : oldBody lengthType bytes = some (body, rest)) : rest.length ≤ bytes.length := by
  unfold oldBody at h
  split at h
  · simp only [Option.some.injEq, Prod.mk.injEq] at h
    simp [← h.2]
  · simp only [Option.bind_eq_bind, Option.bind_eq_some_iff, Prod.exists] at h
    obtain ⟨length, tail, hnumber, hcut⟩ := h
    rw [length_of_cutNumber hnumber, length_of_cut hcut]
    exact Nat.le_trans (Nat.le_add_left ..) (Nat.le_add_left ..)

/-- The packet whose frame begins with the octet `header`, and what follows the frame. -/
def afterHeader (header : UInt8) (bytes : Bytes) : Option (Packet × Bytes) :=
  let n := header.toNat
  if 64 ≤ n % 128 then (chunks bytes).map fun (body, rest) => (⟨n % 64, body⟩, rest)
  else (oldBody (n % 4) bytes).map fun (body, rest) => (⟨n / 4 % 16, body⟩, rest)

theorem length_of_afterHeader {header : UInt8} {bytes rest : Bytes} {packet : Packet}
    (h : afterHeader header bytes = some (packet, rest)) : rest.length ≤ bytes.length := by
  simp only [afterHeader] at h
  split at h
  · simp only [Option.map_eq_some_iff, Prod.mk.injEq, Prod.exists] at h
    obtain ⟨body, tail, hbody, _, rfl⟩ := h
    exact Nat.le_of_lt (length_of_chunks hbody)
  · simp only [Option.map_eq_some_iff, Prod.mk.injEq, Prod.exists] at h
    obtain ⟨body, tail, hbody, _, rfl⟩ := h
    exact length_of_oldBody hbody

/-- The packets at the front of a byte string, and what stopped the reading before its end. -/
structure Scan where
  packets : List Packet
  failure? : Option Failure

/-- The packets of the rest of a byte string that has `size` octets. -/
def scanFrom (size : Nat) (bytes : Bytes) : Scan :=
  match bytes with
  | [] => ⟨[], none⟩
  | header :: rest =>
      if header.toNat < 128 then
        ⟨[], some (.format (.invalidHeader header (size - bytes.length)))⟩
      else
        match _h : afterHeader header rest with
        | none => ⟨[], some (.format .truncated)⟩
        | some (packet, after) =>
            let scan := scanFrom size after
            { scan with packets := packet :: scan.packets }
termination_by bytes.length
decreasing_by
  have := length_of_afterHeader _h
  simp only [List.length_cons]
  omega

/-- The packets of a byte string. -/
def scan (bytes : Bytes) : Scan := scanFrom bytes.length bytes

/-- The header of an old-style frame: the tag and, in the narrowest field, the length. -/
def header (tag : Nat) (length : Nat) : Except Failure Bytes :=
  if length < 0x100 then .ok [UInt8.ofNat (128 + tag * 4), UInt8.ofNat length]
  else if length < 0x10000 then .ok (UInt8.ofNat (128 + tag * 4 + 1) :: bigEndian 2 length)
  else if length < 0x100000000 then
    .ok (UInt8.ofNat (128 + tag * 4 + 2) :: bigEndian 4 length)
  else .error .fieldOverflow

/-- The old-style frame of a packet; the tag has to fit into four bits. -/
def encode (tag : Int) (body : Bytes) : Except Failure Bytes :=
  if 15 < tag then .error (.packetTag tag)
  else if tag < 0 then .error .invalidValue
  else (header tag.toNat body.length).map (· ++ body)

end Packet

end ArtifactSigning
