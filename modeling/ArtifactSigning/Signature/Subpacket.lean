import ArtifactSigning.Packet.Frame

/-!
# Signature subpackets

A signature carries its properties in an area of subpackets. Each has a length in one, two or five
octets, an octet with its kind and a critical mark, and a value. `Subpacket.readAll` cuts an area
into subpackets; `Subpacket.encode` writes one.
-/
namespace ArtifactSigning

/-- A subpacket. The topmost bit of the kind octet marks those that must be understood. -/
structure Subpacket where
  kindOctet : UInt8
  value : Bytes
  deriving DecidableEq, Repr

namespace Subpacket

/-- The kind without the critical mark. -/
def kind (s : Subpacket) : Nat := s.kindOctet.toNat % 128

/-- The kinds that the library writes or reads. -/
def creationTimeKind : Nat := 2
def keyExpirationKind : Nat := 9
def issuerKeyIdKind : Nat := 16
def issuerFingerprintKind : Nat := 33

/-- The length at the front of a subpacket and what follows: one octet below 192, two below 255 and
five otherwise. -/
def length? : Bytes → Option (Nat × Bytes)
  | [] => none
  | first :: rest =>
      let n := first.toNat
      if n < 192 then some (n, rest)
      else if n < 255 then
        match rest with
        | [] => none
        | second :: rest => some ((n - 192) * 256 + second.toNat + 192, rest)
      else Packet.cutNumber 4 rest

theorem length_of_length? {bytes rest : Bytes} {length : Nat}
    (h : length? bytes = some (length, rest)) : rest.length < bytes.length := by
  unfold length? at h
  split at h
  · simp at h
  · rename_i first rest'
    simp only at h
    split at h
    · simp_all
    · split at h
      · split at h
        · simp at h
        · simp only [Option.some.injEq, Prod.mk.injEq] at h
          rw [← h.2]
          simp only [List.length_cons]
          omega
      · have := Packet.length_of_cutNumber h
        simp only [List.length_cons]
        omega

/-- The subpackets of an area. A subpacket has at least its kind octet, so that one without octets
is refused before its first octet is looked at. -/
def readAll (area : Bytes) : Except Failure (List Subpacket) :=
  if area = [] then .ok []
  else
    match _h : length? area with
    | none => .error (.format .truncated)
    | some (length, rest) =>
        if length = 0 then .error (.format .emptySubpacket)
        else
          match _hcut : Packet.cut length rest with
          | none => .error (.format .truncated)
          | some (kindOctet :: value, rest) =>
              (readAll rest).map (⟨kindOctet, value⟩ :: ·)
          | some ([], _) => .error .invalidValue
termination_by area.length
decreasing_by
  have h₁ := length_of_length? _h
  have h₂ := Packet.length_of_cut _hcut
  omega

/-- The octets of a length. -/
def encodeLength (length : Nat) : Except Failure Bytes :=
  if length < 192 then .ok [UInt8.ofNat length]
  else if length < 8384 then .ok (bigEndian 2 (length - 192 + 192 * 256))
  else if length < 2 ^ 32 then .ok (0xFF :: bigEndian 4 length)
  else .error .fieldOverflow

/-- A kind with the critical mark set or left as it is. -/
def markedKind (kind : Nat) (critical : Bool) : UInt8 :=
  if critical then UInt8.ofNat kind ||| 0x80 else UInt8.ofNat kind

/-- Writes a subpacket. Only one octet is there for the kind. -/
def encode (kind : Int) (value : Bytes) (critical : Bool) : Except Failure Bytes :=
  if kind < 0 ∨ 255 < kind then .error .invalidValue
  else do
    let body := markedKind kind.toNat critical :: value
    return (← encodeLength body.length) ++ body

/-- A number in a field of four octets. -/
def encodeTime (time : Int) : Except Failure Bytes :=
  if 0 ≤ time ∧ time < (2 ^ 32 : Nat) then .ok (bigEndian 4 time.toNat)
  else .error .fieldOverflow

/-- The subpacket that says when a signature was made. -/
def creationTime (time : Int) : Except Failure Bytes := do
  encode creationTimeKind (← encodeTime time) false

/-- The subpacket that names the signing key. -/
def issuerFingerprint (fingerprint : Bytes) : Except Failure Bytes :=
  if fingerprint.length = 20 then encode issuerFingerprintKind (4 :: fingerprint) false
  else .error .fingerprintSize

end Subpacket

end ArtifactSigning
