import ArtifactSigning.Bytes

/-!
# UTF-8

`encode` writes a text as octets. `decode?` reads well-formed octets only, and `decodeLossy` reads
any octets, with one replacement character for every maximal piece that no text begins with.
-/
namespace ArtifactSigning.Text.Utf8

/-- The octets of a text. -/
def encode (text : List Char) : Bytes := text.flatMap String.utf8EncodeChar

/-- What a leading octet announces: the number of octets that follow, the least and the greatest
value of the first of them, and the bits that the leading octet itself contributes. -/
structure Lead where
  following : Nat
  low : UInt8
  high : UInt8
  bits : Nat

/-- The announcement of an octet that can begin a character. The narrower bounds after `E0`, `ED`,
`F0` and `F4` leave out overlong forms, surrogates and numbers above U+10FFFF. -/
def lead? (b : UInt8) : Option Lead :=
  if b < 0x80 then some ⟨0, 0, 0, b.toNat⟩
  else if b < 0xC2 then none
  else if b < 0xE0 then some ⟨1, 0x80, 0xBF, b.toNat - 0xC0⟩
  else if b = 0xE0 then some ⟨2, 0xA0, 0xBF, 0⟩
  else if b = 0xED then some ⟨2, 0x80, 0x9F, 0xD⟩
  else if b < 0xF0 then some ⟨2, 0x80, 0xBF, b.toNat - 0xE0⟩
  else if b = 0xF0 then some ⟨3, 0x90, 0xBF, 0⟩
  else if b < 0xF4 then some ⟨3, 0x80, 0xBF, b.toNat - 0xF0⟩
  else if b = 0xF4 then some ⟨3, 0x80, 0x8F, 4⟩
  else none

/-- Reads `count` continuation octets onto the bits read so far. The first of them lies between
`low` and `high`. Without a character, what is left starts at the first octet out of place. -/
def continuation : (count : Nat) → (low high : UInt8) → (bits : Nat) → Bytes → Option Nat × Bytes
  | 0, _, _, bits, rest => (some bits, rest)
  | _ + 1, _, _, _, [] => (none, [])
  | count + 1, low, high, bits, b :: rest =>
      if low ≤ b ∧ b ≤ high then
        continuation count 0x80 0xBF (bits * 64 + (b.toNat - 0x80)) rest
      else (none, b :: rest)

theorem length_continuation_le (count : Nat) (low high : UInt8) (bits : Nat) (rest : Bytes) :
    (continuation count low high bits rest).2.length ≤ rest.length := by
  induction count generalizing low high bits rest with
  | zero => exact Nat.le_refl _
  | succ count ih =>
      cases rest with
      | nil => exact Nat.le_refl _
      | cons b rest =>
          simp only [continuation]
          split
          · exact Nat.le_trans (ih ..) (Nat.le_succ _)
          · exact Nat.le_refl _

/-- The character at the front of some octets, if they begin with one, and the octets after it or
after the maximal piece that begins none. -/
def next (b : UInt8) (rest : Bytes) : Option Char × Bytes :=
  match lead? b with
  | none => (none, rest)
  | some lead =>
      let (bits, rest) := continuation lead.following lead.low lead.high lead.bits rest
      (bits.map Char.ofNat, rest)

theorem length_next_le (b : UInt8) (rest : Bytes) : (next b rest).2.length ≤ rest.length := by
  unfold next
  split
  · exact Nat.le_refl _
  · exact length_continuation_le ..

/-- The text of well-formed octets. -/
def decode? (bytes : Bytes) : Option (List Char) :=
  match bytes with
  | [] => some []
  | b :: rest =>
      match (next b rest).1 with
      | none => none
      | some c => (decode? (next b rest).2).map (c :: ·)
termination_by bytes.length
decreasing_by
  have := length_next_le b rest
  simp only [List.length_cons]
  omega

/-- The replacement character. -/
def replacement : Char := '\uFFFD'

/-- The text of any octets, with the replacement character for every malformed piece. -/
def decodeLossy (bytes : Bytes) : List Char :=
  match bytes with
  | [] => []
  | b :: rest => (next b rest).1.getD replacement :: decodeLossy (next b rest).2
termination_by bytes.length
decreasing_by
  have := length_next_le b rest
  simp only [List.length_cons]
  omega

end ArtifactSigning.Text.Utf8
