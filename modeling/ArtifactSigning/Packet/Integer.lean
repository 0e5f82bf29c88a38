import ArtifactSigning.Packet.Cursor

/-!
# Multiprecision integers

A multiprecision integer is written as its exact bit length in two octets, followed by its shortest
big-endian form.
-/
namespace ArtifactSigning

/-- The greatest bit length that two octets hold. -/
def maxIntegerBits : Nat := 65535

/-- The multiprecision form of a number, if its bit length fits. -/
def encodeInteger (n : Nat) : Except Failure Bytes :=
  if bitLength n ≤ maxIntegerBits then .ok (bigEndian 2 (bitLength n) ++ magnitude n)
  else .error .fieldOverflow

/-- The multiprecision form of an integer; a negative one has none. -/
def encodeSigned (n : Int) : Except Failure Bytes :=
  if n < 0 ∧ bitLength n.natAbs ≤ maxIntegerBits then .error .negativeNumber
  else encodeInteger n.natAbs

/-- The multiprecision form of the number that some octets spell. Leading zero octets do not count;
with too many others the number is not needed to see that it does not fit. -/
def encodeOctets (bytes : Bytes) : Except Failure Bytes :=
  let digits := bytes.dropWhile (· = 0)
  if octetsFor maxIntegerBits < digits.length then .error .fieldOverflow
  else encodeInteger (ofBigEndian digits)

theorem ofBigEndian_dropWhile_zero (bytes : Bytes) :
    ofBigEndian (bytes.dropWhile (· = 0)) = ofBigEndian bytes := by
  induction bytes with
  | nil => rfl
  | cons b rest ih =>
      by_cases h : b = 0
      · rw [List.dropWhile_cons_of_pos (by simpa using h), ih, ofBigEndian_cons, h]
        simp
      · rw [List.dropWhile_cons_of_neg (by simpa using h)]

/-- A number with a leading octet other than zero needs all its octets. -/
theorem lt_bitLength_ofBigEndian_cons {b : UInt8} (rest : Bytes) (h : b ≠ 0) :
    8 * rest.length < bitLength (ofBigEndian (b :: rest)) := by
  have hb : 1 ≤ b.toNat := by
    have : b.toNat ≠ 0 := fun h' => h (UInt8.toNat_inj.1 (by simpa using h'))
    omega
  have hle : 2 ^ (8 * rest.length) ≤ ofBigEndian (b :: rest) := by
    rw [ofBigEndian_cons, Nat.pow_mul]
    exact Nat.le_trans (Nat.le_mul_of_pos_left _ hb) (Nat.le_add_right _ _)
  have hne : ofBigEndian (b :: rest) ≠ 0 := by
    have := Nat.pow_pos (n := 8 * rest.length) (show 0 < 2 by decide)
    omega
  rw [bitLength, if_neg hne]
  exact Nat.lt_succ_of_le ((Nat.le_log2 hne).2 hle)

/-- The early refusal changes nothing. -/
theorem encodeOctets_eq (bytes : Bytes) :
    encodeOctets bytes = encodeInteger (ofBigEndian bytes) := by
  simp only [encodeOctets, ofBigEndian_dropWhile_zero]
  split
  · rename_i hlong
    rw [← ofBigEndian_dropWhile_zero bytes]
    match hd : bytes.dropWhile (· = 0) with
    | [] => simp [hd] at hlong
    | b :: rest =>
        have hb : b ≠ 0 := by
          have := List.head?_dropWhile_not (· = 0) bytes
          simpa [hd] using this
        have hlt := lt_bitLength_ofBigEndian_cons rest hb
        rw [hd] at hlong ⊢
        simp only [octetsFor, maxIntegerBits, List.length_cons] at hlong
        rw [encodeInteger, if_neg]
        simp only [maxIntegerBits]
        omega
  · rfl

end ArtifactSigning
