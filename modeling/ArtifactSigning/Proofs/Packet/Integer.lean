import ArtifactSigning.Key.PrivateKey
import ArtifactSigning.Packet.Integer
import ArtifactSigning.Proofs.Packet.Cutting

/-!
# Multiprecision integers are read back

The written form of a number is read as its shortest octets. Zeros that a string of octets loses at
its front when it is written as a number come back when it is filled up to its old length. Readers
also take forms with a greater bit count; what they take is the written form of its number exactly
if the bit count is the bit length of the number (`encodeInteger_eq_upTo_iff`).
-/
namespace ArtifactSigning

open Reading PrivateNumbers Step

variable {n size : Nat} {bytes form : Bytes}

theorem bytes_ext {xs ys : Bytes} (hlength : xs.length = ys.length)
    (h : ofBigEndian xs = ofBigEndian ys) : xs = ys := by
  rw [← bigEndian_ofBigEndian xs, ← bigEndian_ofBigEndian ys, hlength, h]

theorem ofBigEndian_replicate_zero (size : Nat) : ofBigEndian (List.replicate size 0) = 0 := by
  induction size with
  | zero => rfl
  | succ size ih => simp [List.replicate_succ, ofBigEndian_cons, ih]

/-- The bit length is the least number of bits that hold a number. -/
theorem bitLength_le_iff {bits : Nat} : bitLength n ≤ bits ↔ n < 2 ^ bits := by
  rw [bitLength]
  split
  · rename_i hzero
    rw [hzero]
    exact ⟨fun _ => Nat.two_pow_pos bits, fun _ => Nat.zero_le bits⟩
  · rename_i hne
    exact Nat.succ_le_iff.trans (Nat.log2_lt hne)

theorem lt_two_pow_bitLength (n : Nat) : n < 2 ^ bitLength n :=
  bitLength_le_iff.1 (Nat.le_refl _)

/-- A number that fits into some octets has no more octets in its shortest form. -/
theorem length_magnitude_le (h : n < 256 ^ size) : (magnitude n).length ≤ size := by
  have hbits : bitLength n ≤ 8 * size := by
    apply bitLength_le_iff.2
    rwa [Nat.pow_mul]
  rw [magnitude, length_bigEndian, octetsFor]
  omega

theorem ofBigEndian_magnitude (n : Nat) : ofBigEndian (magnitude n) = n := by
  rw [magnitude, ofBigEndian_bigEndian]
  apply Nat.mod_eq_of_lt
  have hbits : 2 ^ bitLength n ≤ 2 ^ (8 * octetsFor (bitLength n)) := by
    apply Nat.pow_le_pow_right (by decide)
    rw [octetsFor]
    omega
  rw [Nat.pow_mul] at hbits
  exact Nat.lt_of_lt_of_le (lt_two_pow_bitLength n) hbits

/-- The shortest form of a string of octets, filled up to its length, is that string. -/
theorem leftPad_magnitude (bytes : Bytes) :
    leftPad bytes.length (magnitude (ofBigEndian bytes)) = bytes := by
  have hle := length_magnitude_le (ofBigEndian_lt bytes)
  apply bytes_ext
  · rw [leftPad, List.length_append, List.length_replicate]
    omega
  · rw [leftPad, ofBigEndian_append, ofBigEndian_replicate_zero, ofBigEndian_magnitude,
      Nat.zero_mul, Nat.zero_add]

/-- The numbers that have a written form, and which it is. -/
theorem encodeInteger_eq_ok_iff : encodeInteger n = .ok form ↔
    n < 2 ^ maxIntegerBits ∧ integerForm (bitLength n) (magnitude n) = form := by
  rw [encodeInteger, ← bitLength_le_iff]
  split
  · rename_i hfits
    simp [hfits, integerForm]
  · rename_i hfits
    simp [hfits]

theorem encodeInteger_of_ge (h : 2 ^ maxIntegerBits ≤ n) :
    encodeInteger n = .error .fieldOverflow := by
  rw [encodeInteger, if_neg]
  rw [bitLength_le_iff]
  exact Nat.not_lt.2 h

theorem reads_of_encodeInteger (h : encodeInteger n = .ok form) :
    Reads integerOctets form (magnitude n) := by
  obtain ⟨hlt, rfl⟩ := encodeInteger_eq_ok_iff.1 h
  refine reads_integerOctets ?_ (length_bigEndian _ _)
  have hbits := bitLength_le_iff.2 hlt
  simp only [maxIntegerBits] at hbits
  omega

/-- A number is read back. -/
theorem reads_integer_of_encodeInteger (h : encodeInteger n = .ok form) :
    Reads integer form n := by
  have hread : Reads integer form (ofBigEndian (magnitude n)) := (reads_of_encodeInteger h).map
  rwa [ofBigEndian_magnitude] at hread

/-- A string of octets is read back without its leading zeros. -/
theorem reads_of_encodeOctets (h : encodeOctets bytes = .ok form) :
    ∃ octets, Reads integerOctets form octets ∧ leftPad bytes.length octets = bytes := by
  rw [encodeOctets_eq] at h
  exact ⟨_, reads_of_encodeInteger h, leftPad_magnitude bytes⟩

/-- A number in the multiprecision form has two octets for its bit length and at most 8192 more. -/
theorem length_of_encodeInteger {n : Nat} {form : Bytes} (h : encodeInteger n = .ok form) :
    form.length ≤ 2 + octetsFor maxIntegerBits := by
  obtain ⟨hlt, rfl⟩ := encodeInteger_eq_ok_iff.1 h
  have hbits := bitLength_le_iff.2 hlt
  rw [integerForm, List.length_append, length_bigEndian, magnitude, length_bigEndian]
  simp only [octetsFor]
  omega

theorem length_of_encodeOctets {bytes form : Bytes} (h : encodeOctets bytes = .ok form) :
    form.length ≤ 2 + octetsFor maxIntegerBits :=
  length_of_encodeInteger (encodeOctets_eq bytes ▸ h)

section Canonical

variable {bits : Nat} {octets : Bytes} {c d : Cursor}

/-- The bit count at the front of a written number. -/
def bitCount (form : Bytes) : Nat := ofBigEndian (form.take 2)

theorem bitCount_integerForm (hbits : bits < 256 ^ 2) :
    bitCount (integerForm bits octets) = bits := by
  rw [bitCount, integerForm, List.take_left' (length_bigEndian 2 bits), ofBigEndian_bigEndian,
    Nat.mod_eq_of_lt hbits]

/-- Octets behind their bit count are the written form of the number that they spell exactly if the
bit count is the bit length of the number. -/
theorem encodeInteger_eq_form_iff (hbits : bits < 256 ^ 2)
    (hoctets : octets.length = octetsFor bits) :
    encodeInteger (ofBigEndian octets) = .ok (integerForm bits octets) ↔
      bits = bitLength (ofBigEndian octets) := by
  rw [encodeInteger_eq_ok_iff, ← bitLength_le_iff]
  constructor
  · rintro ⟨hle, hform⟩
    have hlt : bitLength (ofBigEndian octets) < 256 ^ 2 := Nat.lt_succ_of_le hle
    rw [← bitCount_integerForm hbits, ← hform, bitCount_integerForm hlt]
  · intro hcount
    refine ⟨?_, ?_⟩
    · rw [← hcount]
      exact Nat.le_of_lt_succ hbits
    · rw [magnitude, ← hcount, ← hoctets, bigEndian_ofBigEndian]

/-- A number is read only where there are octets left for its bit count. -/
theorem offset_le_of_integer (h : integer c = .ok n d) : c.offset ≤ c.data.length := by
  obtain ⟨octets, hoctets, -⟩ := map_eq_ok.1 h
  obtain ⟨bits, e, hbits, -⟩ := bind_eq_ok.1 hoctets
  obtain ⟨front, hfront, -⟩ := map_eq_ok.1 hbits
  exact Nat.le_of_add_right_le (take_eq_ok.1 hfront).1

/-- What was read as a number is its written form exactly if the bit count was exact. -/
theorem encodeInteger_eq_upTo_iff (h : integer c = .ok n d) :
    encodeInteger n = .ok (c.upTo d) ↔ bitCount (c.upTo d) = bitLength n := by
  obtain ⟨octets, hoctets, rfl⟩ := map_eq_ok.1 h
  obtain ⟨form, ⟨bits, hbits, hlength, rfl⟩, hpassed⟩ :=
    cuts_integerOctets.passes (offset_le_of_integer h) hoctets
  rw [hpassed.upTo_eq, bitCount_integerForm hbits]
  exact encodeInteger_eq_form_iff hbits hlength

theorem encodeSigned_natCast (n : Nat) : encodeSigned n = encodeInteger n := by
  rw [encodeSigned, if_neg (fun h => absurd h.1 (Int.not_lt.2 (Int.natCast_nonneg n))),
    Int.natAbs_natCast]

/-- Every number whose bit length fits has a written form, which is read back, and no other number
has one. A string of octets is written as its number, and what is read of that has lost nothing but
zeros at the front. Whatever octets are read as a number, they are its written form exactly if their
bit count is its bit length. -/
theorem written_number_canonical :
    (∀ n : Nat, n < 2 ^ maxIntegerBits → ∃ form,
      encodeSigned n = .ok form ∧ Reads integer form n) ∧
    (∀ bytes, encodeOctets bytes = encodeSigned (ofBigEndian bytes)) ∧
    (∀ bytes, ofBigEndian bytes < 2 ^ maxIntegerBits → ∃ form octets,
      encodeOctets bytes = .ok form ∧ Reads integerOctets form octets ∧
        leftPad bytes.length octets = bytes) ∧
    (∀ c n d, integer c = .ok n d →
      (encodeSigned n = .ok (c.upTo d) ↔ bitCount (c.upTo d) = bitLength n)) ∧
    ∀ n : Nat, 2 ^ maxIntegerBits ≤ n → encodeSigned n = .error .fieldOverflow := by
  have hwritten {n : Nat} (hn : n < 2 ^ maxIntegerBits) : ∃ form, encodeInteger n = .ok form :=
    ⟨_, encodeInteger_eq_ok_iff.2 ⟨hn, rfl⟩⟩
  refine ⟨fun n hn => ?_, fun bytes => ?_, fun bytes hbytes => ?_, fun c n d hread => ?_,
    fun n hn => ?_⟩
  · obtain ⟨form, hform⟩ := hwritten hn
    exact ⟨form, (encodeSigned_natCast n).trans hform, reads_integer_of_encodeInteger hform⟩
  · rw [encodeOctets_eq, encodeSigned_natCast]
  · obtain ⟨form, hform⟩ := hwritten hbytes
    rw [← encodeOctets_eq] at hform
    obtain ⟨octets, hread, hpad⟩ := reads_of_encodeOctets hform
    exact ⟨form, octets, hform, hread, hpad⟩
  · rw [encodeSigned_natCast]
    exact encodeInteger_eq_upTo_iff hread
  · rw [encodeSigned_natCast]
    exact encodeInteger_of_ge hn

/-- A number of nine bits, octets with zeros at the front, a bit count that is too great, and the
least number without a written form. -/
theorem written_number_canonical_at_bounds :
    (511 < 2 ^ maxIntegerBits ∧ ∃ form, encodeSigned (511 : Nat) = .ok form ∧
      Reads integer form 511) ∧
    (ofBigEndian [0, 0, 0x80] < 2 ^ maxIntegerBits ∧ ∃ form octets,
      encodeOctets [0, 0, 0x80] = .ok form ∧ Reads integerOctets form octets ∧
        leftPad 3 octets = [0, 0, 0x80]) ∧
    (integer ⟨[7, 0, 9, 0, 0x80, 7], 1⟩ = .ok 0x80 ⟨[7, 0, 9, 0, 0x80, 7], 5⟩ ∧
      (encodeSigned (0x80 : Nat) = .ok [0, 9, 0, 0x80] ↔ 9 = bitLength 0x80)) ∧
    (2 ^ maxIntegerBits ≤ 2 ^ maxIntegerBits ∧
      encodeSigned (2 ^ maxIntegerBits : Nat) = .error .fieldOverflow) := by
  obtain ⟨hnumber, -, hoctets, hread, hgreat⟩ := written_number_canonical
  have hfits {n : Nat} (hn : n < 2 ^ 16) : n < 2 ^ maxIntegerBits :=
    Nat.lt_of_lt_of_le hn (Nat.pow_le_pow_right (by decide) (by decide))
  have h511 : 511 < 2 ^ maxIntegerBits := hfits (by decide)
  have h128 : ofBigEndian [0, 0, 0x80] < 2 ^ maxIntegerBits := hfits (by decide)
  have hform : integerForm 9 [0, 0x80] = [0, 9, 0, 0x80] := by decide
  have hrun : integer ⟨[7, 0, 9, 0, 0x80, 7], 1⟩ = .ok 0x80 ⟨[7, 0, 9, 0, 0x80, 7], 5⟩ := by
    have hoctets : Reads integerOctets (integerForm 9 [0, 0x80]) [0, 0x80] :=
      reads_integerOctets (by decide) (by decide)
    rw [hform] at hoctets
    exact hoctets.map [7] [7]
  exact ⟨⟨h511, hnumber 511 h511⟩, ⟨h128, hoctets [0, 0, 0x80] h128⟩, ⟨hrun, hread _ _ _ hrun⟩,
    Nat.le_refl _, hgreat _ (Nat.le_refl _)⟩

end Canonical

end ArtifactSigning
