import ArtifactSigning.Bytes

/-!
# The checksum of armored data

The checksum is the remainder of a cyclic redundancy code of 24 bits. The register is a bit
vector, `shift` advances it by one bit and `absorb` by one octet. `shift` is linear over exclusive
or (`shift_xor`).
-/
namespace ArtifactSigning.Armor

abbrev Register := BitVec 24

/-- The register before the first octet. -/
def initialRegister : Register := 0xB704CE#24

/-- The generator polynomial without its leading term. -/
def generator : Register := 0x864CFB#24

/-- One bit further: doubling modulo the generator polynomial. -/
def shift (r : Register) : Register :=
  if r.msb then (r <<< 1) ^^^ generator else r <<< 1

/-- Eight bits further. -/
def shiftOctet (r : Register) : Register :=
  shift (shift (shift (shift (shift (shift (shift (shift r)))))))

/-- The octet at the high end of the register. -/
def place (b : UInt8) : Register := b.toBitVec.setWidth 24 <<< 16

/-- The register after one octet. -/
def absorb (r : Register) (b : UInt8) : Register := shiftOctet (r ^^^ place b)

/-- The checksum of some octets. -/
def checksum (bytes : Bytes) : Register := bytes.foldl absorb initialRegister

theorem shift_xor (r s : Register) : shift (r ^^^ s) = shift r ^^^ shift s := by
  unfold shift
  rw [BitVec.msb_xor, BitVec.shiftLeft_xor_distrib]
  cases r.msb <;> cases s.msb
  · rfl
  · simp [BitVec.xor_assoc]
  · simp only [Bool.xor_false, if_true, Bool.false_eq_true, if_false, BitVec.xor_assoc]
    rw [BitVec.xor_comm generator]
  · simp only [Bool.xor_true, Bool.not_true, Bool.false_eq_true, if_false, if_true]
    rw [BitVec.xor_assoc (r <<< 1), ← BitVec.xor_assoc generator, BitVec.xor_comm generator,
      BitVec.xor_assoc (s <<< 1), BitVec.xor_self, BitVec.xor_zero]

end ArtifactSigning.Armor
