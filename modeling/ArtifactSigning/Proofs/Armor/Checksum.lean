import ArtifactSigning.Armor.Checksum
import ArtifactSigning.Proofs.Bits
import Mathlib.Logic.Function.Iterate

/-!
# The checksum tells damaged octets from their originals

The register takes the bits of the octets one by one, which is the same as putting up to 24 of them
on top of the register and advancing it (`foldl_feed`). Advancing loses nothing
(`shift_injective`), so two runs of at most 24 bits between the same bits lead to different
checksums (`checksum_injective`).
-/
namespace ArtifactSigning.Armor

/-- The register whose first bit is the given one, without other bits. -/
def highBit (bit : Bool) : Register := if bit then 0x800000#24 else 0#24

/-- The register after one bit. -/
def feed (r : Register) (bit : Bool) : Register := shift (r ^^^ highBit bit)

/-- The register that begins with some bits. -/
def top : List Bool → Register
  | [] => 0#24
  | bit :: bits => highBit bit ^^^ (top bits >>> 1)

variable {r s : Register} {bits others : List Bool}

theorem shift_eq_zero (h : shift r = 0#24) : r = 0#24 := by
  unfold shift at h
  cases hmsb : r.msb with
  | true =>
      -- The generator has a last bit, which nothing cancels.
      rw [hmsb, if_pos rfl] at h
      have hbit := congrArg (BitVec.getLsbD · 0) h
      simp [generator] at hbit
  | false =>
      rw [hmsb, if_neg (by decide)] at h
      ext i hi
      by_cases hlast : i = 23
      · rw [BitVec.msb_eq_getLsbD_last] at hmsb
        simpa [hlast] using hmsb
      · have hbit := congrArg (BitVec.getLsbD · (i + 1)) h
        simpa [show i + 1 < 24 by omega] using hbit

theorem shift_injective : Function.Injective shift := by
  intro r s h
  have hzero : shift (r ^^^ s) = 0#24 := by rw [shift_xor, h, BitVec.xor_self]
  exact BitVec.xor_eq_zero_iff.1 (shift_eq_zero hzero)

/-- The same bits leave two registers as different as they are. -/
theorem foldl_feed_injective (h : bits.foldl feed r = bits.foldl feed s) : r = s := by
  induction bits generalizing r s with
  | nil => exact h
  | cons bit bits ih => exact (BitVec.xor_left_inj _).1 (shift_injective (ih h))

/-- A register without a last bit is advanced to from its half. -/
theorem shift_half (h : r.getLsbD 0 = false) : shift (r >>> 1) = r := by
  have hmsb : (r >>> 1).msb = false := by simp
  rw [shift, hmsb, if_neg (by decide)]
  ext i hi
  cases i with
  | zero => simpa using h.symm
  | succ i => simp [Nat.add_comm 1 i, BitVec.getLsbD_eq_getElem hi]

theorem getMsbD_top {i : Nat} (h : i < 24) : (top bits).getMsbD i = bits.getD i false := by
  induction bits generalizing i with
  | nil => simp [top]
  | cons bit bits ih =>
      rw [top, BitVec.getMsbD_xor, BitVec.getMsbD_ushiftRight]
      cases i with
      | zero => cases bit <;> rfl
      | succ i =>
          have hhigh : (highBit bit).getMsbD (i + 1) = false := by
            cases bit
            · simp [highBit]
            · rw [highBit, if_pos rfl, show 0x800000#24 = BitVec.twoPow 24 23 by rfl,
                BitVec.getMsbD_twoPow]
              simp
          simp [hhigh, h, ih (i := i) (by omega)]

theorem top_injective (hlength : others.length = bits.length) (hwidth : bits.length ≤ 24)
    (h : top bits = top others) : bits = others := by
  refine List.ext_getElem hlength.symm fun i hi hi' => ?_
  have hbit := congrArg (BitVec.getMsbD · i) h
  simpa [getMsbD_top (i := i) (by omega), hi, hi'] using hbit

/-- Up to 24 bits are taken as if they stood on top of the register from the start. -/
theorem foldl_feed (h : bits.length ≤ 24) :
    bits.foldl feed r = shift^[bits.length] (r ^^^ top bits) := by
  induction bits generalizing r with
  | nil => simp [top]
  | cons bit bits ih =>
      have hlength : bits.length < 24 := h
      have hlast : (top bits).getLsbD 0 = false := by
        have hbit : (top bits).getMsbD 23 = bits.getD 23 false := getMsbD_top (by decide)
        rwa [List.getD_eq_getElem?_getD, List.getElem?_eq_none (by omega)] at hbit
      calc
        (bit :: bits).foldl feed r = shift^[bits.length] (shift (r ^^^ highBit bit) ^^^ top bits) :=
          ih (by omega)
        _ = shift^[bits.length] (shift (r ^^^ top (bit :: bits))) := by
          rw [top, ← BitVec.xor_assoc, shift_xor (r ^^^ highBit bit), shift_half hlast]
        _ = shift^[(bit :: bits).length] (r ^^^ top (bit :: bits)) := rfl

theorem top_natBits (b : UInt8) : top (natBits 8 b.toNat) = place b := by
  refine BitVec.eq_of_getMsbD_eq fun i hi => ?_
  have hplace : (place b).getMsbD i = (decide (i < 8) && b.toNat.testBit (8 - 1 - i)) := by
    rw [place, BitVec.getMsbD_shiftLeft, BitVec.getMsbD_setWidth, Nat.add_assoc,
      Nat.add_sub_cancel, BitVec.getMsbD_eq_getLsbD]
    simp [BitVec.getLsbD]
  rw [getMsbD_top hi, hplace]
  by_cases hoctet : i < 8
  · rw [natBits_getD hoctet, decide_eq_true hoctet, Bool.true_and]
  · rw [List.getD_eq_getElem?_getD, List.getElem?_eq_none (by simpa using hoctet),
      decide_eq_false hoctet, Bool.false_and, Option.getD_none]

/-- An octet is taken bit by bit. -/
theorem absorb_eq_foldl (r : Register) (b : UInt8) :
    absorb r b = (natBits 8 b.toNat).foldl feed r := by
  rw [foldl_feed (by simp), length_natBits, top_natBits]
  rfl

theorem checksum_eq_foldl (bytes : Bytes) :
    checksum bytes = (bitsOf bytes).foldl feed initialRegister := by
  rw [checksum, bitsOf, List.foldl_flatMap, funext fun r => funext fun b => absorb_eq_foldl r b]

/-- Octets that differ in a run of at most 24 bits have different checksums. -/
theorem checksum_injective {xs ys : Bytes} (hbits : DifferInRun 24 (bitsOf xs) (bitsOf ys))
    (h : checksum xs = checksum ys) : xs = ys := by
  obtain ⟨front, run, run', back, hxs, hys, hlength, hwidth⟩ := hbits
  rw [checksum_eq_foldl, checksum_eq_foldl, hxs, hys, List.foldl_append, List.foldl_append,
    List.foldl_append, List.foldl_append] at h
  have hrun := foldl_feed_injective h
  have hwidth' : run'.length ≤ 24 := by omega
  rw [foldl_feed hwidth, foldl_feed hwidth', hlength] at hrun
  have htop := (BitVec.xor_right_inj _).1 (shift_injective.iterate _ hrun)
  refine bitsOf_injective ?_
  rw [hxs, hys, top_injective hlength hwidth htop]

end ArtifactSigning.Armor
