import ArtifactSigning.Bytes

/-!
# Octets as bits

`natBits width n` are the low bits of a number, the most significant first, and `bitsOf` are the
bits of a byte string. Two lists of the same length that differ in one run of items only are said
to `DifferInRun`; whatever is made item by item from such lists differs in one run again.
-/
namespace ArtifactSigning

/-- The low `width` bits of a number, the most significant first. -/
def natBits : (width : Nat) → Nat → List Bool
  | 0, _ => []
  | width + 1, n => n.testBit width :: natBits width n

/-- The bits of some octets, the most significant of each octet first. -/
def bitsOf (bytes : Bytes) : List Bool := bytes.flatMap fun b => natBits 8 b.toNat

/-- Whether two lists are the same but for a run of at most `width` items, which stands at the same
place in both. -/
def DifferInRun {α : Type} (width : Nat) (items others : List α) : Prop :=
  ∃ front run run' back, items = front ++ run ++ back ∧ others = front ++ run' ++ back ∧
    run'.length = run.length ∧ run.length ≤ width

variable {width m n : Nat}

@[simp] theorem length_natBits (width n : Nat) : (natBits width n).length = width := by
  induction width with
  | zero => rfl
  | succ width ih => rw [natBits, List.length_cons, ih]

/-- The bit at a place counted from the most significant one. -/
theorem natBits_getD {i : Nat} (h : i < width) :
    (natBits width n).getD i false = n.testBit (width - 1 - i) := by
  induction width generalizing i with
  | zero => omega
  | succ width ih =>
      cases i with
      | zero => rfl
      | succ i =>
          rw [natBits, List.getD_cons_succ, ih (by omega)]
          congr 1
          omega

theorem natBits_congr (h : ∀ i < width, n.testBit i = m.testBit i) :
    natBits width n = natBits width m := by
  induction width with
  | zero => rfl
  | succ width ih => rw [natBits, natBits, h width (by omega), ih fun i hi => h i (by omega)]

/-- The bits of a number are those of its parts. -/
theorem natBits_append (high low k : Nat) (h : k < 2 ^ low) :
    natBits (high + low) (m * 2 ^ low + k) = natBits high m ++ natBits low k := by
  have hbit (i : Nat) : (m * 2 ^ low + k).testBit i =
      if i < low then k.testBit i else m.testBit (i - low) := by
    rw [Nat.mul_comm, Nat.testBit_two_pow_mul_add m h]
  induction high with
  | zero =>
      rw [Nat.zero_add, natBits, List.nil_append]
      exact natBits_congr fun i hi => by rw [hbit, if_pos hi]
  | succ high ih =>
      rw [Nat.add_right_comm, natBits, ih, natBits, hbit, if_neg (by omega), Nat.add_sub_cancel,
        List.cons_append]

theorem natBits_injective (hm : m < 2 ^ width) (hn : n < 2 ^ width)
    (h : natBits width m = natBits width n) : m = n := by
  refine Nat.eq_of_testBit_eq fun i => ?_
  by_cases hi : i < width
  · have hplace : width - 1 - (width - 1 - i) = i := by omega
    rw [← hplace, ← natBits_getD (by omega), ← natBits_getD (by omega), h]
  · have hle : 2 ^ width ≤ 2 ^ i := Nat.pow_le_pow_right (by decide) (by omega)
    rw [Nat.testBit_lt_two_pow (by omega), Nat.testBit_lt_two_pow (by omega)]

@[simp] theorem bitsOf_cons (b : UInt8) (bytes : Bytes) :
    bitsOf (b :: bytes) = natBits 8 b.toNat ++ bitsOf bytes := rfl

theorem length_bitsOf (bytes : Bytes) : (bitsOf bytes).length = 8 * bytes.length := by
  induction bytes with
  | nil => rfl
  | cons b bytes ih =>
      rw [bitsOf_cons, List.length_append, length_natBits, ih, List.length_cons]
      omega

theorem bitsOf_injective {xs ys : Bytes} (h : bitsOf xs = bitsOf ys) : xs = ys := by
  induction xs generalizing ys with
  | nil =>
      have hlength := congrArg List.length h
      rw [length_bitsOf, length_bitsOf, List.length_nil] at hlength
      exact (List.length_eq_zero_iff.1 (by omega)).symm
  | cons x xs ih =>
      cases ys with
      | nil => cases h
      | cons y ys =>
          rw [bitsOf_cons, bitsOf_cons] at h
          obtain ⟨hfirst, hrest⟩ := List.append_inj h (by simp)
          have hxy : x = y := UInt8.toNat_inj.1 (natBits_injective x.toNat_lt y.toNat_lt hfirst)
          rw [hxy, ih hrest]

namespace DifferInRun

variable {α β : Type} {items others : List α}

/-- The beginnings of two lists that differ in a run. -/
theorem take (h : DifferInRun width items others) (count : Nat) :
    DifferInRun width (items.take count) (others.take count) := by
  obtain ⟨front, run, run', back, rfl, rfl, hlength, hwidth⟩ := h
  refine ⟨front.take count, run.take (count - front.length), run'.take (count - front.length),
    back.take (count - (front ++ run).length), ?_, ?_, ?_, ?_⟩
  · rw [List.take_append, List.take_append]
  · rw [List.take_append, List.take_append, List.length_append, List.length_append, hlength]
  · rw [List.length_take, List.length_take, hlength]
  · exact Nat.le_trans (List.length_take_le' _ _) hwidth

/-- Each item stands for the same number of others. -/
theorem flatMap {f : α → List β} {count : Nat} (hf : ∀ item, (f item).length = count)
    (h : DifferInRun width items others) :
    DifferInRun (width * count) (items.flatMap f) (others.flatMap f) := by
  have hflat (run : List α) : (run.flatMap f).length = run.length * count := by
    simp [List.length_flatMap, hf, List.map_const']
  obtain ⟨front, run, run', back, rfl, rfl, hlength, hwidth⟩ := h
  refine ⟨front.flatMap f, run.flatMap f, run'.flatMap f, back.flatMap f, by simp, by simp, ?_, ?_⟩
  · rw [hflat, hflat, hlength]
  · rw [hflat]
    exact Nat.mul_le_mul_right count hwidth

end DifferInRun

end ArtifactSigning
