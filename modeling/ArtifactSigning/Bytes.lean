import ArtifactSigning.Power

/-!
# Byte strings and big-endian numbers

A byte string is a list of octets. `bigEndian` writes a number into a fixed number of octets and
`ofBigEndian` reads one back; `ofBigEndian_bigEndian` and `bigEndian_ofBigEndian` say that the two
undo each other. `magnitude` is the shortest form, without leading zero octets. `pieces` cuts a list
into parts of one size.
-/
namespace ArtifactSigning

abbrev Bytes := List UInt8

/-- The number spelled by the octets, the most significant first. -/
def ofBigEndian (bytes : Bytes) : Nat :=
  bytes.foldl (fun n b => n * 256 + b.toNat) 0

/-- The low `width` octets of a number, the most significant first. -/
def bigEndian : (width : Nat) → Nat → Bytes
  | 0, _ => []
  | width + 1, n => UInt8.ofNat (n / 256 ^ width) :: bigEndian width n

/-- The number of binary digits; zero has none. -/
def bitLength (n : Nat) : Nat := if n = 0 then 0 else n.log2 + 1

/-- The number of octets that hold `bits` binary digits. -/
def octetsFor (bits : Nat) : Nat := (bits + 7) / 8

/-- The shortest big-endian form of a number; zero is the empty string. -/
def magnitude (n : Nat) : Bytes := bigEndian (octetsFor (bitLength n)) n

@[simp] theorem length_bigEndian (width n : Nat) : (bigEndian width n).length = width := by
  induction width with
  | zero => rfl
  | succ width ih => simp [bigEndian, ih]

theorem foldl_ofBigEndian (bytes : Bytes) (n : Nat) :
    bytes.foldl (fun n b => n * 256 + b.toNat) n = n * 256 ^ bytes.length + ofBigEndian bytes := by
  induction bytes generalizing n with
  | nil => simp [ofBigEndian]
  | cons b bytes ih =>
      simp only [ofBigEndian, List.foldl_cons, List.length_cons, Nat.pow_succ, Nat.zero_mul,
        Nat.zero_add]
      rw [ih, ih b.toNat, Nat.add_mul, Nat.mul_assoc, Nat.mul_comm 256, Nat.add_assoc]

@[simp] theorem ofBigEndian_nil : ofBigEndian [] = 0 := rfl

theorem ofBigEndian_cons (b : UInt8) (bytes : Bytes) :
    ofBigEndian (b :: bytes) = b.toNat * 256 ^ bytes.length + ofBigEndian bytes := by
  rw [ofBigEndian, List.foldl_cons, foldl_ofBigEndian, Nat.zero_mul, Nat.zero_add]

theorem ofBigEndian_append (front back : Bytes) :
    ofBigEndian (front ++ back) = ofBigEndian front * 256 ^ back.length + ofBigEndian back := by
  rw [ofBigEndian, List.foldl_append, foldl_ofBigEndian]
  rfl

theorem ofBigEndian_lt (bytes : Bytes) : ofBigEndian bytes < 256 ^ bytes.length := by
  induction bytes with
  | nil => simp
  | cons b bytes ih =>
      rw [ofBigEndian_cons, List.length_cons, Nat.pow_succ]
      have hb : b.toNat < 256 := UInt8.toNat_lt b
      have : b.toNat * 256 ^ bytes.length + 256 ^ bytes.length ≤ 256 * 256 ^ bytes.length := by
        rw [← Nat.succ_mul]
        exact Nat.mul_le_mul_right _ hb
      omega

/-- Reading what was written gives the number back, as far as the width holds it. -/
theorem ofBigEndian_bigEndian (width n : Nat) :
    ofBigEndian (bigEndian width n) = n % 256 ^ width := by
  induction width with
  | zero => simp [bigEndian, Nat.mod_one]
  | succ width ih =>
      rw [bigEndian, ofBigEndian_cons, length_bigEndian, ih, UInt8.toNat_ofNat',
        Nat.pow_succ 256, Nat.mod_mul, Nat.mul_comm, Nat.add_comm]

/-- Writing what was read gives the octets back. -/
theorem bigEndian_ofBigEndian (bytes : Bytes) :
    bigEndian bytes.length (ofBigEndian bytes) = bytes := by
  suffices h : ∀ (rest : Bytes) (n : Nat),
      bigEndian rest.length (n * 256 ^ rest.length + ofBigEndian rest) = rest by
    simpa using h bytes 0
  intro rest
  induction rest with
  | nil => intro n; rfl
  | cons b rest ih =>
      intro n
      have hlt := ofBigEndian_lt rest
      have hpos : 0 < 256 ^ rest.length := Nat.pow_pos (by decide)
      have hsum : n * 256 ^ (rest.length + 1) + ofBigEndian (b :: rest) =
          (n * 256 + b.toNat) * 256 ^ rest.length + ofBigEndian rest := by
        rw [ofBigEndian_cons, Nat.pow_succ, Nat.add_mul, Nat.mul_assoc, Nat.mul_comm 256,
          Nat.add_assoc]
      rw [List.length_cons, bigEndian, hsum, ih]
      congr 1
      rw [Nat.mul_comm, Nat.mul_add_div hpos, Nat.div_eq_of_lt hlt, Nat.add_zero]
      apply UInt8.toNat_inj.mp
      rw [UInt8.toNat_ofNat', Nat.mul_comm, Nat.mul_add_mod,
        Nat.mod_eq_of_lt (UInt8.toNat_lt b)]

/-- Consecutive pieces of `width` items; only the last may be shorter. -/
def pieces (width : Nat) (items : List α) : List (List α) :=
  if _h : items = [] ∨ width = 0 then []
  else items.take width :: pieces width (items.drop width)
termination_by items.length
decreasing_by
  have : items.length ≠ 0 := by simpa using fun h' => _h (Or.inl h')
  simp only [List.length_drop]
  omega

/-- Octet by octet exclusive or, as long as both strings last. -/
def xorBytes (xs ys : Bytes) : Bytes := List.zipWith (· ^^^ ·) xs ys

end ArtifactSigning
