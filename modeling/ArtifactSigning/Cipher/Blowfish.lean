import ArtifactSigning.Cipher.Feedback

/-!
# Blowfish

A block of 64 bits runs through 16 rounds. The subkeys and the substitution tables start as the
fractional bits of the circle constant and are replaced, two words at a time, by encryptions under
the tables so far.
-/
namespace ArtifactSigning.Blowfish

/-- The sum of the alternating series for the arc tangent of `1 / q`, scaled; `term` is the scaled
power of `1 / q` of the next summand and `k` the summand's odd divisor. -/
def arcTangentTerms (q : Nat) : (count : Nat) → (k term : Nat) → Int
  | 0, _, _ => 0
  | count + 1, k, term =>
      if term = 0 then 0
      else ((term / k : Nat) : Int) - arcTangentTerms q count (k + 2) (term / (q * q))

/-- The arc tangent of `1 / q`, as a multiple of `1 / scale`. -/
def arcTangent (q scale : Nat) : Int := arcTangentTerms q 8000 1 (scale / q)

/-- The number of words taken from the circle constant: 18 subkeys and four tables of 256. -/
def wordCount : Nat := 18 + 4 * 256

/-- The fractional bits of the circle constant, with 64 guard bits, by the formula of Machin. -/
def circleFraction : Nat :=
  let scale := 2 ^ (32 * wordCount + 64)
  (16 * arcTangent 5 scale - 4 * arcTangent 239 scale - 3 * scale).toNat / 2 ^ 64

/-- The leading fractional bits of the circle constant, in words. -/
def circleWords : Array UInt32 :=
  (Array.range wordCount).map fun i =>
    UInt32.ofNat (circleFraction / 2 ^ (32 * (wordCount - 1 - i)))

/-- The subkeys, and after them the substitution tables. -/
abbrev Tables := Array UInt32

/-- The round function: four table entries combined by sums and an exclusive or. -/
def roundFunction (t : Tables) (x : UInt32) : UInt32 :=
  let entry (table : Nat) (i : UInt8) := t.getD (18 + 256 * table + i.toNat) 0
  ((entry 0 (x >>> 24).toUInt8 + entry 1 (x >>> 16).toUInt8) ^^^ entry 2 (x >>> 8).toUInt8) +
    entry 3 x.toUInt8

/-- The last `count` of the 16 rounds. -/
def rounds (t : Tables) : (count : Nat) → (left right : UInt32) → UInt32 × UInt32
  | 0, left, right => (right ^^^ t.getD 17 0, left ^^^ t.getD 16 0)
  | count + 1, left, right =>
      let left := left ^^^ t.getD (15 - count) 0
      rounds t count (right ^^^ roundFunction t left) left

/-- Replaces the tables from index `i` on, `count` pairs of words, by successive encryptions. -/
def replace : (count : Nat) → (i : Nat) → (left right : UInt32) → Tables → Tables
  | 0, _, _, _, t => t
  | count + 1, i, left, right, t =>
      let (left, right) := rounds t 16 left right
      replace count (i + 2) left right ((t.setIfInBounds i left).setIfInBounds (i + 1) right)

/-- The word of a key, repeated without end, that is added to a subkey. -/
def keyWord (key : Array UInt8) (i : Nat) : UInt32 :=
  (List.range 4).foldl
    (fun w j => (w <<< 8) ||| (key.getD ((4 * i + j) % key.size) 0).toUInt32) 0

def schedule (key : Bytes) : Tables :=
  let key := key.toArray
  let start := (Array.range 18).foldl
    (fun t i => t.setIfInBounds i (t.getD i 0 ^^^ keyWord key i)) circleWords
  replace (wordCount / 2) 0 0 0 start

def encryptBlock (t : Tables) (block : Bytes) : Bytes :=
  let n := ofBigEndian block
  let (left, right) := rounds t 16 (UInt32.ofNat (n / 2 ^ 32)) (UInt32.ofNat n)
  bigEndian 4 left.toNat ++ bigEndian 4 right.toNat

/-- The block function of a key. -/
def blockFunction (key : Bytes) : BlockFunction :=
  let t := schedule key
  ⟨8, encryptBlock t⟩

end ArtifactSigning.Blowfish
