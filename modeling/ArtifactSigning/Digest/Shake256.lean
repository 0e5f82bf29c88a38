import ArtifactSigning.Digest.Stream

/-!
# SHAKE256

An extendable-output function: octets are absorbed into a state of 25 lanes of 64 bits, 136 octets
at a time, and any number of octets is squeezed out of it.
-/
namespace ArtifactSigning.Shake256

/-- The lanes, five in a row; the lane in column `x` of row `y` has the index `x + 5 * y`. -/
abbrev Lanes := Array UInt64

def roundConstants : Array UInt64 := #[
  0x0000000000000001, 0x0000000000008082, 0x800000000000808a, 0x8000000080008000,
  0x000000000000808b, 0x0000000080000001, 0x8000000080008081, 0x8000000000008009,
  0x000000000000008a, 0x0000000000000088, 0x0000000080008009, 0x000000008000000a,
  0x000000008000808b, 0x800000000000008b, 0x8000000000008089, 0x8000000000008003,
  0x8000000000008002, 0x8000000000000080, 0x000000000000800a, 0x800000008000000a,
  0x8000000080008081, 0x8000000000008080, 0x0000000080000001, 0x8000000080008008]

/-- The rotation of every lane. -/
def rotations : Array UInt64 := #[
  0, 1, 62, 28, 27,
  36, 44, 6, 55, 20,
  3, 10, 43, 25, 39,
  41, 45, 15, 21, 8,
  18, 2, 61, 56, 14]

/-- Rotation to the left; by zero, nothing happens. -/
@[inline] def rotate (x n : UInt64) : UInt64 :=
  if n = 0 then x else (x <<< n) ||| (x >>> (64 - n))

def lane (s : Lanes) (x y : Nat) : UInt64 := s.getD (x % 5 + 5 * (y % 5)) 0

/-- Adds to every lane the parities of the columns beside it. -/
def theta (s : Lanes) : Lanes :=
  let parity := (Array.range 5).map fun x =>
    lane s x 0 ^^^ lane s x 1 ^^^ lane s x 2 ^^^ lane s x 3 ^^^ lane s x 4
  (Array.range 25).map fun i =>
    s.getD i 0 ^^^ parity.getD ((i % 5 + 4) % 5) 0 ^^^ rotate (parity.getD ((i % 5 + 1) % 5) 0) 1

/-- Rotates the lanes and moves them: the lane in column `x` and row `y` comes from column
`x + 3 * y` and row `x`. -/
def rhoPi (s : Lanes) : Lanes :=
  (Array.range 25).map fun i =>
    let x := i % 5
    let y := i / 5
    let source := (x + 3 * y) % 5 + 5 * x
    rotate (s.getD source 0) (rotations.getD source 0)

/-- Combines every lane with the two lanes after it in its row. -/
def chi (s : Lanes) : Lanes :=
  (Array.range 25).map fun i =>
    s.getD i 0 ^^^ (~~~lane s (i % 5 + 1) (i / 5) &&& lane s (i % 5 + 2) (i / 5))

def round (s : Lanes) (constant : UInt64) : Lanes :=
  let s := chi (rhoPi (theta s))
  s.setIfInBounds 0 (s.getD 0 0 ^^^ constant)

def permute (s : Lanes) : Lanes := roundConstants.foldl round s

/-- The number of octets absorbed or squeezed between two permutations. -/
def rate : Nat := 136

/-- The octet at an index, the least significant octet of a lane first. -/
def octet (s : Lanes) (i : Nat) : UInt8 :=
  (s.getD (i / 8) 0 >>> (UInt64.ofNat (8 * (i % 8)))).toUInt8

def addOctet (s : Lanes) (i : Nat) (b : UInt8) : Lanes :=
  s.setIfInBounds (i / 8) (s.getD (i / 8) 0 ^^^ (b.toUInt64 <<< UInt64.ofNat (8 * (i % 8))))

/-- A state and the place of the next octet in it. -/
def absorb (state : Lanes × Nat) (b : UInt8) : Lanes × Nat :=
  let s := addOctet state.1 state.2 b
  if state.2 + 1 = rate then (permute s, 0) else (s, state.2 + 1)

/-- The next `count` octets, from the place `i` of the state on. -/
def squeeze : (count : Nat) → Lanes → (i : Nat) → Bytes
  | 0, _, _ => []
  | count + 1, s, i =>
      if i = rate then
        let s := permute s
        octet s 0 :: squeeze count s 1
      else octet s i :: squeeze count s (i + 1)

/-- The first `size` octets of the output for a byte string. -/
def shake256 (bytes : Bytes) (size : Nat) : Bytes :=
  let (s, i) := bytes.foldl absorb (Array.replicate 25 0, 0)
  let s := addOctet (addOctet s i 0x1F) (rate - 1) 0x80
  squeeze size (permute s) 0

end ArtifactSigning.Shake256
