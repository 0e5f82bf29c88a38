import ArtifactSigning.Cipher.Feedback

/-!
# Triple DES

Three passes of DES over a block of 64 bits, the middle one in reverse. A key of eight octets
serves all three passes and one of sixteen serves the first part for the last pass too.
-/
namespace ArtifactSigning.TripleDes

def initialPermutation : List Nat := [
  58, 50, 42, 34, 26, 18, 10, 2, 60, 52, 44, 36, 28, 20, 12, 4,
  62, 54, 46, 38, 30, 22, 14, 6, 64, 56, 48, 40, 32, 24, 16, 8,
  57, 49, 41, 33, 25, 17, 9, 1, 59, 51, 43, 35, 27, 19, 11, 3,
  61, 53, 45, 37, 29, 21, 13, 5, 63, 55, 47, 39, 31, 23, 15, 7]

def finalPermutation : List Nat := [
  40, 8, 48, 16, 56, 24, 64, 32, 39, 7, 47, 15, 55, 23, 63, 31,
  38, 6, 46, 14, 54, 22, 62, 30, 37, 5, 45, 13, 53, 21, 61, 29,
  36, 4, 44, 12, 52, 20, 60, 28, 35, 3, 43, 11, 51, 19, 59, 27,
  34, 2, 42, 10, 50, 18, 58, 26, 33, 1, 41, 9, 49, 17, 57, 25]

/-- The permutation of the round function's result. -/
def mixing : List Nat := [
  16, 7, 20, 21, 29, 12, 28, 17, 1, 15, 23, 26, 5, 18, 31, 10,
  2, 8, 24, 14, 32, 27, 3, 9, 19, 13, 30, 6, 22, 11, 4, 25]

/-- The key bits that the subkeys are cut from; every eighth bit is left out. -/
def keyChoice : List Nat := [
  57, 49, 41, 33, 25, 17, 9, 1, 58, 50, 42, 34, 26, 18,
  10, 2, 59, 51, 43, 35, 27, 19, 11, 3, 60, 52, 44, 36,
  63, 55, 47, 39, 31, 23, 15, 7, 62, 54, 46, 38, 30, 22,
  14, 6, 61, 53, 45, 37, 29, 21, 13, 5, 28, 20, 12, 4]

/-- The bits that make one subkey. -/
def subkeyChoice : List Nat := [
  14, 17, 11, 24, 1, 5, 3, 28, 15, 6, 21, 10, 23, 19, 12, 4,
  26, 8, 16, 7, 27, 20, 13, 2, 41, 52, 31, 37, 47, 55, 30, 40,
  51, 45, 33, 48, 44, 49, 39, 56, 34, 53, 46, 42, 50, 36, 29, 32]

/-- The amounts by which the two halves of the key bits are rotated before each subkey. -/
def rotations : List UInt64 := [1, 1, 2, 2, 2, 2, 2, 2, 1, 2, 2, 2, 2, 2, 2, 1]

/-- The eight substitutions of six bits by four. -/
def boxes : List (Array Nat) := [
  #[
    14, 4, 13, 1, 2, 15, 11, 8, 3, 10, 6, 12, 5, 9, 0, 7,
    0, 15, 7, 4, 14, 2, 13, 1, 10, 6, 12, 11, 9, 5, 3, 8,
    4, 1, 14, 8, 13, 6, 2, 11, 15, 12, 9, 7, 3, 10, 5, 0,
    15, 12, 8, 2, 4, 9, 1, 7, 5, 11, 3, 14, 10, 0, 6, 13],
  #[
    15, 1, 8, 14, 6, 11, 3, 4, 9, 7, 2, 13, 12, 0, 5, 10,
    3, 13, 4, 7, 15, 2, 8, 14, 12, 0, 1, 10, 6, 9, 11, 5,
    0, 14, 7, 11, 10, 4, 13, 1, 5, 8, 12, 6, 9, 3, 2, 15,
    13, 8, 10, 1, 3, 15, 4, 2, 11, 6, 7, 12, 0, 5, 14, 9],
  #[
    10, 0, 9, 14, 6, 3, 15, 5, 1, 13, 12, 7, 11, 4, 2, 8,
    13, 7, 0, 9, 3, 4, 6, 10, 2, 8, 5, 14, 12, 11, 15, 1,
    13, 6, 4, 9, 8, 15, 3, 0, 11, 1, 2, 12, 5, 10, 14, 7,
    1, 10, 13, 0, 6, 9, 8, 7, 4, 15, 14, 3, 11, 5, 2, 12],
  #[
    7, 13, 14, 3, 0, 6, 9, 10, 1, 2, 8, 5, 11, 12, 4, 15,
    13, 8, 11, 5, 6, 15, 0, 3, 4, 7, 2, 12, 1, 10, 14, 9,
    10, 6, 9, 0, 12, 11, 7, 13, 15, 1, 3, 14, 5, 2, 8, 4,
    3, 15, 0, 6, 10, 1, 13, 8, 9, 4, 5, 11, 12, 7, 2, 14],
  #[
    2, 12, 4, 1, 7, 10, 11, 6, 8, 5, 3, 15, 13, 0, 14, 9,
    14, 11, 2, 12, 4, 7, 13, 1, 5, 0, 15, 10, 3, 9, 8, 6,
    4, 2, 1, 11, 10, 13, 7, 8, 15, 9, 12, 5, 6, 3, 0, 14,
    11, 8, 12, 7, 1, 14, 2, 13, 6, 15, 0, 9, 10, 4, 5, 3],
  #[
    12, 1, 10, 15, 9, 2, 6, 8, 0, 13, 3, 4, 14, 7, 5, 11,
    10, 15, 4, 2, 7, 12, 9, 5, 6, 1, 13, 14, 0, 11, 3, 8,
    9, 14, 15, 5, 2, 8, 12, 3, 7, 0, 4, 10, 1, 13, 11, 6,
    4, 3, 2, 12, 9, 5, 15, 10, 11, 14, 1, 7, 6, 0, 8, 13],
  #[
    4, 11, 2, 14, 15, 0, 8, 13, 3, 12, 9, 7, 5, 10, 6, 1,
    13, 0, 11, 7, 4, 9, 1, 10, 14, 3, 5, 12, 2, 15, 8, 6,
    1, 4, 11, 13, 12, 3, 7, 14, 10, 15, 6, 8, 0, 5, 9, 2,
    6, 11, 13, 8, 1, 4, 10, 7, 9, 5, 0, 15, 14, 2, 3, 12],
  #[
    13, 2, 8, 4, 6, 15, 11, 1, 10, 9, 3, 14, 5, 0, 12, 7,
    1, 15, 13, 8, 10, 3, 7, 4, 12, 5, 6, 11, 0, 14, 9, 2,
    7, 11, 4, 1, 9, 12, 14, 2, 0, 6, 10, 13, 15, 3, 5, 8,
    2, 1, 14, 7, 4, 10, 8, 13, 15, 12, 9, 0, 3, 5, 6, 11]]

/-- The bits of a number of `width` bits at the given places, counted from 1 at the high end. -/
def choose (places : List Nat) (width : Nat) (n : UInt64) : UInt64 :=
  places.foldl (fun acc place => acc <<< 1 ||| (n >>> (width - place).toUInt64 &&& 1)) 0

/-- Rotation of a number of 28 bits. -/
def rotate (n amount : UInt64) : UInt64 := (n <<< amount ||| n >>> (28 - amount)) &&& 0xFFFFFFF

/-- The eight groups of six bits of a number of 48 bits, from the high end. -/
def groups (n : UInt64) : List UInt32 :=
  [42, 36, 30, 24, 18, 12, 6, 0].map fun (shift : UInt64) => (n >>> shift &&& 63).toUInt32

/-- The subkeys of the halves `c` and `d` of the key bits, in groups of six bits. -/
def subkeys : List UInt64 → (c d : UInt64) → List (List UInt32)
  | [], _, _ => []
  | amount :: rest, c, d =>
      let c := rotate c amount
      let d := rotate d amount
      groups (choose subkeyChoice 56 (c <<< 28 ||| d)) :: subkeys rest c d

/-- The sixteen subkeys of a key of eight octets. -/
def singleSchedule (key : Bytes) : List (List UInt32) :=
  let bits := choose keyChoice 64 (ofBigEndian key).toUInt64
  subkeys rotations (bits >>> 28) (bits &&& 0xFFFFFFF)

/-- What a box puts in place of six bits: the outer two choose the row. -/
def substitute (box : Array Nat) (group : Nat) : Nat :=
  let row := group / 32 * 2 + group % 2
  let column := group / 2 % 16
  box.getD (16 * row + column) 0

/-- For every group of a half what it contributes to the result of the round function: its
substitution at its place among the eight, permuted. -/
def roundTables : List (Array UInt32) :=
  boxes.zipIdx.map fun (box, place) =>
    (List.range 64).toArray.map fun group =>
      (choose mixing 32 (substitute box group * 16 ^ (7 - place)).toUInt64).toUInt32

@[inline] def rotateHalf (x n : UInt32) : UInt32 := (x <<< n) ||| (x >>> (32 - n))

/-- The contributions of groups of a half together. The next group is at the low end of `turned`;
neighbouring groups share two bits. -/
def contributions : List (Array UInt32) → List UInt32 → (turned result : UInt32) → UInt32
  | table :: tables, group :: groups, turned, result =>
      let index := (turned ^^^ group) &&& 63
      contributions tables groups (rotateHalf turned 4) (result ^^^ table.getD index.toNat 0)
  | _, _, _, result => result

/-- The first group of a half is its last bit and its first five. -/
def roundFunction (half : UInt32) (subkey : List UInt32) : UInt32 :=
  contributions roundTables subkey (rotateHalf half 5) 0

def rounds : List (List UInt32) → (left right : UInt32) → UInt32 × UInt32
  | [], left, right => (right, left)
  | subkey :: rest, left, right => rounds rest right (left ^^^ roundFunction right subkey)

/-- One pass with the given subkeys; reversing the subkeys reverses the pass. -/
def pass (subkeys : List (List UInt32)) (block : UInt64) : UInt64 :=
  let start := choose initialPermutation 64 block
  let (left, right) := rounds subkeys (start >>> 32).toUInt32 start.toUInt32
  choose finalPermutation 64 (left.toUInt64 <<< 32 ||| right.toUInt64)

/-- The subkeys of the three passes. -/
structure Schedule where
  first : List (List UInt32)
  second : List (List UInt32)
  third : List (List UInt32)

def schedule (key : Bytes) : Schedule :=
  let whole := if key.length = 8 then key ++ key ++ key else key ++ key.take (24 - key.length)
  ⟨singleSchedule (whole.take 8), (singleSchedule ((whole.drop 8).take 8)).reverse,
    singleSchedule (whole.drop 16)⟩

def encryptBlock (s : Schedule) (block : Bytes) : Bytes :=
  let n := (ofBigEndian block).toUInt64
  bigEndian 8 (pass s.third (pass s.second (pass s.first n))).toNat

/-- The block function of a key. -/
def blockFunction (key : Bytes) : BlockFunction :=
  let s := schedule key
  ⟨8, encryptBlock s⟩

end ArtifactSigning.TripleDes
