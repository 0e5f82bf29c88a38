import ArtifactSigning.Digest.Stream

/-!
# RIPEMD-160

Two lines of 80 rounds run over the same block with different word orders, rotations and constants;
their results are added crosswise to the state.
-/
namespace ArtifactSigning.Ripemd160

structure State where
  a : UInt32
  b : UInt32
  c : UInt32
  d : UInt32
  e : UInt32

/-- One of the two lines: the word and the rotation of every round, the constants of the five
groups of rounds, and whether the mixing functions are taken in reverse order. -/
structure Line where
  words : Array Nat
  rotations : Array UInt32
  constants : Array UInt32
  reversed : Bool

def leftLine : Line where
  words := #[
  0, 1, 2, 3, 4, 5, 6, 7, 8, 9, 10, 11, 12, 13, 14, 15,
  7, 4, 13, 1, 10, 6, 15, 3, 12, 0, 9, 5, 2, 14, 11, 8,
  3, 10, 14, 4, 9, 15, 8, 1, 2, 7, 0, 6, 13, 11, 5, 12,
  1, 9, 11, 10, 0, 8, 12, 4, 13, 3, 7, 15, 14, 5, 6, 2,
  4, 0, 5, 9, 7, 12, 2, 10, 14, 1, 3, 8, 11, 6, 15, 13]
  rotations := #[
  11, 14, 15, 12, 5, 8, 7, 9, 11, 13, 14, 15, 6, 7, 9, 8,
  7, 6, 8, 13, 11, 9, 7, 15, 7, 12, 15, 9, 11, 7, 13, 12,
  11, 13, 6, 7, 14, 9, 13, 15, 14, 8, 13, 6, 5, 12, 7, 5,
  11, 12, 14, 15, 14, 15, 9, 8, 9, 14, 5, 6, 8, 6, 5, 12,
  9, 15, 5, 11, 6, 8, 13, 12, 5, 12, 13, 14, 11, 8, 5, 6]
  constants := #[0x00000000, 0x5a827999, 0x6ed9eba1, 0x8f1bbcdc, 0xa953fd4e]
  reversed := false

def rightLine : Line where
  words := #[
  5, 14, 7, 0, 9, 2, 11, 4, 13, 6, 15, 8, 1, 10, 3, 12,
  6, 11, 3, 7, 0, 13, 5, 10, 14, 15, 8, 12, 4, 9, 1, 2,
  15, 5, 1, 3, 7, 14, 6, 9, 11, 8, 12, 2, 10, 0, 4, 13,
  8, 6, 4, 1, 3, 11, 15, 0, 5, 12, 2, 13, 9, 7, 10, 14,
  12, 15, 10, 4, 1, 5, 8, 7, 6, 2, 13, 14, 0, 3, 9, 11]
  rotations := #[
  8, 9, 9, 11, 13, 15, 15, 5, 7, 7, 8, 11, 14, 14, 12, 6,
  9, 13, 15, 7, 12, 8, 9, 11, 7, 7, 12, 7, 6, 15, 13, 11,
  9, 7, 15, 11, 8, 6, 6, 14, 12, 13, 5, 14, 13, 13, 7, 5,
  15, 5, 8, 11, 14, 14, 6, 14, 6, 9, 12, 9, 12, 5, 15, 8,
  8, 5, 12, 9, 12, 5, 14, 6, 8, 13, 6, 5, 15, 13, 11, 11]
  constants := #[0x50a28be6, 0x5c4dd124, 0x6d703ef3, 0x7a6d76e9, 0x00000000]
  reversed := true

/-- The mixing function of a group of rounds. -/
@[inline] def mix (group : Nat) (x y z : UInt32) : UInt32 :=
  if group = 0 then x ^^^ y ^^^ z
  else if group = 1 then (x &&& y) ||| (~~~x &&& z)
  else if group = 2 then (x ||| ~~~y) ^^^ z
  else if group = 3 then (x &&& z) ||| (y &&& ~~~z)
  else x ^^^ (y ||| ~~~z)

def Line.round (line : Line) (block : ByteArray) (i : Nat) (s : State) : State :=
  let group := i / 16
  let mixed := mix (if line.reversed then 4 - group else group) s.b s.c s.d
  let sum := s.a + mixed + littleWordAt block (4 * line.words.getD i 0) +
    line.constants.getD group 0
  ⟨s.e, rotateLeft sum (line.rotations.getD i 0) + s.e, s.b, rotateLeft s.c 10, s.d⟩

/-- The last `count` of the 80 rounds of a line. -/
def Line.rounds (line : Line) (block : ByteArray) : (count : Nat) → State → State
  | 0, s => s
  | count + 1, s => line.rounds block count (line.round block (79 - count) s)

def compress (s : State) (block : ByteArray) : State :=
  let l := leftLine.rounds block 80 s
  let r := rightLine.rounds block 80 s
  ⟨s.b + l.c + r.d, s.c + l.d + r.e, s.d + l.e + r.a, s.e + l.a + r.b, s.a + l.b + r.c⟩

def ripemd160 : BlockHash where
  State := State
  blockSize := 64
  lengthWidth := 8
  initial := ⟨0x67452301, 0xefcdab89, 0x98badcfe, 0x10325476, 0xc3d2e1f0⟩
  compress := compress
  lengthField n := (bigEndian 8 n).reverse
  output s := [s.a, s.b, s.c, s.d, s.e].flatMap littleOctetsOfWord

end ArtifactSigning.Ripemd160
