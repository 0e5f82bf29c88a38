import ArtifactSigning.Digest.Stream

/-!
# MD5

The oldest of the digests that protect secret keys; it works on little-endian words.
-/
namespace ArtifactSigning.Md5

structure State where
  a : UInt32
  b : UInt32
  c : UInt32
  d : UInt32

/-- The leading bits of the sines of 1 to 64. -/
def roundConstants : Array UInt32 := #[
  0xd76aa478, 0xe8c7b756, 0x242070db, 0xc1bdceee, 0xf57c0faf, 0x4787c62a, 0xa8304613, 0xfd469501,
  0x698098d8, 0x8b44f7af, 0xffff5bb1, 0x895cd7be, 0x6b901122, 0xfd987193, 0xa679438e, 0x49b40821,
  0xf61e2562, 0xc040b340, 0x265e5a51, 0xe9b6c7aa, 0xd62f105d, 0x02441453, 0xd8a1e681, 0xe7d3fbc8,
  0x21e1cde6, 0xc33707d6, 0xf4d50d87, 0x455a14ed, 0xa9e3e905, 0xfcefa3f8, 0x676f02d9, 0x8d2a4c8a,
  0xfffa3942, 0x8771f681, 0x6d9d6122, 0xfde5380c, 0xa4beea44, 0x4bdecfa9, 0xf6bb4b60, 0xbebfbc70,
  0x289b7ec6, 0xeaa127fa, 0xd4ef3085, 0x04881d05, 0xd9d4d039, 0xe6db99e5, 0x1fa27cf8, 0xc4ac5665,
  0xf4292244, 0x432aff97, 0xab9423a7, 0xfc93a039, 0x655b59c3, 0x8f0ccc92, 0xffeff47d, 0x85845dd1,
  0x6fa87e4f, 0xfe2ce6e0, 0xa3014314, 0x4e0811a1, 0xf7537e82, 0xbd3af235, 0x2ad7d2bb, 0xeb86d391]

/-- The rotation of a round: four amounts in turn, another four in each quarter. -/
def rotations : Array UInt32 := #[7, 12, 17, 22, 5, 9, 14, 20, 4, 11, 16, 23, 6, 10, 15, 21]

/-- The mixing function of a quarter of the rounds. -/
@[inline] def mix (quarter : Nat) (x y z : UInt32) : UInt32 :=
  if quarter = 0 then (x &&& y) ||| (~~~x &&& z)
  else if quarter = 1 then (x &&& z) ||| (y &&& ~~~z)
  else if quarter = 2 then x ^^^ y ^^^ z
  else y ^^^ (x ||| ~~~z)

/-- The message word that a round takes. -/
def wordIndex (i : Nat) : Nat :=
  if i < 16 then i
  else if i < 32 then (5 * i + 1) % 16
  else if i < 48 then (3 * i + 5) % 16
  else 7 * i % 16

def round (block : ByteArray) (i : Nat) (s : State) : State :=
  let quarter := i / 16
  let sum := s.a + mix quarter s.b s.c s.d + roundConstants.getD i 0 +
    littleWordAt block (4 * wordIndex i)
  ⟨s.d, s.b + rotateLeft sum (rotations.getD (4 * quarter + i % 4) 0), s.b, s.c⟩

/-- The last `count` of the 64 rounds. -/
def rounds (block : ByteArray) : (count : Nat) → State → State
  | 0, s => s
  | count + 1, s => rounds block count (round block (63 - count) s)

def compress (s : State) (block : ByteArray) : State :=
  let t := rounds block 64 s
  ⟨s.a + t.a, s.b + t.b, s.c + t.c, s.d + t.d⟩

def md5 : BlockHash where
  State := State
  blockSize := 64
  lengthWidth := 8
  initial := ⟨0x67452301, 0xefcdab89, 0x98badcfe, 0x10325476⟩
  compress := compress
  lengthField n := (bigEndian 8 n).reverse
  output s := [s.a, s.b, s.c, s.d].flatMap littleOctetsOfWord

end ArtifactSigning.Md5
