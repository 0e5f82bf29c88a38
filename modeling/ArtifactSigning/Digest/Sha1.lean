import ArtifactSigning.Digest.Stream

/-!
# SHA-1

The digest behind the fingerprints of version 4 keys and behind the check of protected secret keys.
-/
namespace ArtifactSigning.Sha1

structure State where
  a : UInt32
  b : UInt32
  c : UInt32
  d : UInt32
  e : UInt32

/-- Extends a message schedule to `count` more words. -/
def extend : (count : Nat) → Array UInt32 → Array UInt32
  | 0, w => w
  | count + 1, w =>
      let n := w.size
      extend count (w.push (rotateLeft
        (w.getD (n - 3) 0 ^^^ w.getD (n - 8) 0 ^^^ w.getD (n - 14) 0 ^^^ w.getD (n - 16) 0) 1))

/-- The 80 words that a block contributes to the rounds. -/
def schedule (block : ByteArray) : Array UInt32 :=
  extend 64 ((Array.range 16).map fun i => wordAt block (4 * i))

/-- The mixing function of a quarter of the rounds, and the quarter's constant. -/
@[inline] def mix (quarter : Nat) (x y z : UInt32) : UInt32 :=
  if quarter = 0 then ((x &&& y) ||| (~~~x &&& z)) + 0x5a827999
  else if quarter = 1 then (x ^^^ y ^^^ z) + 0x6ed9eba1
  else if quarter = 2 then ((x &&& y) ||| (x &&& z) ||| (y &&& z)) + 0x8f1bbcdc
  else (x ^^^ y ^^^ z) + 0xca62c1d6

@[inline] def round (i : Nat) (w : UInt32) (s : State) : State :=
  ⟨rotateLeft s.a 5 + mix (i / 20) s.b s.c s.d + s.e + w, s.a, rotateLeft s.b 30, s.c, s.d⟩

/-- The last `count` of the 80 rounds. -/
def rounds (w : Array UInt32) : (count : Nat) → State → State
  | 0, s => s
  | count + 1, s =>
      let i := 79 - count
      rounds w count (round i (w.getD i 0) s)

def compress (s : State) (block : ByteArray) : State :=
  let t := rounds (schedule block) 80 s
  ⟨s.a + t.a, s.b + t.b, s.c + t.c, s.d + t.d, s.e + t.e⟩

def sha1 : BlockHash where
  State := State
  blockSize := 64
  lengthWidth := 8
  initial := ⟨0x67452301, 0xefcdab89, 0x98badcfe, 0x10325476, 0xc3d2e1f0⟩
  compress := compress
  lengthField := bigEndian 8
  output s := [s.a, s.b, s.c, s.d, s.e].flatMap octetsOfWord

end ArtifactSigning.Sha1
