import ArtifactSigning.Digest.Stream

/-!
# SHA-224 and SHA-256

Both hash functions work on 32-bit words and differ in their initial state and in the length of
their output only.
-/
namespace ArtifactSigning.Sha256

structure State where
  a : UInt32
  b : UInt32
  c : UInt32
  d : UInt32
  e : UInt32
  f : UInt32
  g : UInt32
  h : UInt32

/-- The leading fractional bits of the cube roots of the first 64 primes. -/
def roundConstants : Array UInt32 := #[
  0x428a2f98, 0x71374491, 0xb5c0fbcf, 0xe9b5dba5, 0x3956c25b, 0x59f111f1, 0x923f82a4, 0xab1c5ed5,
  0xd807aa98, 0x12835b01, 0x243185be, 0x550c7dc3, 0x72be5d74, 0x80deb1fe, 0x9bdc06a7, 0xc19bf174,
  0xe49b69c1, 0xefbe4786, 0x0fc19dc6, 0x240ca1cc, 0x2de92c6f, 0x4a7484aa, 0x5cb0a9dc, 0x76f988da,
  0x983e5152, 0xa831c66d, 0xb00327c8, 0xbf597fc7, 0xc6e00bf3, 0xd5a79147, 0x06ca6351, 0x14292967,
  0x27b70a85, 0x2e1b2138, 0x4d2c6dfc, 0x53380d13, 0x650a7354, 0x766a0abb, 0x81c2c92e, 0x92722c85,
  0xa2bfe8a1, 0xa81a664b, 0xc24b8b70, 0xc76c51a3, 0xd192e819, 0xd6990624, 0xf40e3585, 0x106aa070,
  0x19a4c116, 0x1e376c08, 0x2748774c, 0x34b0bcb5, 0x391c0cb3, 0x4ed8aa4a, 0x5b9cca4f, 0x682e6ff3,
  0x748f82ee, 0x78a5636f, 0x84c87814, 0x8cc70208, 0x90befffa, 0xa4506ceb, 0xbef9a3f7, 0xc67178f2]

@[inline] def rotateRight (x n : UInt32) : UInt32 := (x >>> n) ||| (x <<< (32 - n))

/-- Extends a message schedule to `count` more words. -/
def extend : (count : Nat) → Array UInt32 → Array UInt32
  | 0, w => w
  | count + 1, w =>
      let n := w.size
      let x := w.getD (n - 15) 0
      let y := w.getD (n - 2) 0
      let s₀ := rotateRight x 7 ^^^ rotateRight x 18 ^^^ (x >>> 3)
      let s₁ := rotateRight y 17 ^^^ rotateRight y 19 ^^^ (y >>> 10)
      extend count (w.push (w.getD (n - 16) 0 + s₀ + w.getD (n - 7) 0 + s₁))

/-- The 64 words that a block contributes to the rounds. -/
def schedule (block : ByteArray) : Array UInt32 :=
  extend 48 ((Array.range 16).map fun i => wordAt block (4 * i))

/-- One round with the given constant and message word. -/
@[inline] def round (s : State) (k w : UInt32) : State :=
  let s₁ := rotateRight s.e 6 ^^^ rotateRight s.e 11 ^^^ rotateRight s.e 25
  let choice := (s.e &&& s.f) ^^^ (~~~s.e &&& s.g)
  let t₁ := s.h + s₁ + choice + k + w
  let s₀ := rotateRight s.a 2 ^^^ rotateRight s.a 13 ^^^ rotateRight s.a 22
  let majority := (s.a &&& s.b) ^^^ (s.a &&& s.c) ^^^ (s.b &&& s.c)
  ⟨t₁ + (s₀ + majority), s.a, s.b, s.c, s.d + t₁, s.e, s.f, s.g⟩

/-- The last `count` of the 64 rounds. -/
def rounds (w : Array UInt32) : (count : Nat) → State → State
  | 0, s => s
  | count + 1, s =>
      let i := 63 - count
      rounds w count (round s (roundConstants.getD i 0) (w.getD i 0))

def compress (s : State) (block : ByteArray) : State :=
  let t := rounds (schedule block) 64 s
  ⟨s.a + t.a, s.b + t.b, s.c + t.c, s.d + t.d, s.e + t.e, s.f + t.f, s.g + t.g, s.h + t.h⟩

def State.octets (s : State) : Bytes :=
  [s.a, s.b, s.c, s.d, s.e, s.f, s.g, s.h].flatMap octetsOfWord

/-- The function with the given initial state that puts out the given number of octets. -/
def variant (initial : State) (size : Nat) : BlockHash where
  State := State
  blockSize := 64
  lengthWidth := 8
  initial := initial
  compress := compress
  lengthField := bigEndian 8
  output s := s.octets.take size

def sha256 : BlockHash := variant
  ⟨0x6a09e667, 0xbb67ae85, 0x3c6ef372, 0xa54ff53a,
    0x510e527f, 0x9b05688c, 0x1f83d9ab, 0x5be0cd19⟩ 32

def sha224 : BlockHash := variant
  ⟨0xc1059ed8, 0x367cd507, 0x3070dd17, 0xf70e5939,
    0xffc00b31, 0x68581511, 0x64f98fa7, 0xbefa4fa4⟩ 28

end ArtifactSigning.Sha256
