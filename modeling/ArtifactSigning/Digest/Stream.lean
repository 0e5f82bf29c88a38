import ArtifactSigning.Bytes

/-!
# Hashing by blocks

A block hash has a chaining state that a compression function advances by one block at a time. A
context holds the state, the octets of the unfinished block and the number of octets so far;
`Context.update` absorbs octets one after the other, so only their order counts and not how they
are cut into pieces (`update_append`). `BlockHash.hash` is the digest of a whole byte string.
-/
namespace ArtifactSigning

/-- A hash function by blocks of `blockSize` octets. The last block is completed by the octet 80,
zeros and the bit length in a field of `lengthWidth` octets. -/
structure BlockHash where
  State : Type
  blockSize : Nat
  lengthWidth : Nat
  initial : State
  compress : State → ByteArray → State
  lengthField : Nat → Bytes
  output : State → Bytes

namespace BlockHash

structure Context (h : BlockHash) where
  state : h.State
  pending : ByteArray
  length : Nat

variable {h : BlockHash}

/-- The context before the first octet. -/
def start (h : BlockHash) : Context h := ⟨h.initial, ByteArray.empty, 0⟩

/-- One octet more. -/
def Context.absorb (c : Context h) (b : UInt8) : Context h :=
  let pending := c.pending.push b
  if pending.size = h.blockSize then
    ⟨h.compress c.state pending, ByteArray.empty, c.length + 1⟩
  else ⟨c.state, pending, c.length + 1⟩

/-- Several octets more. -/
def Context.update (c : Context h) (bytes : Bytes) : Context h := bytes.foldl absorb c

@[simp] theorem Context.update_nil (c : Context h) : c.update [] = c := rfl

theorem Context.update_append (c : Context h) (front back : Bytes) :
    c.update (front ++ back) = (c.update front).update back := List.foldl_append

/-- The octets that complete a message of the given length to whole blocks. -/
def padding (h : BlockHash) (length : Nat) : Bytes :=
  let used := (length + 1 + h.lengthWidth) % h.blockSize
  let zeros := (h.blockSize - used) % h.blockSize
  0x80 :: List.replicate zeros 0 ++ h.lengthField (8 * length)

/-- The digest of the octets absorbed so far; the context stays usable. -/
def Context.digest (c : Context h) : Bytes :=
  h.output (c.update (h.padding c.length)).state

/-- The digest of a byte string. -/
def hash (h : BlockHash) (bytes : Bytes) : Bytes := (h.start.update bytes).digest

end BlockHash

/-- The octet at an index of a block; zero behind its end. -/
def octetAt (block : ByteArray) (i : Nat) : UInt8 :=
  if h : i < block.size then block[i] else 0

/-- The big-endian word of four octets at an index. -/
def wordAt (block : ByteArray) (i : Nat) : UInt32 :=
  ((octetAt block i).toUInt32 <<< 24) ||| ((octetAt block (i + 1)).toUInt32 <<< 16) |||
    ((octetAt block (i + 2)).toUInt32 <<< 8) ||| (octetAt block (i + 3)).toUInt32

/-- The little-endian word of four octets at an index. -/
def littleWordAt (block : ByteArray) (i : Nat) : UInt32 :=
  ((octetAt block (i + 3)).toUInt32 <<< 24) ||| ((octetAt block (i + 2)).toUInt32 <<< 16) |||
    ((octetAt block (i + 1)).toUInt32 <<< 8) ||| (octetAt block i).toUInt32

/-- The four octets of a word, the most significant first. -/
def octetsOfWord (w : UInt32) : Bytes :=
  [(w >>> 24).toUInt8, (w >>> 16).toUInt8, (w >>> 8).toUInt8, w.toUInt8]

/-- The four octets of a word, the least significant first. -/
def littleOctetsOfWord (w : UInt32) : Bytes :=
  [w.toUInt8, (w >>> 8).toUInt8, (w >>> 16).toUInt8, (w >>> 24).toUInt8]

/-- Rotation of a word to the left. -/
@[inline] def rotateLeft (x n : UInt32) : UInt32 := (x <<< n) ||| (x >>> (32 - n))

end ArtifactSigning
