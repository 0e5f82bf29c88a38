import ArtifactSigning.Digest.Keyed

/-!
# Secret numbers for signatures

A signature over a group of order `order` needs a number that nobody can guess and that is never
used for two messages. It is drawn from a stream of keyed digests that starts from the private key
and the digest of the message, so the same message always gets the same number.
-/
namespace ArtifactSigning.Nonce

/-- The number spelled by the leading bits of some octets, as many as the order has. -/
def leadingBits (order : Nat) (bytes : Bytes) : Nat :=
  ofBigEndian bytes >>> (8 * bytes.length - bitLength order)

/-- A key and a value, from which the next octets are drawn. -/
structure Stream where
  key : Bytes
  value : Bytes

/-- Replaces the value. -/
def Stream.advance (hash : HashAlgorithm) (s : Stream) : Stream :=
  { s with value := hash.keyed s.key s.value }

/-- Replaces the key by one that depends on a mark and some octets, and then the value. -/
def Stream.reseed (hash : HashAlgorithm) (s : Stream) (mark : UInt8) (bytes : Bytes) : Stream :=
  Stream.advance hash { s with key := hash.keyed s.key (s.value ++ mark :: bytes) }

/-- The stream for a private key and a digest. -/
def Stream.start (hash : HashAlgorithm) (order key : Nat) (digest : Bytes) : Stream :=
  let width := octetsFor (bitLength order)
  let seed := bigEndian width key ++ bigEndian width (leadingBits order digest % order)
  let s : Stream := ⟨List.replicate hash.size 0, List.replicate hash.size 1⟩
  (s.reseed hash 0 seed).reseed hash 1 seed

/-- The octets of `count` values in a row. -/
def Stream.draw (hash : HashAlgorithm) : (count : Nat) → Stream → Bytes × Stream
  | 0, s => ([], s)
  | count + 1, s =>
      let s := s.advance hash
      let (bytes, last) := Stream.draw hash count s
      (s.value ++ bytes, last)

/-- The first result of `use` on one of the next `tries` numbers between zero and the order. -/
def Stream.search (hash : HashAlgorithm) (order : Nat) (use : Nat → Option α) :
    (tries : Nat) → Stream → Option α
  | 0, _ => none
  | tries + 1, s =>
      let width := octetsFor (bitLength order)
      let (bytes, s) := Stream.draw hash ((width + hash.size - 1) / hash.size) s
      let number := leadingBits order bytes
      match if 0 < number ∧ number < order then use number else none with
      | some result => some result
      | none => Stream.search hash order use tries (s.reseed hash 0 [])

/-- The first result of `use` on the numbers drawn for a private key and a digest. -/
def first? (hash : HashAlgorithm) (order key : Nat) (digest : Bytes)
    (use : Nat → Option α) : Option α :=
  (Stream.start hash order key digest).search hash order use 256

end ArtifactSigning.Nonce
