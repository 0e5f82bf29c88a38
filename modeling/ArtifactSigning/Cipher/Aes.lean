import ArtifactSigning.Cipher.Feedback

/-!
# AES

The block is a square of 16 octets, column by column. Every round substitutes the octets, rotates
the rows, mixes the columns and adds a round key; the last round does not mix. Keys have 16, 24 or
32 octets.
-/
namespace ArtifactSigning.Aes

/-- Doubling in the field of 256 elements. -/
def double (x : UInt8) : UInt8 := if x < 0x80 then x <<< 1 else (x <<< 1) ^^^ 0x1B

/-- Multiplication in the field, over the given bits of the second factor. -/
def multiplyBits : (bits : Nat) → (x y : UInt8) → UInt8
  | 0, _, _ => 0
  | bits + 1, x, y =>
      (if y &&& 1 = 1 then x else 0) ^^^ multiplyBits bits (double x) (y >>> 1)

def multiply (x y : UInt8) : UInt8 := multiplyBits 8 x y

/-- The inverse in the field, which is the power 254; zero goes to zero. -/
def inverse (x : UInt8) : UInt8 :=
  let x2 := multiply x x
  let x3 := multiply x2 x
  let x12 := multiply (multiply x3 x3) (multiply x3 x3)
  let x15 := multiply x12 x3
  let x30 := multiply x15 x15
  let x60 := multiply x30 x30
  let x120 := multiply x60 x60
  let x240 := multiply x120 x120
  multiply (multiply x240 x12) x2

@[inline] def rotateOctet (x n : UInt8) : UInt8 := (x <<< n) ||| (x >>> (8 - n))

/-- The substitution of one octet: the inverse, followed by an affine map. -/
def substitute (x : UInt8) : UInt8 :=
  let y := inverse x
  y ^^^ rotateOctet y 1 ^^^ rotateOctet y 2 ^^^ rotateOctet y 3 ^^^ rotateOctet y 4 ^^^ 0x63

/-- The substitution of every octet. -/
def substitutions : Array UInt8 := (Array.range 256).map fun n => substitute (UInt8.ofNat n)

def substituteFast (x : UInt8) : UInt8 := substitutions.getD x.toNat 0

/-- The next word of the key schedule, for keys of `size` words. -/
def nextWord (size : Nat) (words : Array Bytes) : Bytes :=
  let i := words.size
  let last := words.getD (i - 1) []
  let mixed :=
    if i % size = 0 then
      match last with
      | [] => []
      | b :: rest =>
          let constant := (List.range (i / size - 1)).foldl (fun c _ => double c) 1
          xorBytes ((rest ++ [b]).map substituteFast) [constant, 0, 0, 0]
    else if 6 < size ∧ i % size = 4 then last.map substituteFast
    else last
  xorBytes (words.getD (i - size) []) mixed

/-- Extends a key schedule by `count` words. -/
def extend (size : Nat) : (count : Nat) → Array Bytes → Array Bytes
  | 0, words => words
  | count + 1, words => extend size count (words.push (nextWord size words))

/-- The words of a byte string. -/
def wordsOf (key : Bytes) : Array Bytes :=
  (Array.range (key.length / 4)).map fun i => (key.drop (4 * i)).take 4

/-- The number of rounds and the round keys, one after the other. -/
structure Schedule where
  rounds : Nat
  keys : Array UInt8

def schedule (key : Bytes) : Schedule :=
  let size := key.length / 4
  let rounds := size + 6
  let words := extend size (4 * (rounds + 1) - size) (wordsOf key)
  ⟨rounds, words.toList.flatten.toArray⟩

def addRoundKey (s : Schedule) (round : Nat) (block : Array UInt8) : Array UInt8 :=
  (Array.range 16).map fun i => block.getD i 0 ^^^ s.keys.getD (16 * round + i) 0

/-- Substitutes the octets and rotates every row by its number. -/
def shiftedRows (block : Array UInt8) : Array UInt8 :=
  (Array.range 16).map fun i => substituteFast (block.getD ((i + 4 * (i % 4)) % 16) 0)

/-- Multiplies every column by a fixed matrix. -/
def mixedColumns (block : Array UInt8) : Array UInt8 :=
  (Array.range 16).map fun i =>
    let entry (k : Nat) := block.getD (i / 4 * 4 + (i + k) % 4) 0
    double (entry 0) ^^^ double (entry 1) ^^^ entry 1 ^^^ entry 2 ^^^ entry 3

/-- The rounds from the given one on, of which `count` are left before the last. -/
def innerRounds (s : Schedule) : (count : Nat) → (round : Nat) → Array UInt8 → Array UInt8
  | 0, _, block => block
  | count + 1, round, block =>
      innerRounds s count (round + 1) (addRoundKey s round (mixedColumns (shiftedRows block)))

def encryptBlock (s : Schedule) (block : Bytes) : Bytes :=
  let start := addRoundKey s 0 block.toArray
  let inner := innerRounds s (s.rounds - 1) 1 start
  (addRoundKey s s.rounds (shiftedRows inner)).toList

/-- The block function of a key. -/
def blockFunction (key : Bytes) : BlockFunction :=
  let s := schedule key
  ⟨16, encryptBlock s⟩

end ArtifactSigning.Aes
