import ArtifactSigning.Cipher.Feedback

/-!
# Camellia

A block of 128 bits runs through 18 rounds, or 24 for keys of more than 16 octets; after every six
rounds its halves pass two keyed bit functions. Keys have 16, 24 or 32 octets.
-/
namespace ArtifactSigning.Camellia

/-- The substitution that the other three are rotations of. -/
def substitution : Array UInt8 := #[
  112, 130, 44, 236, 179, 39, 192, 229, 228, 133, 87, 53, 234, 12, 174, 65,
  35, 239, 107, 147, 69, 25, 165, 33, 237, 14, 79, 78, 29, 101, 146, 189,
  134, 184, 175, 143, 124, 235, 31, 206, 62, 48, 220, 95, 94, 197, 11, 26,
  166, 225, 57, 202, 213, 71, 93, 61, 217, 1, 90, 214, 81, 86, 108, 77,
  139, 13, 154, 102, 251, 204, 176, 45, 116, 18, 43, 32, 240, 177, 132, 153,
  223, 76, 203, 194, 52, 126, 118, 5, 109, 183, 169, 49, 209, 23, 4, 215,
  20, 88, 58, 97, 222, 27, 17, 28, 50, 15, 156, 22, 83, 24, 242, 34,
  254, 68, 207, 178, 195, 181, 122, 145, 36, 8, 232, 168, 96, 252, 105, 80,
  170, 208, 160, 125, 161, 137, 98, 151, 84, 91, 30, 149, 224, 255, 100, 210,
  16, 196, 0, 72, 163, 247, 117, 219, 138, 3, 230, 218, 9, 63, 221, 148,
  135, 92, 131, 2, 205, 74, 144, 51, 115, 103, 246, 243, 157, 127, 191, 226,
  82, 155, 216, 38, 200, 55, 198, 59, 129, 150, 111, 75, 19, 190, 99, 46,
  233, 121, 167, 140, 159, 110, 188, 142, 41, 245, 249, 182, 47, 253, 180, 89,
  120, 152, 6, 106, 231, 70, 113, 186, 212, 37, 171, 66, 136, 162, 141, 250,
  114, 7, 185, 85, 248, 238, 172, 10, 54, 73, 42, 104, 60, 56, 241, 164,
  64, 40, 211, 123, 187, 201, 67, 193, 21, 227, 173, 244, 119, 199, 128, 158]

@[inline] def rotateOctet (x n : UInt8) : UInt8 := (x <<< n) ||| (x >>> (8 - n))

@[inline] def rotateWord (x n : UInt32) : UInt32 := (x <<< n) ||| (x >>> (32 - n))

def box₁ (x : UInt8) : UInt8 := substitution.getD x.toNat 0

def box₂ (x : UInt8) : UInt8 := rotateOctet (box₁ x) 1

def box₃ (x : UInt8) : UInt8 := rotateOctet (box₁ x) 7

def box₄ (x : UInt8) : UInt8 := box₁ (rotateOctet x 1)

/-- The number of eight octets. -/
def joined (y₁ y₂ y₃ y₄ y₅ y₆ y₇ y₈ : UInt8) : UInt64 :=
  [y₁, y₂, y₃, y₄, y₅, y₆, y₇, y₈].foldl (fun n b => (n <<< 8) ||| b.toUInt64) 0

/-- The round function: substitutions of the octets and a linear map between them. -/
def roundFunction (x key : UInt64) : UInt64 :=
  let z := x ^^^ key
  let t₁ := box₁ (z >>> 56).toUInt8
  let t₂ := box₂ (z >>> 48).toUInt8
  let t₃ := box₃ (z >>> 40).toUInt8
  let t₄ := box₄ (z >>> 32).toUInt8
  let t₅ := box₂ (z >>> 24).toUInt8
  let t₆ := box₃ (z >>> 16).toUInt8
  let t₇ := box₄ (z >>> 8).toUInt8
  let t₈ := box₁ z.toUInt8
  joined (t₁ ^^^ t₃ ^^^ t₄ ^^^ t₆ ^^^ t₇ ^^^ t₈) (t₁ ^^^ t₂ ^^^ t₄ ^^^ t₅ ^^^ t₇ ^^^ t₈)
    (t₁ ^^^ t₂ ^^^ t₃ ^^^ t₅ ^^^ t₆ ^^^ t₈) (t₂ ^^^ t₃ ^^^ t₄ ^^^ t₅ ^^^ t₆ ^^^ t₇)
    (t₁ ^^^ t₂ ^^^ t₆ ^^^ t₇ ^^^ t₈) (t₂ ^^^ t₃ ^^^ t₅ ^^^ t₇ ^^^ t₈)
    (t₃ ^^^ t₄ ^^^ t₅ ^^^ t₆ ^^^ t₈) (t₁ ^^^ t₄ ^^^ t₅ ^^^ t₆ ^^^ t₇)

@[inline] def high (x : UInt64) : UInt32 := (x >>> 32).toUInt32

@[inline] def low (x : UInt64) : UInt32 := x.toUInt32

@[inline] def joinedWords (x y : UInt32) : UInt64 := (x.toUInt64 <<< 32) ||| y.toUInt64

/-- The bit function of the left half. -/
def leftFunction (x key : UInt64) : UInt64 :=
  let y := low x ^^^ rotateWord (high x &&& high key) 1
  joinedWords (high x ^^^ (y ||| low key)) y

/-- The bit function of the right half, the inverse of the one for the left half. -/
def rightFunction (x key : UInt64) : UInt64 :=
  let y := high x ^^^ (low x ||| low key)
  joinedWords y (low x ^^^ rotateWord (y &&& high key) 1)

/-- The halves of a block. -/
structure Halves where
  left : UInt64
  right : UInt64

/-- The halves of a number of 128 bits. -/
def Halves.ofNat (n : Nat) : Halves := ⟨UInt64.ofNat (n / 2 ^ 64), UInt64.ofNat n⟩

def Halves.toNat (h : Halves) : Nat := h.left.toNat * 2 ^ 64 + h.right.toNat

/-- Two rounds. -/
def twoRounds (h : Halves) (key₁ key₂ : UInt64) : Halves :=
  let right := h.right ^^^ roundFunction h.left key₁
  ⟨h.left ^^^ roundFunction right key₂, right⟩

/-- Rotation of a number of 128 bits. -/
def rotate (n amount : Nat) : Nat := (n * 2 ^ amount) % 2 ^ 128 + n * 2 ^ amount / 2 ^ 128

/-- The four numbers that all subkeys are cut from. -/
structure KeyParts where
  left : Nat
  right : Nat
  first : Nat
  second : Nat

def keyParts (key : Bytes) : KeyParts :=
  let left := ofBigEndian (key.take 16)
  let tail := ofBigEndian (key.drop 16)
  let right :=
    if key.length = 24 then tail * 2 ^ 64 + (2 ^ 64 - 1 - tail)
    else tail
  let mixed := twoRounds (Halves.ofNat (left ^^^ right)) 0xA09E667F3BCC908B 0xB67AE8584CAA73B2
  let first := twoRounds (Halves.ofNat (mixed.toNat ^^^ left)) 0xC6EF372FE94F82BE 0x54FF53A5F1D36F1C
  let second := twoRounds (Halves.ofNat (first.toNat ^^^ right))
    0x10E527FADE682D1D 0xB05688C2B3E6C1FD
  ⟨left, right, first.toNat, second.toNat⟩

/-- One step of an encryption: two rounds, or the two bit functions. -/
inductive Step where
  | rounds (keys : Halves)
  | functions (keys : Halves)

/-- The keys added before the first and after the last step, and the steps. -/
structure Schedule where
  before : Halves
  steps : List Step
  after : Halves

def schedule (key : Bytes) : Schedule :=
  let k := keyParts key
  let cut (n amount : Nat) : Halves := Halves.ofNat (rotate n amount)
  if key.length ≤ 16 then
    { before := cut k.left 0
      steps := [.rounds (cut k.first 0), .rounds (cut k.left 15), .rounds (cut k.first 15),
        .functions (cut k.first 30), .rounds (cut k.left 45),
        .rounds ⟨(cut k.first 45).left, (cut k.left 60).right⟩, .rounds (cut k.first 60),
        .functions (cut k.left 77), .rounds (cut k.left 94), .rounds (cut k.first 94),
        .rounds (cut k.left 111)]
      after := cut k.first 111 }
  else
    { before := cut k.left 0
      steps := [.rounds (cut k.second 0), .rounds (cut k.right 15), .rounds (cut k.first 15),
        .functions (cut k.right 30), .rounds (cut k.second 30), .rounds (cut k.left 45),
        .rounds (cut k.first 45), .functions (cut k.left 60), .rounds (cut k.right 60),
        .rounds (cut k.second 60), .rounds (cut k.left 77), .functions (cut k.first 77),
        .rounds (cut k.right 94), .rounds (cut k.first 94), .rounds (cut k.left 111)]
      after := cut k.second 111 }

def step (h : Halves) : Step → Halves
  | .rounds keys => twoRounds h keys.left keys.right
  | .functions keys => ⟨leftFunction h.left keys.left, rightFunction h.right keys.right⟩

def encryptBlock (s : Schedule) (block : Bytes) : Bytes :=
  let start := Halves.ofNat (ofBigEndian block)
  let h := s.steps.foldl step ⟨start.left ^^^ s.before.left, start.right ^^^ s.before.right⟩
  bigEndian 16 (Halves.toNat ⟨h.right ^^^ s.after.left, h.left ^^^ s.after.right⟩)

/-- The block function of a key. -/
def blockFunction (key : Bytes) : BlockFunction :=
  let s := schedule key
  ⟨16, encryptBlock s⟩

end ArtifactSigning.Camellia
