import ArtifactSigning.Cipher.Cast5Tables
import ArtifactSigning.Cipher.Feedback

/-!
# CAST-128

A block of 64 bits runs through 16 rounds of three kinds in turn, or through 12 for keys of at most
ten octets. Every round has a masking and a rotation subkey.
-/
namespace ArtifactSigning.Cast5

@[inline] def rotate (x n : UInt32) : UInt32 := (x <<< n) ||| (x >>> (32 - n))

@[inline] def entry (box : Array UInt32) (i : UInt8) : UInt32 := box.getD i.toNat 0

/-- The four words of the key schedule's register. -/
abbrev Register := Array UInt32

/-- The octet at an index of the register. -/
def octet (r : Register) (i : Nat) : UInt8 :=
  (r.getD (i / 4) 0 >>> UInt32.ofNat (24 - 8 * (i % 4))).toUInt8

/-- The exclusive or of four table entries, one from each table of the key schedule. -/
def fourEntries (r : Register) (i j k l : Nat) : UInt32 :=
  entry box₅ (octet r i) ^^^ entry box₆ (octet r j) ^^^ entry box₇ (octet r k) ^^^
    entry box₈ (octet r l)

/-- The register after one of its two mixing steps. The step takes the old words in the given
order, and one more octet of the old register for each new word. -/
def mix (r : Register) (order : Nat × Nat × Nat × Nat) (first : UInt32)
    (extra : Nat × Nat × Nat × Nat) : Register :=
  let (o₀, o₁, o₂, o₃) := order
  let (e₀, e₁, e₂, e₃) := extra
  let new := #[r.getD o₀ 0 ^^^ first ^^^ entry box₇ (octet r e₀)]
  let new := new.push (r.getD o₁ 0 ^^^ fourEntries new 0 2 1 3 ^^^ entry box₈ (octet r e₁))
  let new := new.push (r.getD o₂ 0 ^^^ fourEntries new 7 6 5 4 ^^^ entry box₅ (octet r e₂))
  new.push (r.getD o₃ 0 ^^^ fourEntries new 10 9 11 8 ^^^ entry box₆ (octet r e₃))

def mixForward (r : Register) : Register :=
  mix r (0, 2, 3, 1) (fourEntries r 13 15 12 14) (8, 10, 9, 11)

def mixBackward (r : Register) : Register :=
  mix r (2, 0, 1, 3) (fourEntries r 5 7 4 6) (0, 2, 1, 3)

/-- The octets that make four subkeys: four for the tables in turn and a fifth for each. -/
abbrev Selection := List (Nat × Nat × Nat × Nat × Nat)

/-- Four subkeys of a register. -/
def subkeys (r : Register) (selection : Selection) : List UInt32 :=
  (selection.zip [box₅, box₆, box₇, box₈]).map fun ((i, j, k, l, m), box) =>
    fourEntries r i j k l ^^^ entry box (octet r m)

def selections : List Selection :=
  [[(8, 9, 7, 6, 2), (10, 11, 5, 4, 6), (12, 13, 3, 2, 9), (14, 15, 1, 0, 12)],
    [(3, 2, 12, 13, 8), (1, 0, 14, 15, 13), (7, 6, 8, 9, 3), (5, 4, 10, 11, 7)],
    [(3, 2, 12, 13, 9), (1, 0, 14, 15, 12), (7, 6, 8, 9, 2), (5, 4, 10, 11, 6)],
    [(8, 9, 7, 6, 3), (10, 11, 5, 4, 7), (12, 13, 3, 2, 8), (14, 15, 1, 0, 13)]]

/-- Sixteen subkeys and the register after them. -/
def sixteen (r : Register) : List UInt32 × Register :=
  let r₁ := mixForward r
  let r₂ := mixBackward r₁
  let r₃ := mixForward r₂
  let r₄ := mixBackward r₃
  ((List.zipWith subkeys [r₁, r₂, r₃, r₄] selections).flatten, r₄)

/-- The masking and the rotation subkey of every round. -/
abbrev Schedule := List (UInt32 × UInt32)

def schedule (key : Bytes) : Schedule :=
  let padded := key ++ List.replicate (16 - key.length) 0
  let register : Register := (Array.range 4).map fun i =>
    UInt32.ofNat (ofBigEndian ((padded.drop (4 * i)).take 4))
  let (masks, register) := sixteen register
  let (rotations, _) := sixteen register
  (masks.zip (rotations.map (· &&& 31))).take (if key.length ≤ 10 then 12 else 16)

/-- The round function of the given kind. -/
def roundFunction (kind : Nat) (x mask rotation : UInt32) : UInt32 :=
  let sum := if kind = 0 then mask + x else if kind = 1 then mask ^^^ x else mask - x
  let i := rotate sum rotation
  let a := entry box₁ (i >>> 24).toUInt8
  let b := entry box₂ (i >>> 16).toUInt8
  let c := entry box₃ (i >>> 8).toUInt8
  let d := entry box₄ i.toUInt8
  if kind = 0 then ((a ^^^ b) - c) + d
  else if kind = 1 then ((a - b) + c) ^^^ d
  else ((a + b) ^^^ c) - d

def rounds : Schedule → (kind : Nat) → (left right : UInt32) → UInt32 × UInt32
  | [], _, left, right => (right, left)
  | (mask, rotation) :: rest, kind, left, right =>
      rounds rest ((kind + 1) % 3) right (left ^^^ roundFunction kind right mask rotation)

def encryptBlock (s : Schedule) (block : Bytes) : Bytes :=
  let n := ofBigEndian block
  let (left, right) := rounds s 0 (UInt32.ofNat (n / 2 ^ 32)) (UInt32.ofNat n)
  bigEndian 4 left.toNat ++ bigEndian 4 right.toNat

/-- The block function of a key. -/
def blockFunction (key : Bytes) : BlockFunction :=
  let s := schedule key
  ⟨8, encryptBlock s⟩

end ArtifactSigning.Cast5
