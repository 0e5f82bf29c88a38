import ArtifactSigning.Digest.Sha512
import ArtifactSigning.Digest.Shake256
import ArtifactSigning.PublicKey.Modular

/-!
# Signatures on twisted Edwards curves

A curve `a x² + y² = 1 + d x² y²` modulo a prime with complete addition, in projective coordinates
where `(x, y, z)` stands for the point `(x / z, y / z)`. A private key is a string of octets; its
hash gives the secret multiplier and the octets that make the signature of a message unique. Numbers
are written with the least significant octet first.
-/
namespace ArtifactSigning

/-- A twisted Edwards curve with its signature scheme. -/
structure EdwardsCurve where
  field : Nat
  a : Nat
  d : Nat
  baseX : Nat
  baseY : Nat
  order : Nat
  /-- The number of octets of a key and of each half of a signature. -/
  size : Nat
  /-- The hash of the scheme, of twice `size` octets. -/
  hash : Bytes → Bytes
  /-- What stands before the hashed octets of a signature. -/
  domain : Bytes
  /-- The secret multiplier behind the first half of the hashed key. -/
  clamp : Nat → Nat

namespace EdwardsCurve

/-- Projective coordinates. -/
structure Point where
  x : Nat
  y : Nat
  z : Nat
  deriving DecidableEq, Repr

def neutral : Point := ⟨0, 1, 1⟩

def base (curve : EdwardsCurve) : Point := ⟨curve.baseX, curve.baseY, 1⟩

/-- The sum of two points. -/
def add (curve : EdwardsCurve) (s t : Point) : Point :=
  let p := curve.field
  let zz := s.z * t.z % p
  let zzzz := zz * zz % p
  let xx := s.x * t.x % p
  let yy := s.y * t.y % p
  let e := curve.d * (xx * yy % p) % p
  let f := Modular.sub p zzzz e
  let g := (zzzz + e) % p
  let cross := ((s.x + s.y) * (t.x + t.y) + 2 * p - xx - yy) % p
  ⟨zz * f % p * cross % p, zz * g % p * Modular.sub p yy (curve.a * xx) % p, f * g % p⟩

/-- The multiple of a point, by doubling and adding. -/
def multiply (curve : EdwardsCurve) (n : Nat) (s : Point) : Point :=
  if _h : n = 0 then neutral
  else
    let rest := curve.multiply (n / 2) (curve.add s s)
    if n % 2 = 1 then curve.add s rest else rest
termination_by n
decreasing_by omega

/-- The number spelled by octets, the least significant first. -/
def ofLittleEndian (bytes : Bytes) : Nat := ofBigEndian bytes.reverse

/-- A number in `width` octets, the least significant first. -/
def littleEndian (width n : Nat) : Bytes := (bigEndian width n).reverse

/-- A point as its second coordinate with the lowest bit of the first one in the topmost bit. -/
def encode (curve : EdwardsCurve) (s : Point) : Bytes :=
  let i := (Modular.inverse? curve.field s.z).getD 0
  let x := s.x * i % curve.field
  let y := s.y * i % curve.field
  littleEndian curve.size (y + x % 2 * 2 ^ (8 * curve.size - 1))

/-- The signature of a message by the private key `seed`: the encoded multiple of the base point by
a number that depends on key and message, and the answer to the challenge that comes from it. -/
def sign (curve : EdwardsCurve) (seed message : Bytes) : Bytes :=
  let digest := curve.hash seed
  let secret := curve.clamp (ofLittleEndian (digest.take curve.size))
  let noncePart := digest.drop curve.size
  let publicKey := curve.encode (curve.multiply secret curve.base)
  let nonce := ofLittleEndian (curve.hash (curve.domain ++ noncePart ++ message)) % curve.order
  let commitment := curve.encode (curve.multiply nonce curve.base)
  let challenge :=
    ofLittleEndian (curve.hash (curve.domain ++ commitment ++ publicKey ++ message)) % curve.order
  commitment ++ littleEndian curve.size ((nonce + challenge * secret) % curve.order)

/-- The curve of 255 bits. The multiplier is a multiple of eight with its topmost bit set. -/
def ed25519 : EdwardsCurve where
  field := 2 ^ 255 - 19
  a := 2 ^ 255 - 20
  d := 0x52036cee2b6ffe738cc740797779e89800700a4d4141d8ab75eb4dca135978a3
  baseX := 0x216936d3cd6e53fec0a4e231fdd6dc5c692cc7609525a7b2c9562d608f25d51a
  baseY := 0x6666666666666666666666666666666666666666666666666666666666666658
  order := 2 ^ 252 + 0x14def9dea2f79cd65812631a5cf5d3ed
  size := 32
  hash := Sha512.sha512.hash
  domain := []
  clamp n := n % 2 ^ 254 / 8 * 8 + 2 ^ 254

/-- The curve of 448 bits. The multiplier is a multiple of four with its topmost bit set. -/
def ed448 : EdwardsCurve where
  field := 2 ^ 448 - 2 ^ 224 - 1
  a := 1
  d := 2 ^ 448 - 2 ^ 224 - 39082
  baseX :=
    0x4f1970c66bed0ded221d15a622bf36da9e146570470f1767ea6de324a3d3a46412ae1af72ab66511433b80e18b00938e2626a82bc70cc05e
  baseY :=
    0x693f46716eb6bc248876203756c9c7624bea73736ca3984087789c1e05a0c2d73ad3ff1ce67c39c4fdbd132c4ed7c8ad9808795bf230fa14
  order := 2 ^ 446 - 0x8335dc163bb124b65129c96fde933d8d723a70aadc873d6d54a7bb0d
  size := 57
  hash bytes := Shake256.shake256 bytes 114
  domain := "SigEd448".toUTF8.data.toList ++ [0, 0]
  clamp n := n % 2 ^ 447 / 4 * 4 + 2 ^ 447

end EdwardsCurve

end ArtifactSigning
