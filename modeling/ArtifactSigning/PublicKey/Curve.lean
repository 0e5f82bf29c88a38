import ArtifactSigning.PublicKey.Modular

/-!
# Elliptic curves over prime fields

A curve `y² = x³ + a x + b` modulo a prime with a base point of known order. Points are added in
Jacobian coordinates, where `(x, y, z)` stands for the point `(x / z², y / z³)` and `z = 0` for the
neutral point, so that only the last step needs an inverse.
-/
namespace ArtifactSigning

structure Curve where
  field : Nat
  a : Nat
  b : Nat
  baseX : Nat
  baseY : Nat
  order : Nat
  deriving DecidableEq, Repr

namespace Curve

/-- Jacobian coordinates. -/
structure Point where
  x : Nat
  y : Nat
  z : Nat
  deriving DecidableEq, Repr

def neutral : Point := ⟨1, 1, 0⟩

/-- The point with the given affine coordinates. -/
def ofAffine (x y : Nat) : Point := ⟨x, y, 1⟩

def base (curve : Curve) : Point := ofAffine curve.baseX curve.baseY

/-- The sum of a point with itself. -/
def double (curve : Curve) (s : Point) : Point :=
  let p := curve.field
  if s.z = 0 ∨ s.y = 0 then neutral
  else
    let yy := s.y * s.y % p
    let t := 4 * s.x * yy % p
    let zz := s.z * s.z % p
    let m := (3 * s.x * s.x + curve.a * (zz * zz % p)) % p
    let x := Modular.sub p (m * m) (2 * t)
    let y := Modular.sub p (m * Modular.sub p t x) (8 * yy * yy)
    ⟨x, y, 2 * s.y * s.z % p⟩

/-- The sum of two points. -/
def add (curve : Curve) (s t : Point) : Point :=
  let p := curve.field
  if s.z = 0 then t
  else if t.z = 0 then s
  else
    let z₁ := s.z * s.z % p
    let z₂ := t.z * t.z % p
    let u₁ := s.x * z₂ % p
    let u₂ := t.x * z₁ % p
    let s₁ := s.y * (z₂ * t.z % p) % p
    let s₂ := t.y * (z₁ * s.z % p) % p
    if u₁ = u₂ then
      if s₁ = s₂ then curve.double s else neutral
    else
      let h := Modular.sub p u₂ u₁
      let r := Modular.sub p s₂ s₁
      let hh := h * h % p
      let hhh := hh * h % p
      let v := u₁ * hh % p
      let x := Modular.sub p (r * r) (hhh + 2 * v)
      let y := Modular.sub p (r * Modular.sub p v x) (s₁ * hhh)
      ⟨x, y, h * s.z * t.z % p⟩

/-- The multiple of a point, by doubling and adding. -/
def multiply (curve : Curve) (n : Nat) (s : Point) : Point :=
  if _h : n = 0 then neutral
  else
    let rest := curve.multiply (n / 2) (curve.double s)
    if n % 2 = 1 then curve.add s rest else rest
termination_by n
decreasing_by omega

/-- The first affine coordinate of a point that is not neutral. -/
def affineX? (curve : Curve) (s : Point) : Option Nat :=
  if s.z = 0 then none
  else (Modular.inverse? curve.field (s.z * s.z % curve.field)).map fun i => s.x * i % curve.field

end Curve

end ArtifactSigning
