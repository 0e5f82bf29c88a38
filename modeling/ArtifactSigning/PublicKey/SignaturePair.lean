import ArtifactSigning.PublicKey.Modular

/-!
# Signature pairs

In a group of prime order a digest is signed by two numbers below the order. `SignaturePair.make?`
builds them from a secret number and its image in the group; `SignaturePair.multipliers?` gives the
two multipliers by which they are checked.
-/
namespace ArtifactSigning

/-- A pair of numbers that signs a digest. -/
structure SignaturePair where
  r : Nat
  s : Nat
  deriving DecidableEq, Repr

/-- The pair for a secret number, the image `r` of that number in the group, a private key and the
number that stands for the digest. Both numbers have to be positive. -/
def SignaturePair.make? (order key digest secret r : Nat) : Option SignaturePair := do
  let inverse ← Modular.inverse? order secret
  let s := inverse * (digest + key * r) % order
  if r = 0 ∨ s = 0 then none else some ⟨r, s⟩

/-- The two multipliers by which a signature is checked: that of the generator and that of the
public key. -/
def SignaturePair.multipliers? (pair : SignaturePair) (order digest : Nat) : Option (Nat × Nat) :=
  if 0 < pair.r ∧ pair.r < order ∧ 0 < pair.s ∧ pair.s < order then do
    let w ← Modular.inverse? order pair.s
    return (digest * w % order, pair.r * w % order)
  else none

end ArtifactSigning
