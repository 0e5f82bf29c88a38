import ArtifactSigning.PublicKey.Modular

/-!
# The Lucas test

To a discriminant `d` belong two sequences with `u 0 = 0`, `v 0 = 2` and `u 1 = v 1 = 1`, in which
every later member is the one before it less `q` times the one before that, where `q` is a quarter
of `1 - d`. Modulo a prime number for which `d` is no square they take the value zero at certain
places. `Lucas.passes` looks for a zero at these places; every odd prime passes.
-/
namespace ArtifactSigning.Lucas

/-- The Jacobi symbol of a number over an odd one. -/
def symbol (a n : Nat) : Int :=
  if a = 0 then if n = 1 then 1 else 0
  else if a % 2 = 0 then (if n % 8 = 3 ∨ n % 8 = 5 then -1 else 1) * symbol (a / 2) n
  else (if a % 4 = 3 ∧ n % 4 = 3 then -1 else 1) * symbol (n % a) a
termination_by a
decreasing_by
  · omega
  · exact Nat.mod_lt _ (by omega)

/-- The first of the numbers `5, -7, 9, -11` and so on, from `candidate` on, whose symbol is minus
one. -/
def discriminantFrom (n : Nat) : (count : Nat) → (candidate : Int) → Option Int
  | 0, _ => none
  | count + 1, candidate =>
      if symbol (candidate % n).toNat n = -1 then some candidate
      else
        let size := (candidate.natAbs : Int) + 2
        discriminantFrom n count (if 0 < candidate then -size else size)

/-- The discriminant for an odd number. None is found for a square. -/
def discriminant? (n : Nat) : Option Int := discriminantFrom n (bitLength n ^ 2) 5

/-- The members of the two sequences at one place, and the power of `q` with this exponent. -/
structure Terms where
  u : Nat
  v : Nat
  power : Nat
  deriving DecidableEq, Repr

/-- Half of a number modulo an odd one. -/
def half (n x : Nat) : Nat := if x % 2 = 0 then x / 2 else (x + n) / 2

/-- The members at twice the place. -/
def Terms.double (n : Nat) (t : Terms) : Terms where
  u := t.u * t.v % n
  v := Modular.sub n (t.v * t.v) (2 * t.power)
  power := t.power * t.power % n

/-- The members at the next place. -/
def Terms.next (n d q : Nat) (t : Terms) : Terms where
  u := half n ((t.u + t.v) % n)
  v := half n ((d * t.u + t.v) % n)
  power := t.power * q % n

/-- The members at a place, by doubling. -/
def terms (n d q : Nat) (place : Nat) : Terms :=
  if _h : place = 0 then ⟨0, 2 % n, 1 % n⟩
  else
    let t := (terms n d q (place / 2)).double n
    if place % 2 = 1 then t.next n d q else t
termination_by place
decreasing_by omega

/-- Whether the second sequence is zero at one of `count` places, each twice the one before it. -/
def reachesZero (n : Nat) : (count : Nat) → Terms → Bool
  | 0, _ => false
  | count + 1, t => t.v = 0 || reachesZero n count (t.double n)

/-- The number of times that two divides a number. -/
def twos (n : Nat) : Nat :=
  if _h : n = 0 ∨ n % 2 = 1 then 0 else twos (n / 2) + 1
termination_by n
decreasing_by omega

/-- Whether an odd number passes the test. With `n + 1` written as an odd number times a power of
two, the first sequence is zero at the odd number or the second at one of its doubles below
`n + 1`. -/
def passes (n : Nat) : Bool :=
  match discriminant? n with
  | none => false
  | some discriminant =>
      let d := (discriminant % n).toNat
      let q := ((1 - discriminant) / 4 % n).toNat
      let s := twos (n + 1)
      let t := terms n d q ((n + 1) / 2 ^ s)
      t.u = 0 || reachesZero n s t

end ArtifactSigning.Lucas
