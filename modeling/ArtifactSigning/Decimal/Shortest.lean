import ArtifactSigning.Decimal.Binary64

/-!
# Shortest decimal texts of floating-point numbers

`shortest` finds, for a positive value, the decimal with the fewest digits that lies among the
reals rounding to that value, and the nearest of those. `format` writes it with a point between
the digits while the exponent is small and with a power of ten otherwise.
-/
namespace ArtifactSigning.Decimal

/-- The decimal `digits * 10 ^ power`. -/
structure Scaled where
  digits : Nat
  power : Int
  deriving DecidableEq, Repr

/-- The number of decimal digits; one for zero. -/
def digitCount (n : Nat) : Nat := (Nat.toDigits 10 n).length

/-- A positive value together with the ends of the interval that rounds to it, all three as
multiples of one unit `numerator / denominator`. -/
structure Rounding where
  value : Nat
  low : Nat
  high : Nat
  closed : Bool
  numerator : Nat
  denominator : Nat

/-- The rounding interval of a finite value: half the distance to either neighbour, with the ends
included when the mantissa is even. -/
def Rounding.of (x : Binary64) : Rounding where
  value := 4 * x.mantissa
  low := 4 * x.mantissa - (if x.narrowBelow then 1 else 2)
  high := 4 * x.mantissa + 2
  closed := x.mantissa % 2 = 0
  numerator := if 0 ≤ x.exponent then 2 ^ x.exponent.toNat else 1
  denominator := if 0 ≤ x.exponent then 4 else 4 * 2 ^ (-x.exponent).toNat

/-- The power `k` with `10 ^ (k - 1) ≤ value < 10 ^ k`. -/
def Rounding.magnitude (r : Rounding) : Int :=
  let whole := r.value * r.numerator / r.denominator
  if whole ≠ 0 then digitCount whole
  else
    let zeros := (List.range 400).find? fun j =>
      r.denominator ≤ r.value * r.numerator * 10 ^ (j + 1)
    Int.negOfNat (zeros.getD 0)

/-- The grid `10 ^ power` measured against the unit: a decimal `d` on it lies where the multiple
`d * stride / scale` of the unit does. -/
def Rounding.grid (r : Rounding) (power : Int) : Nat × Nat :=
  (if 0 ≤ power then r.denominator * 10 ^ power.toNat else r.denominator,
    if 0 ≤ power then r.numerator else r.numerator * 10 ^ (-power).toNat)

/-- Whether a decimal of the grid rounds to the value. -/
def Rounding.contains (r : Rounding) (stride scale d : Nat) : Bool :=
  let place := d * stride
  if r.closed then r.low * scale ≤ place && place ≤ r.high * scale
  else r.low * scale < place && place < r.high * scale

/-- The decimal of `count` digits that rounds to the value, the nearest if there are two; a tie
goes to the even one. -/
def Rounding.withDigits? (r : Rounding) (count : Nat) : Option Scaled :=
  let power := r.magnitude - count
  let (stride, scale) := r.grid power
  let target := r.value * scale
  let below := target / stride
  let above := below + 1
  match r.contains stride scale below, r.contains stride scale above with
  | true, true =>
      let gapBelow := target - below * stride
      let gapAbove := above * stride - target
      if gapBelow < gapAbove ∨ (gapBelow = gapAbove ∧ below % 2 = 0) then some ⟨below, power⟩
      else some ⟨above, power⟩
  | true, false => some ⟨below, power⟩
  | false, true => some ⟨above, power⟩
  | false, false => none

/-- The decimal with the fewest digits that rounds to the value. Seventeen digits always do. -/
def Rounding.shortest (r : Rounding) : Scaled :=
  ((List.range 17).findSome? fun n => r.withDigits? (n + 1)).getD ⟨0, 0⟩

/-- A decimal without zeros at the end of its digits. -/
def Scaled.trimmed (s : Scaled) : List Char × Int :=
  let digits := Nat.toDigits 10 s.digits
  let kept := (digits.reverse.dropWhile (· = '0')).reverse
  (kept, s.power + (digits.length - kept.length : Nat))

/-- The exponent of a power of ten: a sign and at least two digits. -/
def exponentText (n : Int) : List Char :=
  let digits := Nat.toDigits 10 n.natAbs
  'e' :: (if n < 0 then '-' else '+') :: (if digits.length < 2 then '0' :: digits else digits)

/-- Positional from `10 ^ -4` up to, and without, `10 ^ 16`, always with a digit after the point;
with a power of ten elsewhere, and then with a point only between digits. -/
def Scaled.format (s : Scaled) : List Char :=
  let (digits, power) := s.trimmed
  let count : Int := digits.length
  let point := count + power
  if -4 < point ∧ point ≤ 16 then
    if point ≤ 0 then '0' :: '.' :: List.replicate (-point).toNat '0' ++ digits
    else if count ≤ point then digits ++ List.replicate (point - count).toNat '0' ++ ['.', '0']
    else digits.take point.toNat ++ '.' :: digits.drop point.toNat
  else
    match digits with
    | [] => []
    | first :: more =>
        first :: (if more = [] then [] else '.' :: more) ++ exponentText (point - 1)

/-- The shortest text of a floating-point number that reads back as that number. -/
def format (x : Float) : List Char :=
  match Binary64.ofBits x.toBits with
  | none =>
      if x == x then (if x < 0 then "-inf".toList else "inf".toList) else "nan".toList
  | some value =>
      let sign := if value.negative then ['-'] else []
      if value.mantissa = 0 then sign ++ "0.0".toList
      else sign ++ (Rounding.of value).shortest.format

end ArtifactSigning.Decimal
