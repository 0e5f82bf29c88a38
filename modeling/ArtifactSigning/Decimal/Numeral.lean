/-!
# Decimal numerals

A numeral is a run of digits, perhaps with a point in it, and perhaps with a power of ten after it.
`ofText?` reads the floating-point number nearest to a numeral, and the words for the infinities and
for what is no number.
-/
namespace ArtifactSigning.Decimal

/-- The number `± digits * 10 ^ power`. -/
structure Numeral where
  negative : Bool
  digits : Nat
  power : Int
  deriving DecidableEq, Repr

/-- The number that a run of digits spells. -/
def digitsValue (digits : List Char) : Nat :=
  digits.foldl (fun n c => n * 10 + (c.toNat - '0'.toNat)) 0

/-- Takes a sign off a text; a minus is `true`. -/
def cutSign : List Char → Bool × List Char
  | '-' :: rest => (true, rest)
  | '+' :: rest => (false, rest)
  | rest => (false, rest)

/-- The power of ten after the digits, which may be missing. -/
def powerOf? : List Char → Option Int
  | [] => some 0
  | mark :: rest =>
      let (negative, digits) := cutSign rest
      if (mark = 'e' ∨ mark = 'E') ∧ digits ≠ [] ∧ digits.all Char.isDigit then
        some (if negative then -(digitsValue digits : Int) else digitsValue digits)
      else none

namespace Numeral

/-- The numeral that a text without its sign spells. Digits may be missing on one side of the point,
but not on both. -/
def ofUnsigned? (negative : Bool) (text : List Char) : Option Numeral := do
  let whole := text.takeWhile Char.isDigit
  let rest := text.dropWhile Char.isDigit
  let (fraction, rest) := match rest with
    | '.' :: rest => (rest.takeWhile Char.isDigit, rest.dropWhile Char.isDigit)
    | rest => ([], rest)
  if whole ++ fraction = [] then none
  else
    let power ← powerOf? rest
    return ⟨negative, digitsValue (whole ++ fraction), power - fraction.length⟩

/-- The numeral that a text spells. -/
def ofText? (text : List Char) : Option Numeral :=
  let (negative, rest) := cutSign text
  ofUnsigned? negative rest

/-- From this power of ten on, no number is finite. -/
def overflowPower : Int := 310

/-- Below this power of ten every number is nearest to zero. -/
def underflowPower : Int := -330

/-- The nearest floating-point number. -/
def toFloat (n : Numeral) : Float :=
  let magnitude : Int := (Nat.toDigits 10 n.digits).length + n.power
  let size : Float :=
    if n.digits = 0 ∨ magnitude < underflowPower then 0
    else if overflowPower < magnitude then 1 / 0
    else Float.ofScientific n.digits (n.power < 0) n.power.natAbs
  if n.negative then -size else size

end Numeral

/-- The floating-point number that a text spells. Case does not matter in the words. -/
def ofText? (text : List Char) : Option Float :=
  let (negative, rest) := cutSign text
  match String.ofList (rest.map Char.toLower) with
  | "inf" | "infinity" => some (if negative then -1 / 0 else 1 / 0)
  | "nan" => some (0 / 0)
  | _ => (Numeral.ofUnsigned? negative rest).map Numeral.toFloat

end ArtifactSigning.Decimal
