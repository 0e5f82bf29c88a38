import ArtifactSigning.Decimal.Numeral
import ArtifactSigning.Text.Digit
import ArtifactSigning.Text.Raw

/-!
# Structured text

The values that JSON can write, and their reader. It follows the grammar of the format and also
takes the words `NaN`, `Infinity` and `-Infinity` for numbers. Escapes in a text may name halves
of surrogate pairs, and a text may have halves anyway, so texts are raw ones.
-/
namespace ArtifactSigning

inductive Json where
  | null
  | bool (b : Bool)
  /-- A number without point and exponent. -/
  | whole (n : Int)
  | real (x : Float)
  | text (content : RawText)
  | list (items : List Json)
  | object (fields : List (RawText × Json))
  deriving Inhabited

namespace Json

/-- A reader takes a value off the front of a text. -/
abbrev Reader (α : Type) := RawText → Option (α × RawText)

/-- The blanks that may stand between tokens. -/
def skipBlanks (input : RawText) : RawText :=
  input.dropWhile (·.isIn fun c => c = ' ' ∨ c = '\t' ∨ c = '\n' ∨ c = '\r')

/-- The characters of a class at the front of a text, and what follows them. -/
def cutWhile (p : Char → Bool) : RawText → List Char × RawText
  | .char c :: rest =>
      if p c then (c :: (cutWhile p rest).1, (cutWhile p rest).2) else ([], .char c :: rest)
  | rest => ([], rest)

/-- The code unit that four hexadecimal digits name. -/
def unitOf? (digits : List CodePoint) : Option Nat := do
  let values ← digits.mapM fun
    | .char c => Text.Hex.value? c
    | .half _ => none
  return values.foldl (fun n digit => n * 16 + digit) 0

/-- The character that a letter after a backslash stands for. -/
def escaped? : Char → Option Char
  | '"' => some '"'
  | '\\' => some '\\'
  | '/' => some '/'
  | 'b' => some '\x08'
  | 'f' => some '\x0c'
  | 'n' => some '\n'
  | 'r' => some '\r'
  | 't' => some '\t'
  | _ => none

/-- Whether a code unit is the second half of a pair. -/
def isLowHalf (unit : Nat) : Bool := 0xDC00 ≤ unit && unit < 0xE000

/-- Whether a code point is the first half of a pair. -/
def isHighHalf : CodePoint → Bool
  | .char _ => false
  | .half offset => offset < 0x400

/-- The code point that is a code unit by itself. -/
def pointOf (unit : Nat) : CodePoint :=
  if h : 0xD800 ≤ unit ∧ unit < 0xE000 then .half ⟨unit - 0xD800, by omega⟩
  else .char (Char.ofNat unit)

/-- Adds a code unit that is named by its number, where the code points so far have the last one
first. If the last one `joins`, it is a first half, and a second half makes a pair with it. -/
def push (unit : Nat) : (joins : Bool) → RawText → RawText
  | true, .half high :: points =>
      if isLowHalf unit then .char (Char.ofNat (0x10000 + high * 0x400 + (unit - 0xDC00))) :: points
      else pointOf unit :: .half high :: points
  | _, points => pointOf unit :: points

/-- The rest of a text after its opening mark, where the code points so far are `points`, the last
one first. Control characters have to be escaped. Only halves that are named by their numbers
join. -/
def pointsFrom (points : RawText) (joins : Bool) : Reader RawText
  | .char '"' :: rest => some (points.reverse, rest)
  | .char '\\' :: .char 'u' :: a :: b :: c :: d :: rest =>
      match unitOf? [a, b, c, d] with
      | some unit => pointsFrom (push unit joins points) (isHighHalf (pointOf unit)) rest
      | none => none
  | .char '\\' :: .char c :: rest =>
      match escaped? c with
      | some e => pointsFrom (.char e :: points) false rest
      | none => none
  | p :: rest =>
      if p = .char '\\' ∨ p.toNat < 0x20 then none else pointsFrom (p :: points) false rest
  | [] => none

/-- The text after an opening mark. -/
def string? : Reader RawText := pointsFrom [] false

/-- The digits of a number that follow a point or the sign of an exponent, with what precedes them;
nothing if there are none. -/
def digitsAfter (mark : List Char) (input : RawText) : List Char × RawText :=
  match cutWhile Char.isDigit input with
  | ([], _) => ([], RawText.ofChars mark ++ input)
  | (digits, rest) => (mark ++ digits, rest)

/-- The fraction of a number, if there is one. -/
def fraction : RawText → List Char × RawText
  | .char '.' :: rest => digitsAfter ['.'] rest
  | rest => ([], rest)

/-- The exponent of a number, if there is one. -/
def exponent : RawText → List Char × RawText
  | .char c :: rest =>
      if c = 'e' ∨ c = 'E' then
        match rest with
        | .char '+' :: rest => digitsAfter [c, '+'] rest
        | .char '-' :: rest => digitsAfter [c, '-'] rest
        | rest => digitsAfter [c] rest
      else ([], .char c :: rest)
  | rest => ([], rest)

/-- The whole part of a number, which has no idle zeros in front. -/
def whole? : Reader (List Char)
  | .char '0' :: rest => some (['0'], rest)
  | input =>
      match cutWhile Char.isDigit input with
      | ([], _) => none
      | cut => some cut

/-- A number after its sign. Whole numbers may be too long to be read. -/
def number? (negative : Bool) : Reader Json := fun input => do
  let (digits, rest) ← whole? input
  let (fraction, rest) := fraction rest
  let (exponent, rest) := exponent rest
  if fraction = [] ∧ exponent = [] then
    let n ← Text.readDecimal? digits
    return (.whole (if negative then -(n : Int) else n), rest)
  else
    let numeral ← Decimal.Numeral.ofUnsigned? negative (digits ++ fraction ++ exponent)
    return (.real numeral.toFloat, rest)

/-- The words of the format and what they mean. -/
def words : List (String × Json) := [
  ("null", .null), ("true", .bool true), ("false", .bool false), ("NaN", .real (0 / 0)),
  ("Infinity", .real (1 / 0)), ("-Infinity", .real (-1 / 0))]

/-- A word, or else a number. -/
def plain? : Reader Json := fun input =>
  let word? := words.findSome? fun (word, value) =>
    ((RawText.ofString word).isPrefixOf? input).map fun rest => (value, rest)
  word?.or (match input with
    | .char '-' :: rest => number? true rest
    | rest => number? false rest)

mutual

/-- A value that is nested at most `fuel` deep and long. -/
def value? : (fuel : Nat) → Reader Json
  | 0, _ => none
  | fuel + 1, input =>
      match input with
      | .char '"' :: rest => (string? rest).map fun (points, rest) => (.text points, rest)
      | .char '[' :: rest =>
          match skipBlanks rest with
          | .char ']' :: rest => some (.list [], rest)
          | rest => (items? fuel rest).map fun (items, rest) => (.list items, rest)
      | .char '\x7b' :: rest =>
          match skipBlanks rest with
          | .char '\x7d' :: rest => some (.object [], rest)
          | rest => (fields? fuel rest).map fun (fields, rest) => (.object fields, rest)
      | input => plain? input

/-- The items of a list up to its end. -/
def items? : (fuel : Nat) → Reader (List Json)
  | 0, _ => none
  | fuel + 1, input => do
      let (item, rest) ← value? fuel input
      match skipBlanks rest with
      | .char ']' :: rest => return ([item], rest)
      | .char ',' :: rest =>
          let (items, rest) ← items? fuel (skipBlanks rest)
          return (item :: items, rest)
      | _ => none

/-- The fields of an object up to its end. -/
def fields? : (fuel : Nat) → Reader (List (RawText × Json))
  | 0, _ => none
  | fuel + 1, input => do
      let .char '"' :: rest := input | none
      let (name, rest) ← string? rest
      let .char ':' :: rest := skipBlanks rest | none
      let (value, rest) ← value? fuel (skipBlanks rest)
      match skipBlanks rest with
      | .char '\x7d' :: rest => return ([(name, value)], rest)
      | .char ',' :: rest =>
          let (fields, rest) ← fields? fuel (skipBlanks rest)
          return ((name, value) :: fields, rest)
      | _ => none

end

/-- The value that a whole text writes. -/
def ofSource? (source : RawText) : Option Json := do
  let input := skipBlanks source
  let (value, rest) ← value? (2 * input.length + 1) input
  if skipBlanks rest = [] then return value else none

end Json

end ArtifactSigning
