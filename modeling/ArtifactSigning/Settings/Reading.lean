import ArtifactSigning.Failure
import ArtifactSigning.File.Path
import ArtifactSigning.Text.Blank
import ArtifactSigning.Text.Json

/-!
# Reading the values of settings

A setting is read from a value of any kind, which may be of the wrong one. `Checked` collects the
problems of all settings instead of stopping at the first. Texts are taken for switches and numbers
where they spell them.
-/
namespace ArtifactSigning

/-- A value, or the problems that keep it from being one. -/
inductive Checked (α : Type) where
  | valid (a : α)
  | invalid (problems : List SettingProblem)

namespace Checked

def map (f : α → β) : Checked α → Checked β
  | .valid a => .valid (f a)
  | .invalid problems => .invalid problems

/-- Applies a function to a value; the problems of both are collected. -/
def seq : Checked (α → β) → Checked α → Checked β
  | .valid f, .valid a => .valid (f a)
  | .valid _, .invalid problems => .invalid problems
  | .invalid problems, .valid _ => .invalid problems
  | .invalid problems, .invalid more => .invalid (problems ++ more)

instance : Applicative Checked where
  pure := .valid
  map := map
  seq f a := f.seq (a ())

/-- A value that breaks a rule. -/
def broken (rule : SettingRule) : Checked α := .invalid [⟨[], rule⟩]

/-- Problems are found below a name. -/
def below (name : String) : Checked α → Checked α
  | .valid a => .valid a
  | .invalid problems =>
      .invalid (problems.map fun problem => { problem with path := name :: problem.path })

/-- All values of a list, with the problems of each below its position. -/
def all (values : List (Checked α)) : Checked (List α) :=
  values.zipIdx.foldr
    (fun (value, position) rest =>
      ((value.below (toString position)).map List.cons).seq rest)
    (.valid [])

end Checked

namespace Setting

def readText : Json → Checked String
  | .text content =>
      match content.text? with
      | some text => .valid text
      | none => .broken .characters
  | _ => .broken .text

def readTexts : Json → Checked (List String)
  | .list items => .all (items.map readText)
  | _ => .broken .list

/-- A path is written as a text. -/
def readPath : Json → Checked Path
  | .text content =>
      match content.text? with
      | some text => .valid (.ofText text)
      | none => .broken .path
  | _ => .broken .path

/-- The switch that a word sets; case does not matter. -/
def switchOf? (word : String) : Option Bool :=
  let word := String.ofList (word.toList.map Char.toLower)
  if ["1", "on", "t", "true", "y", "yes"].contains word then some true
  else if ["0", "off", "f", "false", "n", "no"].contains word then some false
  else none

/-- The switch that a number sets. -/
def switchOfNumber (n : Int) : Checked Bool :=
  if n = 0 then .valid false else if n = 1 then .valid true else .broken .switchWord

/-- From this magnitude on a number is not taken for a switch at all; the least number of 64 bits
with sign, which has this magnitude, is still read where it is written without a point. -/
def switchBound : Int := Int.ofNat (2 ^ 63)

def readSwitch : Json → Checked Bool
  | .bool b => .valid b
  | .text content =>
      match content.text?.bind switchOf? with
      | some b => .valid b
      | none => .broken .switchWord
  | .whole n =>
      if -switchBound ≤ n ∧ n < switchBound then switchOfNumber n else .broken .switch
  | .real x =>
      match Decimal.exactValue? x with
      | some value =>
          if value.den = 1 ∧ -switchBound < value.num ∧ value.num < switchBound then
            switchOfNumber value.num
          else .broken .switch
      | none => .broken .switch
  | _ => .broken .switch

/-- The blanks that may surround a number. -/
def isOuterBlank (c : Char) : Bool := Text.isBlank c && !(0x1C ≤ c.toNat && c.toNat ≤ 0x1F)

/-- A text without single underscores between its characters; nothing if there are none, or other
ones. -/
def withoutUnderscores? (text : List Char) : Option (List Char) :=
  let neighbours := text.zip text.tail
  if text.head? = some '_' ∨ text.getLast? = some '_' ∨ neighbours.contains ('_', '_') ∨
      !text.contains '_' then none
  else some (text.filter (· ≠ '_'))

/-- The number that a text spells, where underscores may group its digits. -/
def numberOf? (text : List Char) : Option Float :=
  let trimmed := Text.trimEnd isOuterBlank (text.dropWhile isOuterBlank)
  (Decimal.ofText? trimmed).or ((withoutUnderscores? text).bind Decimal.ofText?)

def readNumber : Json → Checked Float
  | .bool b => .valid (if b then 1 else 0)
  | .whole n =>
      let x := Decimal.Numeral.toFloat ⟨n < 0, n.natAbs, 0⟩
      if x.isInf then .broken .number else .valid x
  | .real x => .valid x
  | .text content =>
      match content.text?.bind fun text => numberOf? text.toList with
      | some x => .valid x
      | none => .broken .numeral
  | _ => .broken .number

/-- A waiting limit, which lies above zero. -/
def readLimit (value : Json) : Checked Time.Seconds :=
  match readNumber value with
  | .valid x => if 0 < x then .valid (.real x) else .broken .positive
  | .invalid problems => .invalid problems

/-- A value that may be missing. -/
def readOptional (read : Json → Checked α) : Json → Checked (Option α)
  | .null => .valid none
  | value => (read value).map some

end Setting

end ArtifactSigning
