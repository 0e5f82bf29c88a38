import ArtifactSigning.Failure
import ArtifactSigning.Text.Digit
import ArtifactSigning.Text.Lines

/-!
# Versions of the signing tool

A version is a sequence of numbers, compared number by number; a version that continues another is
the greater one. `Version.ofText` takes the first dotted number of a text and `Version.ofOutput` the
one on the banner line of the tool's output.
-/
namespace ArtifactSigning

structure Version where
  segments : List Int
  deriving DecidableEq, Repr

namespace Version

/-- The order of two versions. -/
def compare (a b : Version) : Ordering :=
  go a.segments b.segments
where
  go : List Int → List Int → Ordering
    | [], [] => .eq
    | [], _ :: _ => .lt
    | _ :: _, [] => .gt
    | x :: xs, y :: ys => if x < y then .lt else if y < x then .gt else go xs ys

/-- Whether a version is older than another. -/
def isBefore (a b : Version) : Bool := a.compare b = .lt

def isAtLeast (a b : Version) : Bool := a.compare b ≠ .lt

/-- Whether two versions are the same one. -/
def isSame (a b : Version) : Bool := a.compare b = .eq

/-- Whether a version is older than another or the same one. -/
def isAtMost (a b : Version) : Bool := a.isBefore b || a.isSame b

/-- Whether a version is neither older than another nor the same one. -/
def isAfter (a b : Version) : Bool := !a.isBefore b && !a.isSame b

/-- Whether a version is not older than another. -/
def isNotBefore (a b : Version) : Bool := !a.isBefore b

/-- The prime 2⁶¹ - 1, modulo which numbers are hashed. -/
def hashModulus : Nat := 2 ^ 61 - 1

/-- The hash of a number: its residue with its sign, where minus one is reserved. -/
def hashOf (n : Int) : Int :=
  let residue := n.tmod hashModulus
  if residue = -1 then -2 else residue

/-- What the hash of a version is made of. -/
def hashKey (v : Version) : List Int := v.segments.map hashOf

/-- The numbers with dots between them. -/
def text (v : Version) : String := String.intercalate "." (v.segments.map toString)

/-- The text of a version as a value. -/
def valueText (v : Version) : String := "GpgVersion('" ++ v.text ++ "')"

/-- Versions in ascending order. -/
def sort (versions : List Version) : List Version :=
  versions.mergeSort fun a b => !b.isBefore a

/-- The runs of digits at the front of a text, as long as dots join them. -/
def runs (text : List Char) : List (List Char) :=
  match _h : text.dropWhile Text.isDecimal with
  | '.' :: c :: rest =>
      text.takeWhile Text.isDecimal ::
        if Text.isDecimal c then runs (c :: rest) else []
  | _ => [text.takeWhile Text.isDecimal]
termination_by text.length
decreasing_by
  have := (List.dropWhile_suffix Text.isDecimal (l := text)).length_le
  rw [_h] at this
  simp only [List.length_cons] at this ⊢
  omega

/-- The runs of the first dotted number in a text, which has at least two. -/
def firstRuns? (text : List Char) : Option (List (List Char)) :=
  match text with
  | [] => none
  | c :: rest =>
      if Text.isDecimal c then
        match runs (c :: rest) with
        | first :: second :: others => some (first :: second :: others)
        | _ => firstRuns? (rest.dropWhile Text.isDecimal)
      else firstRuns? rest
termination_by text.length
decreasing_by
  · have := (List.dropWhile_suffix Text.isDecimal (l := rest)).length_le
    simp only [List.length_cons]
    omega
  · simp

/-- The version that the first dotted number of a text spells. A run of digits may be too long to be
read. -/
def ofText (text : List Char) : Except Failure Version :=
  match firstRuns? text with
  | none => .error (.version (.noNumber (String.ofList text)))
  | some runs =>
      match runs.mapM Text.readDecimal? with
      | some segments => .ok ⟨segments.map Int.ofNat⟩
      | none => .error .invalidValue

/-- Whether a line without its outer blanks is a banner: the name of the tool, a name in
parentheses, and something after it. -/
def isBanner (line : List Char) : Bool :=
  let rest? := [" (".toList, "2 (".toList].findSome? fun mark =>
    ("gpg".toList ++ mark).isPrefixOf? line
  match rest? with
  | none => false
  | some rest =>
      !(rest.takeWhile (· ≠ ')')).isEmpty &&
        match rest.dropWhile (· ≠ ')') with
        | ')' :: ' ' :: _ :: _ => true
        | _ => false

/-- The version on the first banner line of an output. -/
def ofOutput (output : List Char) : Except Failure (Option Version) :=
  match (Text.splitLines output).find? fun line => isBanner (Text.strip line) with
  | none => .ok none
  | some line => (ofText line).map some

end Version

end ArtifactSigning
