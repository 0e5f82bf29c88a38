/-!
# Plain texts

A control sequence styles what a terminal shows: the escape character and an opening bracket, then
parameters made of digits, semicolons and question marks, and a letter. `plain` leaves out the
control sequences of a text; what comes together at such a place is not looked at again.
-/
namespace ArtifactSigning.Text

/-- The characters of parameters. -/
def isParameterChar (c : Char) : Bool := c.isDigit || c = ';' || c = '?'

/-- What follows the control sequence at the front of a text, if there is one. -/
def afterControl? : List Char → Option (List Char)
  | '\x1b' :: '[' :: rest =>
      match rest.dropWhile isParameterChar with
      | c :: after => if c.isAlpha then some after else none
      | [] => none
  | _ => none

theorem length_of_afterControl? {text after : List Char} (h : afterControl? text = some after) :
    after.length < text.length := by
  unfold afterControl? at h
  split at h
  · rename_i rest
    split at h
    · rename_i c tail hdrop
      have := (List.dropWhile_suffix isParameterChar (l := rest)).length_le
      split at h
      · simp only [Option.some.injEq] at h
        rw [hdrop, h] at this
        simp only [List.length_cons] at this ⊢
        omega
      · simp at h
    · simp at h
  · simp at h

/-- A text without its control sequences. -/
def plain (text : List Char) : List Char :=
  match text with
  | [] => []
  | c :: rest =>
      match _h : afterControl? (c :: rest) with
      | some after => plain after
      | none => c :: plain rest
termination_by text.length
decreasing_by
  · exact length_of_afterControl? _h
  · simp

/-- A text for people. -/
def plainText (text : String) : String := String.ofList (plain text.toList)

end ArtifactSigning.Text
