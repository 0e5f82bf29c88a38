/-!
# Separated pieces

`separated` cuts a text at every occurrence of a mark. There is always one piece more than there are
marks, so that empty pieces count.
-/
namespace ArtifactSigning.Text

/-- The pieces of a text between marks. -/
def separated (mark : Char) (text : List Char) : List (List Char) :=
  match _h : text.dropWhile (· ≠ mark) with
  | [] => [text]
  | _ :: rest => text.takeWhile (· ≠ mark) :: separated mark rest
termination_by text.length
decreasing_by
  have := (List.dropWhile_suffix (· ≠ mark) (l := text)).length_le
  rw [_h] at this
  simp only [List.length_cons] at this
  omega

end ArtifactSigning.Text
