/-!
# Lines of a text

A line ends at a line feed, a carriage return (together with a line feed right after it), a
vertical tabulator, a form feed, one of the separators U+001C to U+001E, the next-line control, or
the line and paragraph separators. An empty piece after the last break is no line.
-/
namespace ArtifactSigning.Text

/-- The characters that end a line. -/
def isLineBreak (c : Char) : Bool :=
  let n := c.toNat
  (0x0A ≤ n && n ≤ 0x0D) || (0x1C ≤ n && n ≤ 0x1E) || n == 0x85 || n == 0x2028 || n == 0x2029

/-- What follows a line break; a line feed belongs to a carriage return before it. -/
def afterBreak (c : Char) (rest : List Char) : List Char :=
  if c = '\r' then
    match rest with
    | '\n' :: rest => rest
    | rest => rest
  else rest

theorem length_afterBreak_le (c : Char) (rest : List Char) :
    (afterBreak c rest).length ≤ rest.length := by
  unfold afterBreak
  split
  · split <;> simp
  · exact Nat.le_refl _

/-- The lines of a text without their breaks. -/
def splitLines (text : List Char) : List (List Char) :=
  match text with
  | [] => []
  | c :: rest =>
      (c :: rest).takeWhile (!isLineBreak ·) ::
        match _h : (c :: rest).dropWhile (!isLineBreak ·) with
        | [] => []
        | b :: after => splitLines (afterBreak b after)
termination_by text.length
decreasing_by
  have h₁ := (List.dropWhile_suffix (!isLineBreak ·) (l := c :: rest)).length_le
  have h₂ := length_afterBreak_le b after
  rw [_h] at h₁
  simp only [List.length_cons] at h₁ ⊢
  omega

end ArtifactSigning.Text
