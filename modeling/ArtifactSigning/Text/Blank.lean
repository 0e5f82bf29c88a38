/-!
# Blank characters

Blanks are the characters of Unicode's white space together with the four information separators.
`strip` removes them from both ends of a text and `words` cuts a text at its runs of blanks.
`isAsciiBlank` is the narrower class that byte-oriented formats skip.
-/
namespace ArtifactSigning.Text

/-- Space, the line and page controls, the separators U+001C to U+001F, next line, the no-break
space and the wide and narrow spaces of the general punctuation block. -/
def isBlank (c : Char) : Bool :=
  let n := c.toNat
  (0x09 ≤ n && n ≤ 0x0D) || (0x1C ≤ n && n ≤ 0x20) || n == 0x85 || n == 0xA0 || n == 0x1680 ||
    (0x2000 ≤ n && n ≤ 0x200A) || n == 0x2028 || n == 0x2029 || n == 0x202F || n == 0x205F ||
    n == 0x3000

/-- Space, tabulators, line feed, form feed and carriage return. -/
def isAsciiBlank (c : Char) : Bool :=
  c == ' ' || (0x09 ≤ c.toNat && c.toNat ≤ 0x0D)

/-- The narrower class is part of the wider one. -/
theorem isBlank_of_isAsciiBlank {c : Char} (h : isAsciiBlank c = true) : isBlank c = true := by
  simp only [isAsciiBlank, Bool.or_eq_true, beq_iff_eq, Bool.and_eq_true, decide_eq_true_eq] at h
  rcases h with rfl | hrange
  · decide
  · simp [isBlank, hrange]

/-- The text without its longest tail of characters satisfying `p`. -/
def trimEnd (p : Char → Bool) (text : List Char) : List Char :=
  (text.reverse.dropWhile p).reverse

/-- The text without the blanks at its two ends. -/
def strip (text : List Char) : List Char :=
  trimEnd isBlank (text.dropWhile isBlank)

/-- The maximal runs of characters that are not blank, in order. -/
def words (text : List Char) : List (List Char) :=
  match _h : text.dropWhile isBlank with
  | [] => []
  | c :: rest =>
      (c :: rest.takeWhile (!isBlank ·)) :: words (rest.dropWhile (!isBlank ·))
termination_by text.length
decreasing_by
  have h₁ := (List.dropWhile_suffix isBlank (l := text)).length_le
  have h₂ := (List.dropWhile_suffix (!isBlank ·) (l := rest)).length_le
  rw [_h] at h₁
  simp only [List.length_cons] at h₁
  omega

/-- The text without any of its blanks. -/
def withoutBlanks (text : List Char) : List Char := text.filter (!isBlank ·)

end ArtifactSigning.Text
