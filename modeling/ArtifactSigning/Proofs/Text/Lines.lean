import ArtifactSigning.Text.Blank
import ArtifactSigning.Text.Lines
import Mathlib.Data.List.TakeWhile

/-!
# Lines that are written and read again

Lines without line breaks of their own, each ended by a line feed, are the lines of the written
text. A line that neither begins nor ends with a blank is kept as it is when blanks are removed, and
of the beginning of a line a beginning is left.
-/
namespace ArtifactSigning.Text

variable {line rest : List Char} {lines : List (List Char)}

theorem splitLines_eq {text : List Char} (h : text ≠ []) :
    splitLines text = text.takeWhile (!isLineBreak ·) ::
      match text.dropWhile (!isLineBreak ·) with
      | [] => []
      | b :: after => splitLines (afterBreak b after) := by
  cases text with
  | nil => exact absurd rfl h
  | cons c rest =>
      rw [splitLines]
      congr 1
      split <;> rename_i heq <;> rw [heq]

/-- The line in front of a line break. -/
theorem splitLines_append_cons {b : Char} (h : ∀ c ∈ line, isLineBreak c = false)
    (hb : isLineBreak b = true) :
    splitLines (line ++ b :: rest) = line :: splitLines (afterBreak b rest) := by
  have hline : ∀ c ∈ line, (!isLineBreak c) = true := fun c hc => by rw [h c hc]; rfl
  have hbreak : (!isLineBreak b) = false := by rw [hb]; rfl
  rw [splitLines_eq (by simp), List.takeWhile_append_of_pos hline,
    List.dropWhile_append_of_pos hline, List.takeWhile_cons, List.dropWhile_cons, hbreak]
  simp

theorem splitLines_append_break (h : ∀ c ∈ line, isLineBreak c = false) :
    splitLines (line ++ '\n' :: rest) = line :: splitLines rest := by
  rw [splitLines_append_cons h (by decide)]
  rfl

/-- A carriage return alone is a whole break. -/
theorem afterBreak_eq_self {b : Char} (h : b = '\r' → rest.head? ≠ some '\n') :
    afterBreak b rest = rest := by
  unfold afterBreak
  split
  · rename_i hreturn
    split
    · exact absurd rfl (h hreturn)
    · rfl
  · rfl

/-- Written lines are read as these lines. -/
theorem splitLines_lines (h : ∀ line ∈ lines, ∀ c ∈ line, isLineBreak c = false) :
    splitLines (lines.flatMap (· ++ ['\n']) ++ rest) = lines ++ splitLines rest := by
  induction lines with
  | nil => rfl
  | cons line lines ih =>
      have hline := h line List.mem_cons_self
      have hlines : ∀ other ∈ lines, ∀ c ∈ other, isLineBreak c = false :=
        fun other hother => h other (.tail _ hother)
      rw [List.flatMap_cons, List.append_assoc, List.append_assoc, List.singleton_append,
        splitLines_append_break hline, ih hlines, List.cons_append]

/-- Nothing is removed from a line between two characters that are no blanks. -/
theorem strip_eq_self (hfirst : ∀ c, line.head? = some c → isBlank c = false)
    (hlast : ∀ c, line.getLast? = some c → isBlank c = false) : strip line = line := by
  have hfront : line.dropWhile isBlank = line := by
    cases line with
    | nil => rfl
    | cons c rest => rw [List.dropWhile_cons_of_neg (by simp [hfirst c rfl])]
  have hback : line.reverse.dropWhile isBlank = line.reverse := by
    rw [← List.head?_reverse] at hlast
    cases hreverse : line.reverse with
    | nil => rfl
    | cons c rest => rw [List.dropWhile_cons_of_neg (by simp [hlast c (by rw [hreverse]; rfl)])]
  rw [strip, hfront, trimEnd, hback, List.reverse_reverse]

section Trimming

variable {p : Char → Bool} {text more : List Char} {c : Char}

theorem trimEnd_isPrefix (p : Char → Bool) (text : List Char) : trimEnd p text <+: text := by
  rw [trimEnd, ← List.reverse_suffix, List.reverse_reverse]
  exact List.dropWhile_suffix p

/-- A character that is not removed stays in the text. -/
theorem mem_dropWhile (hc : c ∈ text) (h : p c = false) : c ∈ text.dropWhile p := by
  rw [← List.takeWhile_append_dropWhile (p := p) (l := text), List.mem_append] at hc
  refine hc.resolve_left fun hfront => ?_
  rw [List.mem_takeWhile_imp hfront] at h
  cases h

theorem mem_trimEnd (hc : c ∈ text) (h : p c = false) : c ∈ trimEnd p text :=
  List.mem_reverse.2 (mem_dropWhile (List.mem_reverse.2 hc) h)

theorem mem_strip (hc : c ∈ text) (h : isBlank c = false) : c ∈ strip text :=
  mem_trimEnd (mem_dropWhile hc h) h

/-- Nothing is removed behind a character that stays, nor in front of it at the other end. -/
theorem dropWhile_append_cons (text more : List Char) (h : p c = false) :
    (text ++ c :: more).dropWhile p = text.dropWhile p ++ c :: more := by
  rw [List.dropWhile_append]
  split
  · rename_i hnil
    rw [List.dropWhile_cons_of_neg (by simp [h]), List.isEmpty_iff.1 hnil, List.nil_append]
  · rfl

theorem trimEnd_append_cons (text more : List Char) (h : p c = false) :
    trimEnd p (text ++ c :: more) = text ++ c :: trimEnd p more := by
  rw [trimEnd, List.reverse_append, List.reverse_cons, List.append_assoc, List.singleton_append,
    dropWhile_append_cons _ _ h, List.reverse_append, List.reverse_cons, List.reverse_reverse,
    List.append_assoc, List.singleton_append]
  rfl

theorem strip_append_cons (text more : List Char) (h : isBlank c = false) :
    strip (text ++ c :: more) = text.dropWhile isBlank ++ c :: trimEnd isBlank more := by
  rw [strip, dropWhile_append_cons _ _ h, trimEnd_append_cons _ _ h]

theorem dropWhile_isPrefix_dropWhile (h : text <+: more) :
    text.dropWhile p <+: more.dropWhile p := by
  obtain ⟨rest, rfl⟩ := h
  rw [List.dropWhile_append]
  split
  · rename_i hnil
    rw [List.isEmpty_iff.1 hnil]
    exact List.nil_prefix
  · exact List.prefix_append _ _

theorem trimEnd_isPrefix_trimEnd (h : text <+: more) : trimEnd p text <+: trimEnd p more := by
  obtain ⟨rest, rfl⟩ := h
  rw [trimEnd.eq_def p (text ++ rest), List.reverse_append, List.dropWhile_append]
  split
  · exact List.prefix_rfl
  · rw [List.reverse_append, List.reverse_reverse]
    exact (trimEnd_isPrefix p text).trans (List.prefix_append _ _)

theorem strip_isPrefix_strip (h : text <+: more) : strip text <+: strip more :=
  trimEnd_isPrefix_trimEnd (dropWhile_isPrefix_dropWhile h)

end Trimming

end ArtifactSigning.Text
