import ArtifactSigning.Proofs.Text.Spacing

/-!
# The lines of a stripped text

Line breaks are blanks, so without the blanks around it a text loses its first and its last lines as
far as they are blank, and the blanks at the outer ends of the two lines where it begins and ends
then (`exists_first_line`, `exists_last_line`). Its last line is then the last one of the text that
is not blank, without the blanks at its end; those at its front stay where another such line comes
before it (`exists_last_line_strip`).
-/
namespace ArtifactSigning.Text

/-- A text of nothing but blanks. -/
def IsBlankText (text : List Char) : Prop := ∀ c ∈ text, isBlank c = true

instance (text : List Char) : Decidable (IsBlankText text) :=
  inferInstanceAs (Decidable (∀ c ∈ text, isBlank c = true))

variable {text line front back rest written spelled : List Char}

section Blanks

/-- The characters that end a line are blanks. -/
theorem isBlank_of_isLineBreak {c : Char} (h : isLineBreak c = true) : isBlank c = true := by
  simp only [isLineBreak, isBlank, Bool.or_eq_true, Bool.and_eq_true, decide_eq_true_eq,
    beq_iff_eq] at h ⊢
  omega

theorem BreakForm.isBlankText (h : BreakForm written spelled rest) : IsBlankText written := by
  intro c hc
  cases h with
  | char hbreak => exact isBlank_of_isLineBreak (List.mem_singleton.1 hc ▸ hbreak)
  | pair =>
      apply isBlank_of_isLineBreak
      rcases List.mem_cons.1 hc with rfl | hc
      · decide
      · rw [List.mem_singleton.1 hc]
        decide
  | newline => exact isBlank_of_isLineBreak (List.mem_singleton.1 hc ▸ by decide)

theorem isBlankText_append : IsBlankText (front ++ back) ↔ IsBlankText front ∧ IsBlankText back :=
  List.forall_mem_append

theorem dropWhile_isBlank_ne_nil (h : ¬IsBlankText text) : text.dropWhile isBlank ≠ [] :=
  fun hnil => h (List.dropWhile_eq_nil_iff.1 hnil)

theorem dropWhile_isBlank_append (h : ¬IsBlankText front) :
    (front ++ back).dropWhile isBlank = front.dropWhile isBlank ++ back := by
  rw [List.dropWhile_append, if_neg]
  simpa using dropWhile_isBlank_ne_nil h

/-- The characters that are no blanks stay where blanks are removed at the front. -/
theorem not_isBlankText_dropWhile (h : ¬IsBlankText text) :
    ¬IsBlankText (text.dropWhile isBlank) := by
  intro hblank
  refine h fun c hc => ?_
  by_contra hc'
  exact hc' (hblank c (mem_dropWhile hc (Bool.eq_false_iff.2 hc')))

theorem isBlankText_reverse : IsBlankText text.reverse ↔ IsBlankText text := by
  simp [IsBlankText]

theorem trimEnd_isBlank_ne_nil (h : ¬IsBlankText text) : trimEnd isBlank text ≠ [] := by
  rw [trimEnd, ne_eq, List.reverse_eq_nil_iff]
  exact dropWhile_isBlank_ne_nil (mt isBlankText_reverse.1 h)

theorem trimEnd_isBlank_append (h : ¬IsBlankText back) :
    trimEnd isBlank (front ++ back) = front ++ trimEnd isBlank back := by
  rw [trimEnd, List.reverse_append, dropWhile_isBlank_append (mt isBlankText_reverse.1 h),
    List.reverse_append, List.reverse_reverse]
  rfl

/-- The lines of a text have no other characters than the text. -/
theorem mem_of_mem_splitLines {c : Char} (hline : line ∈ splitLines text) (hc : c ∈ line) :
    c ∈ text := by
  induction text using line_induction with
  | nil =>
      rw [splitLines] at hline
      cases hline
  | last whole hne hwhole =>
      rw [splitLines_eq_singleton hne hwhole, List.mem_singleton] at hline
      exact hline ▸ hc
  | line first written rest hfirst hbreak ih =>
      rw [splitLines_append_form hfirst hbreak, List.mem_cons] at hline
      rcases hline with rfl | hline
      · exact List.mem_append_left _ hc
      · exact List.mem_append_right _ (List.mem_append_right _ (ih hline))

theorem IsBlankText.splitLines (h : IsBlankText text) (hline : line ∈ splitLines text) :
    IsBlankText line := fun c hc => h c (mem_of_mem_splitLines hline hc)

end Blanks

variable {earlier later : List (List Char)}

/-- The last line of a text that is not blank, between the lines before it and those behind it. -/
structure IsLastLine (text : List Char) (earlier : List (List Char)) (line : List Char)
    (later : List (List Char)) : Prop where
  lines_eq : splitLines text = earlier ++ line :: later
  not_blank : ¬IsBlankText line
  blank_behind : ∀ other ∈ later, IsBlankText other

/-- The first line of a text that is not blank, between the lines before it and those behind it. -/
structure IsFirstLine (text : List Char) (earlier : List (List Char)) (line : List Char)
    (later : List (List Char)) : Prop where
  lines_eq : splitLines text = earlier ++ line :: later
  not_blank : ¬IsBlankText line
  blank_before : ∀ other ∈ earlier, IsBlankText other

/-- A line without breaks stays one when the blanks at its end are removed. -/
theorem splitLines_trimEnd_line (hline : ∀ c ∈ line, isLineBreak c = false)
    (h : ¬IsBlankText line) : splitLines (trimEnd isBlank line) = [trimEnd isBlank line] :=
  splitLines_eq_singleton (trimEnd_isBlank_ne_nil h) fun c hc =>
    hline c ((trimEnd_isPrefix isBlank line).subset hc)

/-- Without the blanks at its end a text ends with its last line that is not blank. -/
theorem exists_last_line (h : ¬IsBlankText text) : ∃ earlier line later,
    IsLastLine text earlier line later ∧
      splitLines (trimEnd isBlank text) = earlier ++ [trimEnd isBlank line] := by
  induction text using line_induction with
  | nil => exact absurd (by simp [IsBlankText]) h
  | last line hne hline =>
      exact ⟨[], line, [], ⟨splitLines_eq_singleton hne hline, h, by simp⟩,
        splitLines_trimEnd_line hline h⟩
  | line line written rest hline hbreak ih =>
      have hlines := splitLines_append_form hline hbreak
      by_cases hrest : IsBlankText rest
      · -- All that follows the line is removed.
        have hback : IsBlankText (written ++ rest) :=
          isBlankText_append.2 ⟨hbreak.isBlankText, hrest⟩
        have hnot : ¬IsBlankText line := fun hblank => h (isBlankText_append.2 ⟨hblank, hback⟩)
        refine ⟨[], line, splitLines rest, ⟨hlines, hnot, fun _ => hrest.splitLines⟩, ?_⟩
        rw [trimEnd_append hback]
        exact splitLines_trimEnd_line hline hnot
      · obtain ⟨earlier, last, later, hlast, htrimmed⟩ := ih hrest
        have hform : BreakForm written written (trimEnd isBlank rest) := by
          refine hbreak.spelled_form fun hhead => ?_
          obtain ⟨removed, hremoved⟩ := trimEnd_isPrefix isBlank rest
          rw [← hremoved, List.head?_append, hhead]
          rfl
        refine ⟨line :: earlier, last, later, ⟨?_, hlast.not_blank, hlast.blank_behind⟩, ?_⟩
        · rw [hlines, hlast.lines_eq, List.cons_append]
        · rw [trimEnd_isBlank_append (fun hblank => hrest (isBlankText_append.1 hblank).2),
            trimEnd_isBlank_append hrest, splitLines_append_form hline hform, htrimmed,
            List.cons_append]

/-- Without the blanks at its front a text begins with its first line that is not blank. -/
theorem exists_first_line (h : ¬IsBlankText text) : ∃ earlier line later,
    IsFirstLine text earlier line later ∧
      splitLines (text.dropWhile isBlank) = line.dropWhile isBlank :: later := by
  induction text using line_induction with
  | nil => exact absurd (by simp [IsBlankText]) h
  | last line hne hline =>
      refine ⟨[], line, [], ⟨splitLines_eq_singleton hne hline, h, by simp⟩, ?_⟩
      refine splitLines_eq_singleton (dropWhile_isBlank_ne_nil h) fun c hc => ?_
      exact hline c ((List.dropWhile_suffix isBlank).subset hc)
  | line line written rest hline hbreak ih =>
      have hlines := splitLines_append_form hline hbreak
      by_cases hblank : IsBlankText line
      · -- The whole line is removed with its break.
        have hfront : IsBlankText (line ++ written) :=
          isBlankText_append.2 ⟨hblank, hbreak.isBlankText⟩
        have hrest : ¬IsBlankText rest := fun hrest => by
          rw [← List.append_assoc] at h
          exact h (isBlankText_append.2 ⟨hfront, hrest⟩)
        obtain ⟨earlier, first, later, hfirst, hdropped⟩ := ih hrest
        refine ⟨line :: earlier, first, later, ⟨?_, hfirst.not_blank, ?_⟩, ?_⟩
        · rw [hlines, hfirst.lines_eq, List.cons_append]
        · exact List.forall_mem_cons.2 ⟨hblank, hfirst.blank_before⟩
        · rw [← List.append_assoc, List.dropWhile_append_of_pos hfront, hdropped]
      · refine ⟨[], line, splitLines rest, ⟨hlines, hblank, by simp⟩, ?_⟩
        rw [dropWhile_isBlank_append hblank]
        refine splitLines_append_form (fun c hc => ?_) hbreak
        exact hline c ((List.dropWhile_suffix isBlank).subset hc)

/-- What is left of the last line of a text that is not blank when the blanks around the text are
removed: those at its front stay behind a line that is not blank. -/
def lastLineStripped (earlier : List (List Char)) (line : List Char) : List Char :=
  if ∀ other ∈ earlier, IsBlankText other then strip line else trimEnd isBlank line

theorem exists_last_line_strip (h : ¬IsBlankText text) : ∃ earlier line later,
    IsLastLine text earlier line later ∧
      (splitLines (strip text)).getLast? = some (lastLineStripped earlier line) := by
  obtain ⟨before, first, others, hfirst, hdropped⟩ := exists_first_line h
  obtain ⟨earlier, line, later, hlast, htrimmed⟩ :=
    exists_last_line (not_isBlankText_dropWhile h)
  have hlines := hdropped.symm.trans hlast.lines_eq
  rw [strip, htrimmed, List.getLast?_concat]
  rcases List.cons_eq_append_iff.1 hlines with ⟨rfl, hline⟩ | ⟨between, rfl, hothers⟩
  · -- The first line that is not blank is also the last one.
    obtain ⟨rfl, rfl⟩ := List.cons.inj hline
    refine ⟨before, first, later, ⟨hfirst.lines_eq, hfirst.not_blank, hlast.blank_behind⟩, ?_⟩
    rw [lastLineStripped, if_pos hfirst.blank_before]
    rfl
  · refine ⟨before ++ first :: between, line, later,
      ⟨?_, hlast.not_blank, hlast.blank_behind⟩, ?_⟩
    · rw [hfirst.lines_eq, hothers, List.append_assoc, List.cons_append]
    · rw [lastLineStripped, if_neg]
      exact fun hblank => hfirst.not_blank (hblank first (by simp))

theorem strip_of_isBlankText (h : IsBlankText text) : strip text = [] := by
  rw [strip, List.dropWhile_eq_nil_iff.2 h]
  rfl

end ArtifactSigning.Text
