import ArtifactSigning.Proofs.Text.Lines
import Mathlib.Data.List.TakeWhile

/-!
# Ways to write the lines of a text

A text may be passed on with spaces or tabulators added around its lines and with its line feeds
written as pairs of a carriage return and a line feed. Its lines without the blanks around them are
the same for all these ways (`strippedLines_of_respelled`). Texts that end with their last line can
be put one after the other, line for line (`strippedLines_append`).
-/
namespace ArtifactSigning.Text

/-- The lines of a text without the blanks around them. -/
def strippedLines (text : List Char) : List (List Char) := (splitLines text).map strip

/-- Spaces and tabulators. -/
def IsSpacing (text : List Char) : Prop := ∀ c ∈ text, c = ' ' ∨ c = '\t'

/-- A line break in front of the rest of a text, and the ways to write it. -/
inductive BreakForm : (written spelled rest : List Char) → Prop
  | char {c : Char} {rest : List Char} (h : isLineBreak c = true)
      (hpair : c = '\r' → rest.head? ≠ some '\n') : BreakForm [c] [c] rest
  | pair {rest : List Char} : BreakForm ['\r', '\n'] ['\r', '\n'] rest
  | newline {rest : List Char} : BreakForm ['\n'] ['\r', '\n'] rest

/-- The ways to write a text: with spaces and tabulators at the start or the end of any line, and
with any line feed written as a carriage return and a line feed. -/
inductive Respelled : (text spelled : List Char) → Prop
  | nil : Respelled [] []
  | last {line before after : List Char} (hne : line ≠ [])
      (hline : ∀ c ∈ line, isLineBreak c = false) (hbefore : IsSpacing before)
      (hafter : IsSpacing after) : Respelled line (before ++ line ++ after)
  | line {line before after written spelled rest rest' : List Char}
      (hline : ∀ c ∈ line, isLineBreak c = false) (hbefore : IsSpacing before)
      (hafter : IsSpacing after) (hbreak : BreakForm written spelled rest)
      (h : Respelled rest rest') :
      Respelled (line ++ (written ++ rest)) (before ++ line ++ after ++ (spelled ++ rest'))

/-- Whether a text is empty or ends with a line break. -/
def EndsLine (text : List Char) : Prop := ∀ c ∈ text.getLast?, isLineBreak c = true

variable {text spelled more line before after written rest rest' : List Char}

theorem IsSpacing.isBlank (h : IsSpacing text) {c : Char} (hc : c ∈ text) : isBlank c = true := by
  rcases h c hc with rfl | rfl <;> decide

theorem IsSpacing.not_isLineBreak (h : IsSpacing text) {c : Char} (hc : c ∈ text) :
    isLineBreak c = false := by
  rcases h c hc with rfl | rfl <;> decide

theorem trimEnd_append {p : Char → Bool} (h : ∀ c ∈ after, p c = true) :
    trimEnd p (text ++ after) = trimEnd p text := by
  have hreverse : ∀ c ∈ after.reverse, p c = true := fun c hc => h c (List.mem_reverse.1 hc)
  rw [trimEnd, trimEnd, List.reverse_append, List.dropWhile_append_of_pos hreverse]

/-- Blanks around a line do not count. -/
theorem strip_append (hbefore : IsSpacing before) (hafter : IsSpacing after) :
    strip (before ++ line ++ after) = strip line := by
  have hblank : ∀ c ∈ after, isBlank c = true := fun c hc => hafter.isBlank hc
  have hfront : (before ++ (line ++ after)).dropWhile isBlank = (line ++ after).dropWhile isBlank :=
    List.dropWhile_append_of_pos fun c hc => hbefore.isBlank hc
  rw [strip, strip, List.append_assoc, hfront]
  by_cases hline : line.dropWhile isBlank = []
  · have hall : after.dropWhile isBlank = [] := List.dropWhile_eq_nil_iff.2 hblank
    rw [List.dropWhile_append, hline, hall]
    rfl
  · rw [List.dropWhile_append, if_neg (by simpa using hline), trimEnd_append hblank]

/-- The line in front of a line break, however it is written. -/
theorem splitLines_append_form (hline : ∀ c ∈ line, isLineBreak c = false)
    (hbreak : BreakForm written spelled rest) :
    splitLines (line ++ (written ++ rest)) = line :: splitLines rest := by
  cases hbreak with
  | char hb hpair => rw [List.singleton_append, splitLines_append_cons hline hb,
      afterBreak_eq_self hpair]
  | pair => rw [List.cons_append, splitLines_append_cons hline (by decide)]; rfl
  | newline => rw [List.singleton_append, splitLines_append_cons hline (by decide)]; rfl

/-- The other way to write a line break is a line break in front of any text that does not begin
with a line feed. -/
theorem BreakForm.spelled_form (h : BreakForm written spelled rest)
    (hhead : rest'.head? = some '\n' → rest.head? = some '\n') :
    BreakForm spelled spelled rest' := by
  cases h with
  | char hb hpair => exact .char hb fun hreturn hnewline => hpair hreturn (hhead hnewline)
  | pair => exact .pair
  | newline => exact .pair

theorem IsSpacing.head?_append_eq_newline (h : IsSpacing before)
    (hhead : (before ++ rest).head? = some '\n') : before = [] := by
  cases before with
  | nil => rfl
  | cons c before =>
      obtain rfl : c = '\n' := Option.some.inj hhead
      rcases h _ List.mem_cons_self with h | h <;> cases h

/-- No spelling puts a line feed in front. -/
theorem Respelled.head?_newline (h : Respelled text spelled) (hhead : spelled.head? = some '\n') :
    text.head? = some '\n' := by
  cases h with
  | nil => exact hhead
  | @last line before after hne hline hbefore hafter =>
      rw [List.append_assoc] at hhead
      obtain rfl := hbefore.head?_append_eq_newline hhead
      cases text with
      | nil => exact absurd rfl hne
      | cons c line => exact hhead
  | @line line before after written spelled rest rest' hline hbefore hafter hbreak h =>
      rw [List.append_assoc, List.append_assoc] at hhead
      obtain rfl := hbefore.head?_append_eq_newline hhead
      rw [List.nil_append] at hhead
      cases line with
      | cons c line => exact hhead
      | nil =>
          rw [List.nil_append] at hhead
          obtain rfl := hafter.head?_append_eq_newline hhead
          cases hbreak with
          | char => exact hhead
          | pair => cases hhead
          | newline => cases hhead

theorem splitLines_eq_singleton (hne : line ≠ []) (hline : ∀ c ∈ line, isLineBreak c = false) :
    splitLines line = [line] := by
  have hkept : ∀ c ∈ line, (!isLineBreak c) = true := fun c hc => by rw [hline c hc]; rfl
  rw [splitLines_eq hne, List.takeWhile_eq_self_iff.2 hkept, List.dropWhile_eq_nil_iff.2 hkept]

/-- However a text is written, its lines are the same but for the blanks around them. -/
theorem strippedLines_of_respelled (h : Respelled text spelled) :
    strippedLines spelled = strippedLines text := by
  have hspelled {line before after : List Char} (hline : ∀ c ∈ line, isLineBreak c = false)
      (hbefore : IsSpacing before) (hafter : IsSpacing after) :
      ∀ c ∈ before ++ line ++ after, isLineBreak c = false := by
    intro c hc
    rw [List.mem_append, List.mem_append] at hc
    rcases hc with (hc | hc) | hc
    · exact hbefore.not_isLineBreak hc
    · exact hline c hc
    · exact hafter.not_isLineBreak hc
  induction h with
  | nil => rfl
  | last hne hline hbefore hafter =>
      rw [strippedLines, strippedLines, splitLines_eq_singleton hne hline,
        splitLines_eq_singleton (by simp [hne]) (hspelled hline hbefore hafter)]
      exact congrArg (fun stripped => [stripped]) (strip_append hbefore hafter)
  | line hline hbefore hafter hbreak h ih =>
      rw [strippedLines, strippedLines, splitLines_append_form hline hbreak,
        splitLines_append_form (hspelled hline hbefore hafter)
          (hbreak.spelled_form h.head?_newline), List.map_cons, List.map_cons,
        strip_append hbefore hafter]
      exact congrArg _ ih

/-- Line by line, what holds of a last line without a break and is passed on from the rest of a text
to a line with its break in front of it holds of every text. -/
@[elab_as_elim]
theorem line_induction {motive : List Char → Prop} (nil : motive [])
    (last : ∀ line, line ≠ [] → (∀ c ∈ line, isLineBreak c = false) → motive line)
    (line : ∀ line written rest, (∀ c ∈ line, isLineBreak c = false) →
      BreakForm written written rest → motive rest → motive (line ++ (written ++ rest)))
    (text : List Char) : motive text := by
  by_cases hempty : text = []
  · rw [hempty]
    exact nil
  have hfront : ∀ c ∈ text.takeWhile (!isLineBreak ·), isLineBreak c = false := by
    intro c hc
    simpa using List.mem_takeWhile_imp hc
  have htext := List.takeWhile_append_dropWhile (p := (!isLineBreak ·)) (l := text)
  cases hback : text.dropWhile (!isLineBreak ·) with
  | nil =>
      rw [hback, List.append_nil] at htext
      rw [← htext] at hempty ⊢
      exact last _ hempty hfront
  | cons b rest =>
      have hb : isLineBreak b = true := by
        have hhead := List.head?_dropWhile_not (!isLineBreak ·) text
        rw [hback] at hhead
        simpa using hhead
      have hlength : rest.length < text.length := by
        rw [← htext, hback]
        simp
        omega
      rw [← htext, hback]
      by_cases hpair : b = '\r' ∧ rest.head? = some '\n'
      · obtain ⟨rfl, hnewline⟩ := hpair
        cases rest with
        | nil => cases hnewline
        | cons c rest =>
            obtain rfl := Option.some.inj hnewline
            exact line _ _ _ hfront .pair (line_induction nil last line rest)
      · refine line _ [b] rest hfront
          (.char hb fun hreturn hnewline => hpair ⟨hreturn, hnewline⟩) ?_
        exact line_induction nil last line rest
termination_by text.length
decreasing_by
  · simp only [List.length_cons] at hlength
    omega
  · exact hlength

/-- Every text is a way to write itself. -/
theorem Respelled.refl (text : List Char) : Respelled text text := by
  have hempty : IsSpacing [] := by simp [IsSpacing]
  induction text using line_induction with
  | nil => exact .nil
  | last line hne hline => simpa using Respelled.last hne hline hempty hempty
  | line line written rest hline hbreak ih =>
      simpa using Respelled.line hline hempty hempty hbreak ih

/-- A space or a tabulator in front of a text belongs to its first line. -/
theorem Respelled.cons {c : Char} (hne : text ≠ []) (hspacing : IsSpacing [c]) :
    Respelled text (c :: text) := by
  have hempty : IsSpacing [] := by simp [IsSpacing]
  induction text using line_induction with
  | nil => exact absurd rfl hne
  | last line hne hline => simpa using Respelled.last hne hline hspacing hempty
  | line line written rest hline hbreak _ =>
      simpa using Respelled.line hline hspacing hempty hbreak (.refl rest)

theorem isLineBreak_or_isSpacing {c : Char} (h : isAsciiBlank c = true) :
    isLineBreak c = true ∨ IsSpacing [c] := by
  simp only [isAsciiBlank, Bool.or_eq_true, beq_iff_eq, Bool.and_eq_true, decide_eq_true_eq] at h
  by_cases htab : c.toNat = 9
  · have hc : c = '\t' := Char.ext (UInt32.toNat_inj.1 htab)
    exact .inr fun d hd => .inr ((List.mem_singleton.1 hd).trans hc)
  rcases h with h | ⟨hlow, hhigh⟩
  · exact .inr fun d hd => .inl ((List.mem_singleton.1 hd).trans h)
  · have hrange : 10 ≤ c.toNat ∧ c.toNat ≤ 13 := by omega
    exact .inl (by simp [isLineBreak, hrange])

theorem strippedLines_cons_break {b : Char} (h : isLineBreak b = true) :
    strippedLines (b :: text) = [] :: strippedLines (afterBreak b text) := by
  have hsplit : splitLines ([] ++ b :: text) = [] :: splitLines (afterBreak b text) :=
    splitLines_append_cons (by simp) h
  rw [strippedLines, ← List.nil_append (b :: text), hsplit]
  rfl

/-- An ASCII blank in front of a text belongs to its first line or to the break after it, or it is a
line of its own. -/
theorem strippedLines_cons_blank {c : Char} (h : isAsciiBlank c = true) (text : List Char) :
    strippedLines (c :: text) = strippedLines text ∨
      strippedLines (c :: text) = [] :: strippedLines text := by
  rcases isLineBreak_or_isSpacing h with hbreak | hspacing
  · rw [strippedLines_cons_break hbreak]
    by_cases hpair : c = '\r' ∧ text.head? = some '\n'
    · obtain ⟨rfl, hnewline⟩ := hpair
      obtain ⟨rest, rfl⟩ := List.head?_eq_some_iff.1 hnewline
      rw [strippedLines_cons_break (by decide)]
      exact .inl rfl
    · rw [afterBreak_eq_self fun hreturn hnewline => hpair ⟨hreturn, hnewline⟩]
      exact .inr rfl
  · by_cases hempty : text = []
    · have hstrip : strip ([c] ++ [] ++ []) = strip [] :=
        strip_append hspacing (by simp [IsSpacing])
      rw [List.append_nil, List.append_nil] at hstrip
      rw [hempty, strippedLines, splitLines_eq_singleton (by simp) fun d hd =>
        hspacing.not_isLineBreak hd, List.map_singleton, hstrip]
      exact .inr (by simp [strippedLines, splitLines, strip, trimEnd])
    · exact .inl (strippedLines_of_respelled (.cons hempty hspacing))

/-- A text that ends with a whole line break is read before what follows it. -/
theorem splitLines_append (hends : EndsLine text)
    (hpair : text.getLast? = some '\r' → more.head? ≠ some '\n') :
    splitLines (text ++ more) = splitLines text ++ splitLines more := by
  induction text using line_induction with
  | nil => rw [List.nil_append, splitLines, List.nil_append]
  | last line hne hline =>
      have hlast := hends _ (List.getLast?_eq_some_getLast hne)
      rw [hline _ (List.getLast_mem hne)] at hlast
      cases hlast
  | line line written rest hline hbreak ih =>
      have hrest {c : Char} (hc : rest.getLast? = some c) :
          (line ++ (written ++ rest)).getLast? = some c := by
        simp [List.getLast?_append, hc]
      have hform : BreakForm written written (rest ++ more) := by
        cases hbreak with
        | pair => exact .pair
        | @char b _ hb hwhole =>
            refine .char hb fun hreturn hnewline => ?_
            cases rest with
            | nil => exact hpair (by simp [hreturn]) hnewline
            | cons c rest => exact hwhole hreturn hnewline
      rw [List.append_assoc, List.append_assoc, splitLines_append_form hline hform,
        splitLines_append_form hline hbreak, List.cons_append,
        ih (fun c hc => hends c (hrest hc)) fun hc => hpair (hrest hc)]

theorem strippedLines_append (hends : EndsLine text)
    (hpair : text.getLast? = some '\r' → more.head? ≠ some '\n') :
    strippedLines (text ++ more) = strippedLines text ++ strippedLines more := by
  rw [strippedLines, splitLines_append hends hpair, List.map_append]
  rfl

end ArtifactSigning.Text
