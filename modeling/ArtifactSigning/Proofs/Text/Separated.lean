import ArtifactSigning.Text.Separated

/-!
# The pieces of a composed text

A mark between two texts separates their pieces. What stands without a mark in front of a text
belongs to its first piece.
-/
namespace ArtifactSigning.Text

variable {mark : Char} {front text : List Char}

theorem decide_ne_of_not_mem {α : Type} [DecidableEq α] {items : List α} {mark : α}
    (h : mark ∉ items) : ∀ item ∈ items, decide (item ≠ mark) = true :=
  fun _ hitem => decide_eq_true fun heq => h (heq ▸ hitem)

theorem separated_of_not_mem (h : mark ∉ text) : separated mark text = [text] := by
  have hdrop : (text ++ []).dropWhile (· ≠ mark) = [] :=
    List.dropWhile_append_of_pos (decide_ne_of_not_mem h)
  rw [List.append_nil] at hdrop
  rw [separated]
  split
  · rfl
  · rename_i heq
    cases hdrop.symm.trans heq

/-- The first mark ends the first piece. -/
theorem separated_first (h : mark ∉ front) (rest : List Char) :
    separated mark (front ++ mark :: rest) = front :: separated mark rest := by
  have htake : (front ++ mark :: rest).takeWhile (· ≠ mark) = front := by
    rw [List.takeWhile_append_of_pos (decide_ne_of_not_mem h)]
    simp
  have hdrop : (front ++ mark :: rest).dropWhile (· ≠ mark) = mark :: rest := by
    rw [List.dropWhile_append_of_pos (decide_ne_of_not_mem h)]
    simp
  rw [separated]
  split
  · rename_i heq
    cases hdrop.symm.trans heq
  · rename_i heq
    cases hdrop.symm.trans heq
    rw [htake]

/-- Every text is a single piece, or a first piece, a mark and the rest. -/
theorem separated_induction (mark : Char) {motive : List Char → Prop}
    (piece : ∀ text, mark ∉ text → motive text)
    (pieces : ∀ first rest, mark ∉ first → motive rest → motive (first ++ mark :: rest))
    (text : List Char) : motive text := by
  induction hlength : text.length using Nat.strongRecOn generalizing text with
  | ind n ih =>
      by_cases hmem : mark ∈ text
      · obtain ⟨first, rest, rfl, hfirst⟩ := List.eq_append_cons_of_mem hmem
        refine pieces first rest hfirst (ih rest.length ?_ rest rfl)
        rw [List.length_append, List.length_cons] at hlength
        omega
      · exact piece text hmem

/-- A mark between two texts separates their pieces. -/
theorem separated_append (mark : Char) (text rest : List Char) :
    separated mark (text ++ mark :: rest) = separated mark text ++ separated mark rest := by
  induction text using separated_induction mark with
  | piece text h => rw [separated_first h, separated_of_not_mem h, List.singleton_append]
  | pieces first others h ih =>
      rw [List.append_assoc, List.cons_append, separated_first h, separated_first h, ih,
        List.cons_append]

/-- What has no mark belongs to the first piece of the text behind it. -/
theorem separated_behind (h : mark ∉ front) (text : List Char) :
    ∃ first others, separated mark text = first :: others ∧
      separated mark (front ++ text) = (front ++ first) :: others := by
  have hfront {first : List Char} (hfirst : mark ∉ first) : mark ∉ front ++ first := by
    simp [h, hfirst]
  induction text using separated_induction mark with
  | piece text htext =>
      exact ⟨text, [], separated_of_not_mem htext, separated_of_not_mem (hfront htext)⟩
  | pieces first rest hfirst _ =>
      refine ⟨first, separated mark rest, separated_first hfirst rest, ?_⟩
      rw [← List.append_assoc, separated_first (hfront hfirst)]

/-- Texts of which each is ended by a mark. -/
theorem separated_flatMap (mark : Char) (texts : List (List Char)) :
    separated mark (texts.flatMap (· ++ [mark])) = texts.flatMap (separated mark) ++ [[]] := by
  induction texts with
  | nil => exact separated_of_not_mem List.not_mem_nil
  | cons text texts ih =>
      rw [List.flatMap_cons, List.append_assoc, List.singleton_append, separated_append, ih,
        List.flatMap_cons, List.append_assoc]

/-- There is one piece more than there are marks. -/
theorem length_separated (mark : Char) (text : List Char) :
    (separated mark text).length = text.count mark + 1 := by
  induction text using separated_induction mark with
  | piece text h => rw [separated_of_not_mem h, List.count_eq_zero.2 h, List.length_singleton]
  | pieces first rest h ih =>
      rw [separated_first h, List.length_cons, ih, List.count_append, List.count_eq_zero.2 h,
        List.count_cons_self, Nat.zero_add]

/-- Words with marks between them. -/
theorem separated_intercalate {words : List (List Char)} (hne : words ≠ [])
    (h : ∀ word ∈ words, mark ∉ word) : separated mark ([mark].intercalate words) = words := by
  induction words with
  | nil => exact absurd rfl hne
  | cons word words ih =>
      have hword := h word List.mem_cons_self
      by_cases hlast : words = []
      · rw [hlast, List.intercalate_singleton, separated_of_not_mem hword]
      · have hwords : ∀ other ∈ words, mark ∉ other := fun other hother => h other (.tail _ hother)
        rw [List.intercalate_cons_of_ne_nil hlast, List.append_assoc, List.singleton_append,
          separated_first hword, ih hlast hwords]

end ArtifactSigning.Text
