import ArtifactSigning.Agent.Request

/-!
# Requests are single lines

No field brings a blank or a control character into a request, whatever its text: these characters
are written by their numbers, and a space as a plus sign. So the words of a request are kept apart
by its spaces alone.
-/
namespace ArtifactSigning.Agent

open Text

variable {c d : Char} {word : List Char}

/-- A character that can stand in a word: neither a space nor a control character. -/
def IsWordChar (c : Char) : Prop := 0x20 < c.toNat ∧ c.toNat ≠ 0x7F

instance (c : Char) : Decidable (IsWordChar c) :=
  inferInstanceAs (Decidable (0x20 < c.toNat ∧ c.toNat ≠ 0x7F))

theorem isWordChar_of_mem_encodeUpper {bytes : Bytes} (h : c ∈ Hex.encodeUpper bytes) :
    IsWordChar c := by
  have hdigits : ∀ n < 16, IsWordChar (Hex.digit n).toUpper := by decide
  obtain ⟨digit, hdigit, rfl⟩ := List.mem_map.1 h
  obtain ⟨b, -, hdigit⟩ := List.mem_flatMap.1 hdigit
  have hb := b.toNat_lt
  simp only [Hex.encodeOctet, List.mem_cons, List.not_mem_nil, or_false] at hdigit
  rcases hdigit with rfl | rfl
  · exact hdigits _ (by omega)
  · exact hdigits _ (by omega)

theorem isWordChar_of_mem_escapeChar (h : d ∈ escapeChar c) : IsWordChar d := by
  rw [escapeChar] at h
  split at h
  · rw [List.mem_singleton.1 h]
    decide
  · rename_i hspace
    split at h
    · rcases List.mem_cons.1 h with rfl | hdigit
      · decide
      · exact isWordChar_of_mem_encodeUpper hdigit
    · rename_i hescape
      obtain rfl := List.mem_singleton.1 h
      have hne : d.toNat ≠ 0x20 := fun heq => hspace (Char.toNat_inj.1 heq)
      simp only [needsEscape, Bool.or_eq_true, decide_eq_true_eq, not_or] at hescape
      exact ⟨by omega, hescape.2⟩

theorem isWordChar_of_mem_words {request : Request} (hword : word ∈ request.words)
    (h : c ∈ word) : IsWordChar c := by
  rw [Request.words, List.mem_append, List.mem_append, List.mem_map] at hword
  rcases hword with (hword | hword) | ⟨field, -, rfl⟩
  · have hall : "GET_PASSPHRASE".toList.all (fun c => decide (IsWordChar c)) = true := by decide
    rw [List.mem_singleton.1 hword] at h
    exact of_decide_eq_true (List.all_eq_true.1 hall c h)
  · have hall : "--no-ask".toList.all (fun c => decide (IsWordChar c)) = true := by decide
    split at hword
    · rw [List.mem_singleton.1 hword] at h
      exact of_decide_eq_true (List.all_eq_true.1 hall c h)
    · cases hword
  · obtain ⟨d, -, hmem⟩ := List.mem_flatMap.1 h
    exact isWordChar_of_mem_escapeChar hmem

theorem mem_of_mem_intercalate {separator : List Char} {words : List (List Char)}
    (h : c ∈ separator.intercalate words) : c ∈ separator ∨ ∃ word ∈ words, c ∈ word := by
  induction words with
  | nil => cases h
  | cons word words ih =>
      by_cases hnil : words = []
      · rw [hnil, List.intercalate_singleton] at h
        exact .inr ⟨word, List.mem_cons_self, h⟩
      · rw [List.intercalate_cons_of_ne_nil hnil, List.mem_append, List.mem_append] at h
        rcases h with (hword | hseparator) | hrest
        · exact .inr ⟨word, List.mem_cons_self, hword⟩
        · exact .inl hseparator
        · exact (ih hrest).imp_right fun ⟨other, hother, hmem⟩ => ⟨other, .tail _ hother, hmem⟩

/-- A request has no control characters. -/
theorem plain_of_mem_line {request : Request} (h : c ∈ request.line) :
    0x20 ≤ c.toNat ∧ c.toNat ≠ 0x7F := by
  rcases mem_of_mem_intercalate h with hspace | ⟨word, hword, hmem⟩
  · rw [List.mem_singleton.1 hspace]
    decide
  · exact (isWordChar_of_mem_words hword hmem).imp_left Nat.le_of_lt

/-- A request is a single line. -/
theorem newline_not_mem_line (request : Request) : '\n' ∉ request.line := by
  intro h
  exact absurd (plain_of_mem_line h) (by decide)

end ArtifactSigning.Agent
