import ArtifactSigning.Bytes

/-!
# Pieces and padded numbers

The pieces of a list make up the list again, and only the last of them can be shorter than the
others. A string of octets is its shortest form with zeros on the left.
-/
namespace ArtifactSigning

variable {α : Type} {width : Nat} {items : List α}

@[simp] theorem flatten_pieces (h : width ≠ 0) : (pieces width items).flatten = items := by
  fun_induction pieces width items with
  | case1 items hend =>
      have hnil : items = [] := hend.resolve_right h
      rw [hnil, List.flatten_nil]
  | case2 items hend ih => rw [List.flatten_cons, ih, List.take_append_drop]

theorem ne_nil_of_mem_pieces {piece : List α} (h : piece ∈ pieces width items) : piece ≠ [] := by
  fun_induction pieces width items with
  | case1 => simp at h
  | case2 items hend ih =>
      rcases List.mem_cons.1 h with rfl | h
      · intro hnil
        rw [List.take_eq_nil_iff] at hnil
        exact hend (hnil.symm)
      · exact ih h

/-- A number that divides the width and the length of a list divides the length of its pieces. -/
theorem dvd_length_of_mem_pieces {n : Nat} {piece : List α} (hwidth : n ∣ width)
    (hitems : n ∣ items.length) (h : piece ∈ pieces width items) : n ∣ piece.length := by
  fun_induction pieces width items with
  | case1 => simp at h
  | case2 items hend ih =>
      rcases List.mem_cons.1 h with rfl | h
      · rw [List.length_take]
        rcases Nat.le_total width items.length with hle | hle
        · rwa [Nat.min_eq_left hle]
        · rwa [Nat.min_eq_right hle]
      · refine ih ?_ h
        rw [List.length_drop]
        exact Nat.dvd_sub hitems hwidth

/-- A piece consists of items of the list. -/
theorem mem_of_mem_pieces {piece : List α} {item : α} (h : piece ∈ pieces width items)
    (hitem : item ∈ piece) : item ∈ items := by
  fun_induction pieces width items with
  | case1 => simp at h
  | case2 items hend ih =>
      rcases List.mem_cons.1 h with rfl | h
      · exact List.mem_of_mem_take hitem
      · exact List.mem_of_mem_drop (ih h)

end ArtifactSigning
