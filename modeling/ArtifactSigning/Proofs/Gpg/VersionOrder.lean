import ArtifactSigning.Gpg.Version

/-!
# The order of versions

Versions are compared as the sequences of their numbers are, in the lexicographic order. This is a
total order (`compare_totally_ordered`): two versions are equal only if they have the same numbers,
what the operators say is what the comparison says, and the versions of a list have one ascending
order.
-/
namespace ArtifactSigning.Version

variable {a b c : Version} {versions : List Version}

theorem compare_go_eq_lt_iff (xs ys : List Int) : compare.go xs ys = .lt ↔ xs < ys := by
  fun_induction compare.go xs ys with
  | case1 => simp
  | case2 y ys => simp
  | case3 x xs => simp
  | case4 x xs y ys hlt => simp [List.cons_lt_cons_iff, hlt]
  | case5 x xs y ys hlt hgt =>
      have hne : x ≠ y := Ne.symm (Int.ne_of_lt hgt)
      simp [List.cons_lt_cons_iff, hlt, hne]
  | case6 x xs y ys hlt hgt ih =>
      have heq : x = y := by omega
      simp [heq, ih]

theorem isBefore_iff : a.isBefore b = true ↔ a.segments < b.segments := by
  rw [isBefore, decide_eq_true_iff, compare, compare_go_eq_lt_iff]

theorem isAtLeast_iff : a.isAtLeast b = true ↔ ¬a.segments < b.segments := by
  rw [isAtLeast, decide_eq_true_iff, ne_eq, compare, compare_go_eq_lt_iff]

/-- A version is at least any version that it continues. -/
theorem isAtLeast_of_prefix (h : b.segments <+: a.segments) : a.isAtLeast b = true := by
  obtain ⟨more, hmore⟩ := h
  rw [isAtLeast_iff, ← hmore]
  generalize b.segments = xs
  induction xs with
  | nil => simp
  | cons x xs ih => simp [ih]

theorem compare_go_eq (xs ys : List Int) : compare.go xs ys = Ord.compare xs ys := by
  fun_induction compare.go xs ys with
  | case1 => rfl
  | case2 y ys => rfl
  | case3 x xs => rfl
  | case4 x xs y ys hlt => rw [List.compare_cons_cons, Int.compare_eq_lt.2 hlt, Ordering.lt_then]
  | case5 x xs y ys hlt hgt =>
      rw [List.compare_cons_cons, Int.compare_eq_gt.2 hgt, Ordering.gt_then]
  | case6 x xs y ys hlt hgt ih =>
      have heq : x = y := by omega
      rw [List.compare_cons_cons, ih, Int.compare_eq_eq.2 heq, Ordering.eq_then]

/-- Versions are compared as the lists of their numbers are. -/
theorem compare_eq (a b : Version) : a.compare b = Ord.compare a.segments b.segments :=
  compare_go_eq a.segments b.segments

theorem compare_swap (a b : Version) : a.compare b = (b.compare a).swap := by
  rw [compare_eq, compare_eq]
  exact Std.OrientedCmp.eq_swap

theorem compare_eq_eq_iff : a.compare b = .eq ↔ a.segments = b.segments := by
  rw [compare_eq, Std.LawfulEqCmp.compare_eq_iff_eq]

instance : Std.TransCmp Version.compare where
  eq_swap := compare_swap _ _
  isLE_trans {a b c} hab hbc := by
    rw [compare_eq] at hab hbc ⊢
    exact Std.TransCmp.isLE_trans hab hbc

/-- One version goes on where the other one ends, or it has the greater number at the first place
where the two differ. -/
def Precedes (a b : Version) : Prop :=
  (a.segments <+: b.segments ∧ a.segments ≠ b.segments) ∨
    ∃ common x y xs ys, a.segments = common ++ x :: xs ∧ b.segments = common ++ y :: ys ∧ x < y

theorem compare_eq_lt_iff : a.compare b = .lt ↔ a.Precedes b := by
  obtain ⟨xs⟩ := a
  obtain ⟨ys⟩ := b
  rw [Precedes, compare]
  fun_induction compare.go xs ys with
  | case1 => simp
  | case2 y ys => simp
  | case3 x xs => simp
  | case4 x xs y ys hlt => exact iff_of_true rfl (.inr ⟨[], x, y, xs, ys, rfl, rfl, hlt⟩)
  | case5 x xs y ys hlt hgt =>
      refine iff_of_false (by simp) ?_
      rintro (⟨hbegins, -⟩ | ⟨common, x', y', xs', ys', hxs, hys, hlt'⟩)
      · obtain rfl := (List.cons_prefix_cons.1 hbegins).1
        exact hlt hgt
      · cases common with
        | nil =>
          cases hxs
          cases hys
          exact hlt hlt'
        | cons z common =>
          cases hxs
          cases hys
          exact hlt hgt
  | case6 x xs y ys hlt hgt ih =>
      obtain rfl : x = y := by omega
      rw [ih]
      refine or_congr (by simp [List.cons_prefix_cons]) ⟨?_, ?_⟩
      · rintro ⟨common, x', y', xs', ys', rfl, rfl, hlt'⟩
        exact ⟨x :: common, x', y', xs', ys', rfl, rfl, hlt'⟩
      · rintro ⟨common, x', y', xs', ys', hxs, hys, hlt'⟩
        cases common with
        | nil =>
          cases hxs
          cases hys
          exact absurd hlt' hlt
        | cons z common =>
          cases hxs
          cases hys
          exact ⟨common, x', y', xs', ys', rfl, rfl, hlt'⟩

section Operators

theorem isSame_iff : a.isSame b = true ↔ a.compare b = .eq := decide_eq_true_iff

theorem isBefore_iff_compare : a.isBefore b = true ↔ a.compare b = .lt := decide_eq_true_iff

theorem isAtMost_iff : a.isAtMost b = true ↔ a.compare b ≠ .gt := by
  rw [isAtMost, isBefore, isSame]
  cases a.compare b <;> simp

theorem isAfter_iff : a.isAfter b = true ↔ a.compare b = .gt := by
  rw [isAfter, isBefore, isSame]
  cases a.compare b <;> simp

theorem isNotBefore_iff : a.isNotBefore b = true ↔ a.compare b ≠ .lt := by
  rw [isNotBefore, isBefore]
  cases a.compare b <;> simp

theorem isAtLeast_iff_compare : a.isAtLeast b = true ↔ a.compare b ≠ .lt := decide_eq_true_iff

theorem hashKey_of_isSame (h : a.isSame b = true) : a.hashKey = b.hashKey := by
  rw [hashKey, hashKey, compare_eq_eq_iff.1 (isSame_iff.1 h)]

theorem isAtMost_trans (hab : a.isAtMost b = true) (hbc : b.isAtMost c = true) :
    a.isAtMost c = true := by
  rw [isAtMost_iff, ne_eq, ← Ordering.isLE_iff_ne_gt] at hab hbc ⊢
  exact Std.TransCmp.isLE_trans hab hbc

theorem isAtMost_eq_not_isBefore (a b : Version) : a.isAtMost b = !b.isBefore a := by
  rw [Bool.eq_iff_iff, isAtMost_iff, compare_swap, Bool.not_eq_true', ← Bool.not_eq_true,
    isBefore_iff_compare]
  cases b.compare a <;> decide

theorem isAtMost_total (a b : Version) : a.isAtMost b = true ∨ b.isAtMost a = true := by
  rw [isAtMost_iff, isAtMost_iff, compare_swap]
  cases b.compare a <;> decide

theorem isAtMost_antisymm (hab : a.isAtMost b = true) (hba : b.isAtMost a = true) : a = b := by
  rw [isAtMost_iff] at hab hba
  rw [compare_swap] at hba
  have heq : a.compare b = .eq := by
    cases horder : a.compare b with
    | lt => rw [horder] at hba; exact absurd rfl hba
    | eq => rfl
    | gt => exact absurd horder hab
  obtain ⟨xs⟩ := a
  obtain ⟨ys⟩ := b
  exact congrArg Version.mk (compare_eq_eq_iff.1 heq)

end Operators

/-- Some versions in ascending order. -/
def Ascending (versions : List Version) : Prop :=
  versions.Pairwise fun a b => a.isAtMost b = true

theorem sort_perm (versions : List Version) : (sort versions).Perm versions :=
  List.mergeSort_perm versions _

theorem ascending_sort (versions : List Version) : Ascending (sort versions) := by
  have hle : (fun a b : Version => !b.isBefore a) = isAtMost := by
    funext a b
    exact (isAtMost_eq_not_isBefore a b).symm
  have htotal (a b : Version) : (a.isAtMost b || b.isAtMost a) = true := by
    rw [Bool.or_eq_true]
    exact isAtMost_total a b
  rw [sort, hle]
  exact @List.pairwise_mergeSort Version isAtMost (fun _ _ _ => isAtMost_trans) htotal versions

/-- Versions can be put into ascending order in one way only. -/
theorem eq_sort_iff (sorted : List Version) :
    sorted = sort versions ↔ sorted.Perm versions ∧ Ascending sorted := by
  constructor
  · rintro rfl
    exact ⟨sort_perm versions, ascending_sort versions⟩
  · rintro ⟨hperm, hascending⟩
    exact List.Perm.eq_of_pairwise (fun a b _ _ hab hba => isAtMost_antisymm hab hba) hascending
      (ascending_sort versions) (hperm.trans (sort_perm versions).symm)

/-- The comparison of versions is a total order, whatever their lengths and numbers: it is turned
around with its arguments, it can be chained, and it tells apart any two versions that differ in a
number, the lower of which is the one that ends first or has the smaller number at the first
difference. The operators say what it says, the same versions have the same hash, and sorting gives
the one ascending order of a list. -/
theorem compare_totally_ordered (a b c : Version) :
    (a.compare b = (b.compare a).swap ∧
      (∀ order, a.compare b = order → b.compare c = order → a.compare c = order) ∧
      (a.compare b ≠ .gt → b.compare c ≠ .gt → a.compare c ≠ .gt) ∧
      (a.compare b ≠ .gt ∨ b.compare a ≠ .gt) ∧
      (a.compare b = .eq ↔ a.segments = b.segments) ∧
      (a.compare b = .lt ↔ a.Precedes b)) ∧
    ((a.isSame b = true ↔ a.compare b = .eq) ∧
      (a.isBefore b = true ↔ a.compare b = .lt) ∧
      (a.isAtMost b = true ↔ a.compare b ≠ .gt) ∧
      (a.isAfter b = true ↔ a.compare b = .gt) ∧
      (a.isNotBefore b = true ↔ a.compare b ≠ .lt) ∧
      (a.isAtLeast b = true ↔ a.compare b ≠ .lt) ∧
      (a.isSame b = true → a.hashKey = b.hashKey)) ∧
    ∀ versions sorted : List Version,
      sorted = sort versions ↔ sorted.Perm versions ∧ Ascending sorted := by
  have htrans : ∀ order, a.compare b = order → b.compare c = order → a.compare c = order := by
    rintro (_ | _ | _) hab hbc
    · exact Std.TransCmp.lt_trans hab hbc
    · exact Std.TransCmp.eq_trans hab hbc
    · exact Std.TransCmp.gt_trans hab hbc
  have hle : a.compare b ≠ .gt → b.compare c ≠ .gt → a.compare c ≠ .gt := by
    simpa only [← isAtMost_iff] using isAtMost_trans
  have htotal : a.compare b ≠ .gt ∨ b.compare a ≠ .gt := by
    simpa only [← isAtMost_iff] using isAtMost_total a b
  exact ⟨⟨compare_swap a b, htrans, hle, htotal, compare_eq_eq_iff, compare_eq_lt_iff⟩,
    ⟨isSame_iff, isBefore_iff_compare, isAtMost_iff, isAfter_iff, isNotBefore_iff,
      isAtLeast_iff_compare, hashKey_of_isSame⟩, fun _ => eq_sort_iff⟩

/-- A version comes before those that continue it, also by a zero. -/
example : Version.compare ⟨[2, 2]⟩ ⟨[2, 2, 0]⟩ = .lt := by decide

end ArtifactSigning.Version
