import ArtifactSigning.Proofs.File.Replacement
import Mathlib.Logic.Relation

/-!
# Spellings of a path

A path may be written from the working directory or from the root, and it may go down and up again
on its way. Such spellings are one path when they are made absolute, and no others are
(`respelled_iff`).
-/
namespace ArtifactSigning

namespace Place

variable {place : Place} {names : List String} {name : String}

/-- Where names lead, only these names and those of the start occur. -/
theorem mem_of_mem_along (h : name ∈ place.along names) : name ∈ place ∨ name ∈ names := by
  induction names generalizing place with
  | nil => exact .inl h
  | cons other names ih =>
      by_cases hother : other = ".."
      · rw [hother, along_up] at h
        exact (ih h).imp (List.dropLast_subset place ·) (.tail _)
      · rw [along_down hother] at h
        rcases ih h with hplace | hnames
        · rcases List.mem_append.1 hplace with hplace | hlast
          · exact .inl hplace
          · exact .inr (List.mem_singleton.1 hlast ▸ List.mem_cons_self)
        · exact .inr (.tail _ hnames)

end Place

namespace Path

variable {workingDirectory : Place} {p q : Path}

/-- One step between two spellings of a path. -/
inductive Respells (workingDirectory : Place) : Path → Path → Prop
  /-- A relative path starts in the working directory. -/
  | fromRoot (names : List String) :
      Respells workingDirectory ⟨.relative, names⟩ ⟨.slash, workingDirectory ++ names⟩
  /-- Two dots go back over the name before them. -/
  | back (root : PathRoot) (front : List String) {name : String} (hname : name ≠ "..")
      (rest : List String) :
      Respells workingDirectory ⟨root, front ++ name :: ".." :: rest⟩ ⟨root, front ++ rest⟩
  /-- Above the root there is nothing. -/
  | top {root : PathRoot} (hroot : root ≠ .relative) (rest : List String) :
      Respells workingDirectory ⟨root, ".." :: rest⟩ ⟨root, rest⟩

/-- Two paths are spellings of one path. -/
def Respelled (workingDirectory : Place) : Path → Path → Prop :=
  Relation.EqvGen (Respells workingDirectory)

theorem absolute_of_absolute {root : PathRoot} (hroot : root ≠ .relative) (names : List String) :
    absolute ⟨.slash, workingDirectory⟩ ⟨root, names⟩ = ⟨root, Place.along [] names⟩ := by
  rw [absolute, join, isAbsolute, decide_eq_true hroot]
  rfl

theorem absolute_of_relative (names : List String) :
    absolute ⟨.slash, workingDirectory⟩ ⟨.relative, names⟩ =
      ⟨.slash, Place.along [] (workingDirectory ++ names)⟩ := rfl

theorem absolute_eq_of_respells (h : Respells workingDirectory p q) :
    absolute ⟨.slash, workingDirectory⟩ p = absolute ⟨.slash, workingDirectory⟩ q := by
  cases h with
  | fromRoot names =>
      rw [absolute_of_relative, absolute_of_absolute (by decide)]
  | @back root front name hname rest =>
      have hback (start : Place) : start.along (front ++ name :: ".." :: rest) =
          start.along (front ++ rest) := by
        rw [Place.along_append, Place.along_append, Place.along_down hname, Place.along_up,
          List.dropLast_concat]
      by_cases hroot : root = .relative
      · rw [hroot, absolute_of_relative, absolute_of_relative,
          Place.along_append [] workingDirectory, Place.along_append [] workingDirectory, hback]
      · rw [absolute_of_absolute hroot, absolute_of_absolute hroot]
        exact congrArg (Path.mk root) (hback [])
  | top hroot rest =>
      rw [absolute_of_absolute hroot, absolute_of_absolute hroot]
      rfl

/-- Names behind a resolved front are resolved step by step. -/
theorem respelled_along {root : PathRoot} (hroot : root ≠ .relative) {front : List String}
    (hfront : ".." ∉ front) (names : List String) :
    Respelled workingDirectory ⟨root, front ++ names⟩ ⟨root, Place.along front names⟩ := by
  induction names generalizing front with
  | nil =>
      rw [List.append_nil]
      exact .refl _
  | cons name names ih =>
      by_cases hname : name = ".."
      · subst hname
        rcases List.eq_nil_or_concat front with rfl | ⟨before, last, rfl⟩
        · exact .trans _ _ _ (.rel _ _ (.top hroot names)) (ih hfront)
        · rw [List.concat_eq_append] at hfront ⊢
          have hlast : last ≠ ".." := by
            rintro rfl
            exact hfront (by simp)
          have hbefore : ".." ∉ before := fun hmem => hfront (List.mem_append_left _ hmem)
          rw [Place.along_up, List.dropLast_concat, List.append_assoc, List.singleton_append]
          exact .trans _ _ _ (.rel _ _ (.back root before hlast names)) (ih hbefore)
      · have hnext : ".." ∉ front ++ [name] := by
          rw [List.mem_append, List.mem_singleton, not_or]
          exact ⟨hfront, Ne.symm hname⟩
        rw [Place.along_down hname, ← List.singleton_append, ← List.append_assoc]
        exact ih hnext

/-- Every path is a spelling of its absolute one. -/
theorem respelled_absolute (workingDirectory : Place) (p : Path) :
    Respelled workingDirectory p (absolute ⟨.slash, workingDirectory⟩ p) := by
  obtain ⟨root, names⟩ := p
  by_cases hroot : root = .relative
  · rw [hroot, absolute_of_relative]
    exact .trans _ _ _ (.rel _ _ (.fromRoot names))
      (respelled_along (by decide) List.not_mem_nil _)
  · rw [absolute_of_absolute hroot]
    exact respelled_along hroot List.not_mem_nil names

/-- Two paths are spellings of one path exactly if they are the same absolute one. -/
theorem respelled_iff : Respelled workingDirectory p q ↔
    absolute ⟨.slash, workingDirectory⟩ p = absolute ⟨.slash, workingDirectory⟩ q := by
  constructor
  · intro h
    induction h with
    | rel p q hstep => exact absolute_eq_of_respells hstep
    | refl p => rfl
    | symm p q _ ih => exact ih.symm
    | trans p q r _ _ hfirst hsecond => exact hfirst.trans hsecond
  · intro h
    have hq := (respelled_absolute workingDirectory q).symm
    rw [← h] at hq
    exact .trans _ _ _ (respelled_absolute workingDirectory p) hq

end Path

end ArtifactSigning
