import ArtifactSigning.File.Tree
import ArtifactSigning.Proofs.Step

/-!
# Where paths lead

A path that can be followed leads to the place that its spelling gives, whatever the files are.
Writing and moving are described by the places they read and change.
-/
namespace ArtifactSigning

namespace Place

variable {place : Place} {names : List String}

theorem along_append (place : Place) (front back : List String) :
    place.along (front ++ back) = (place.along front).along back := List.foldl_append

theorem along_singleton {name : String} (h : name ≠ "..") : place.along [name] = place ++ [name] :=
  if_neg h

theorem along_down {name : String} (h : name ≠ "..") (names : List String) :
    place.along (name :: names) = (place ++ [name]).along names := by
  rw [along, List.foldl_cons, if_neg h]
  rfl

theorem along_up (place : Place) (names : List String) :
    place.along (".." :: names) = Place.along place.dropLast names := rfl

/-- Names without double dots are appended. -/
theorem along_eq_append (h : ".." ∉ names) : place.along names = place ++ names := by
  induction names generalizing place with
  | nil => rw [List.append_nil]; rfl
  | cons name names ih =>
      have hname : name ≠ ".." := fun heq => h (heq ▸ List.mem_cons_self)
      have hnames : ".." ∉ names := fun hmem => h (.tail _ hmem)
      rw [along_down hname, ih hnames, List.append_assoc, List.singleton_append]

theorem resolveDots_eq (names : List String) : Path.resolveDots names = along [] names := rfl

end Place

namespace FileTree

open Step

variable {tree tree' : FileTree} {place target other : Place} {names : List String}
  {workingDirectory : Place} {p source : Path} {content : Bytes}

/-- The place where a path starts. -/
def origin (workingDirectory : Place) (p : Path) : Place :=
  if p.isAbsolute then [] else workingDirectory

theorem along_of_follow (h : tree.follow place names = .ok target) :
    target = place.along names := by
  induction names generalizing place with
  | nil => exact (Except.ok.inj h).symm
  | cons name names ih =>
      rw [follow] at h
      split at h
      · cases h
      · cases h
      · exact ih h

theorem along_of_locate (h : tree.locate workingDirectory p = .ok target) :
    target = (origin workingDirectory p).along p.names := along_of_follow h

/-- Only directories are passed, so a change where no directory is does not matter. -/
theorem follow_put {entry : FileEntry} (h : tree.follow place names = .ok target)
    (hother : tree.at? other ≠ some .directory) :
    (tree.put other entry).follow place names = .ok target := by
  induction names generalizing place with
  | nil => exact h
  | cons name names ih =>
      rw [follow] at h ⊢
      split at h
      · cases h
      · cases h
      · rename_i hdirectory
        have hne : place ≠ other := by
          rintro rfl
          exact hother hdirectory
        rw [at?_put_of_ne hne, hdirectory]
        exact ih h

theorem at?_erase_self (h : place ≠ []) : (tree.erase place).at? place = none := by
  rw [at?, if_neg h, List.lookup_eq_none_iff]
  intro entry hentry
  have hne : entry.1 ≠ place := by
    simpa using (List.mem_filter.1 hentry).2
  simpa using hne.symm

theorem read_eq_ok : tree.read workingDirectory p = .ok content ↔
    ∃ place, tree.locate workingDirectory p = .ok place ∧
      tree.at? place = some (.file content) := by
  rw [read, except_bind_eq_ok]
  refine exists_congr fun place => and_congr_right fun _ => ?_
  split <;> rename_i hat <;> simp [hat, pure, Except.pure, throw, throwThe, MonadExceptOf.throw]

theorem write_eq_ok : tree.write workingDirectory p content = .ok tree' ↔
    ∃ place, tree.locate workingDirectory p = .ok place ∧
      tree.at? place ≠ some .directory ∧ tree.put place (.file content) = tree' := by
  rw [write, except_bind_eq_ok]
  refine exists_congr fun place => and_congr_right fun _ => ?_
  split
  · rename_i hat
    simp [hat, throw, throwThe, MonadExceptOf.throw]
  · rename_i hat
    have hfile : tree.at? place ≠ some .directory := hat
    simp [hfile, pure, Except.pure]

theorem remove_eq_ok : tree.remove workingDirectory p = .ok tree' ↔
    ∃ place, tree.locate workingDirectory p = .ok place ∧
      (∃ content, tree.at? place = some (.file content)) ∧ tree.erase place = tree' := by
  rw [remove, except_bind_eq_ok]
  refine exists_congr fun place => and_congr_right fun _ => ?_
  split <;> rename_i hat <;> simp [hat, pure, Except.pure, throw, throwThe, MonadExceptOf.throw]

theorem makeDirectory_eq_ok : tree.makeDirectory workingDirectory p = .ok tree' ↔
    ∃ place, tree.locate workingDirectory p = .ok place ∧ tree.at? place = none ∧
      tree.put place .directory = tree' := by
  rw [makeDirectory, except_bind_eq_ok]
  refine exists_congr fun place => and_congr_right fun _ => ?_
  split <;> rename_i hat <;> simp [hat, pure, Except.pure, throw, throwThe, MonadExceptOf.throw]

/-- A moved file is taken away and then written. -/
theorem move_eq_ok (h : tree.move workingDirectory source p = .ok tree') :
    ∃ place content, tree.locate workingDirectory source = .ok place ∧
      tree.at? place = some (.file content) ∧
      (tree.erase place).write workingDirectory p content = .ok tree' := by
  obtain ⟨content, hread, h⟩ := except_bind_eq_ok.1 h
  obtain ⟨without, hremove, h⟩ := except_bind_eq_ok.1 h
  obtain ⟨place, hlocate, hat⟩ := read_eq_ok.1 hread
  obtain ⟨place', hlocate', -, rfl⟩ := remove_eq_ok.1 hremove
  rw [hlocate] at hlocate'
  cases hlocate'
  exact ⟨place, content, hlocate, hat, h⟩

/-- What was written to a path is read at it. -/
theorem read_of_write (h : tree.write workingDirectory p content = .ok tree') :
    tree'.read workingDirectory p = .ok content := by
  obtain ⟨place, hlocate, hat, rfl⟩ := write_eq_ok.1 h
  refine read_eq_ok.2 ⟨place, follow_put hlocate hat, at?_put_self ?_⟩
  rintro rfl
  exact hat rfl

end FileTree

end ArtifactSigning
