import ArtifactSigning.File.Path

/-!
# File trees

A file tree maps places to files and directories. A place is the list of names from the root, which
is always a directory. `FileTree.locate` follows a path to a place; the operations fail by the
rules that file systems have.
-/
namespace ArtifactSigning

/-- What is at a place. -/
inductive FileEntry where
  | file (content : Bytes)
  | directory
  deriving DecidableEq, Repr

abbrev Place := List String

/-- The place that names lead to from a place by their spelling. -/
def Place.along (place : Place) (names : List String) : Place :=
  names.foldl (fun place name => if name = ".." then place.dropLast else place ++ [name]) place

/-- Resolved names have no double dots. -/
theorem Place.not_mem_along {place : Place} {names : List String} (h : ".." ∉ place) :
    ".." ∉ place.along names := by
  induction names generalizing place with
  | nil => exact h
  | cons name names ih =>
      rw [along, List.foldl_cons]
      refine ih ?_
      split
      · exact fun hmem => h (List.dropLast_subset place hmem)
      · rename_i hname
        rw [List.mem_append, List.mem_singleton]
        rintro (hmem | heq)
        · exact h hmem
        · exact hname heq.symm

structure FileTree where
  entries : List (Place × FileEntry)
  deriving Repr

namespace FileTree

def empty : FileTree := ⟨[]⟩

/-- What is at a place, if anything. -/
def at? (tree : FileTree) (place : Place) : Option FileEntry :=
  if place = [] then some .directory else tree.entries.lookup place

/-- Without anything at a place. -/
def erase (tree : FileTree) (place : Place) : FileTree :=
  ⟨tree.entries.filter fun entry => entry.1 ≠ place⟩

/-- With an entry at a place, and nothing else there. -/
def put (tree : FileTree) (place : Place) (entry : FileEntry) : FileTree :=
  ⟨(place, entry) :: (tree.erase place).entries⟩

theorem at?_put_self {tree : FileTree} {place : Place} {entry : FileEntry} (h : place ≠ []) :
    (tree.put place entry).at? place = some entry := by
  simp [at?, put, h]

theorem lookup_filter_ne {entries : List (Place × FileEntry)} {place other : Place}
    (h : other ≠ place) :
    (entries.filter fun entry => entry.1 ≠ place).lookup other = entries.lookup other := by
  induction entries with
  | nil => rfl
  | cons entry entries ih =>
      by_cases hp : entry.1 = place
      · have ho : (other == entry.1) = false := by simp [hp, h]
        rw [List.filter_cons_of_neg (by simp [hp]), ih, List.lookup_cons, ho]
      · rw [List.filter_cons_of_pos (by simp [hp]), List.lookup_cons, List.lookup_cons, ih]

theorem at?_erase_of_ne {tree : FileTree} {place other : Place} (h : other ≠ place) :
    (tree.erase place).at? other = tree.at? other := by
  simp only [at?, erase, lookup_filter_ne h]

theorem at?_put_of_ne {tree : FileTree} {place other : Place} {entry : FileEntry}
    (h : other ≠ place) : (tree.put place entry).at? other = tree.at? other := by
  have ho : (other == place) = false := by simp [h]
  simp only [at?, put, List.lookup_cons, ho, erase, lookup_filter_ne h]

/-- With directories at a place and at all places above it, as far as nothing is there. -/
def withDirectories (tree : FileTree) (place : Place) : FileTree :=
  (List.range (place.length + 1)).foldl
    (fun tree count =>
      let above := place.take count
      if (tree.at? above).isSome then tree else tree.put above .directory)
    tree

/-- With a file at a place, below directories. -/
def withFile (tree : FileTree) (place : Place) (content : Bytes) : FileTree :=
  (tree.withDirectories place.dropLast).put place (.file content)

/-- What lies below a place, with the names that lead there from it. -/
def below (tree : FileTree) (place : Place) : List (Place × FileEntry) :=
  tree.entries.filterMap fun (other, entry) =>
    match place.isPrefixOf? other with
    | none | some [] => none
    | some names => some (names, entry)

/-- Follows names from a place. Only a directory can be followed further. -/
def follow (tree : FileTree) (place : Place) : List String → Except FileRule Place
  | [] => .ok place
  | name :: names =>
      match tree.at? place with
      | none => .error .missing
      | some (.file _) => .error .notDirectory
      | some .directory =>
          tree.follow (if name = ".." then place.dropLast else place ++ [name]) names

/-- The place that a path leads to from a working directory; there may be nothing at it. -/
def locate (tree : FileTree) (workingDirectory : Place) (p : Path) : Except FileRule Place :=
  tree.follow (if p.isAbsolute then [] else workingDirectory) p.names

/-- What a path leads to. -/
def find? (tree : FileTree) (workingDirectory : Place) (p : Path) : Option FileEntry :=
  match tree.locate workingDirectory p with
  | .ok place => tree.at? place
  | .error _ => none

/-- The content of the file at a path. -/
def read (tree : FileTree) (workingDirectory : Place) (p : Path) : Except FileRule Bytes := do
  match tree.at? (← tree.locate workingDirectory p) with
  | some (.file content) => return content
  | some .directory => throw .isDirectory
  | none => throw .missing

/-- Makes a directory where nothing is. -/
def makeDirectory (tree : FileTree) (workingDirectory : Place) (p : Path) :
    Except FileRule FileTree := do
  let place ← tree.locate workingDirectory p
  match tree.at? place with
  | some _ => throw .exists
  | none => return tree.put place .directory

/-- Writes a file, in place of one that may be there. -/
def write (tree : FileTree) (workingDirectory : Place) (p : Path) (content : Bytes) :
    Except FileRule FileTree := do
  let place ← tree.locate workingDirectory p
  match tree.at? place with
  | some .directory => throw .isDirectory
  | _ => return tree.put place (.file content)

/-- Removes a file. -/
def remove (tree : FileTree) (workingDirectory : Place) (p : Path) : Except FileRule FileTree := do
  let place ← tree.locate workingDirectory p
  match tree.at? place with
  | some (.file _) => return tree.erase place
  | some .directory => throw .isDirectory
  | none => throw .missing

/-- Moves a file, in place of one that may be there. -/
def move (tree : FileTree) (workingDirectory : Place) (source target : Path) :
    Except FileRule FileTree := do
  let content ← tree.read workingDirectory source
  let without ← tree.remove workingDirectory source
  without.write workingDirectory target content

end FileTree

end ArtifactSigning
