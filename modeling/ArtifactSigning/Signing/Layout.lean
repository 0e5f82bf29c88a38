import ArtifactSigning.File.Path

/-!
# Where signatures go

A signature lies next to its file unless there is an output directory. With one, the signature of a
file outside the build directory goes below the output directory, at the place that the file has
below the nearest of the output, build and base directories.
-/
namespace ArtifactSigning

/-- The three directories, all of them absolute. -/
structure Layout where
  output? : Option Path
  build? : Option Path
  base? : Option Path
  deriving DecidableEq, Repr

/-- The path of a signature, and the directory that has to be made for it. -/
structure Placement where
  signature : Path
  directory? : Option Path
  deriving DecidableEq, Repr

namespace Layout

/-- What follows the name of a file in the name of its signature. -/
def extension : String := ".asc"

/-- Where the signature of a file goes: to the given path, or beside the file. -/
def destination (source : Path) (given? : Option Path) : Except Failure Path :=
  match given? with
  | some given => .ok given
  | none => source.extend extension

/-- The layout with directories given relative to a working directory. -/
def ofPaths (workingDirectory : Path) (output? build? base? : Option Path) : Layout where
  output? := output?.map (Path.absolute workingDirectory)
  build? := build?.map (Path.absolute workingDirectory)
  base? := base?.map (Path.absolute workingDirectory)

/-- Whether a directory is one of the three. -/
def isRoot (layout : Layout) (directory : Path) : Bool :=
  [layout.output?, layout.build?, layout.base?].contains (some directory)

/-- The names that lead to a path from the nearest of the three directories above it, or from the
root of all files. -/
def relativeNames (layout : Layout) (p : Path) : List String :=
  ((p.parents.takeWhile fun directory => !layout.isRoot directory).map Path.name).reverse.filter
    (· ≠ "")

/-- Where the signature of a file goes. A path without a name has no signature. -/
def place (layout : Layout) (file : Path) : Except Failure Placement := do
  let beside ← file.extend extension
  match layout.output? with
  | none => return ⟨beside, none⟩
  | some output =>
      if some beside.parent = layout.build? then return ⟨beside, none⟩
      else
        let directory := { output with names := output.names ++ layout.relativeNames beside }
        return ⟨directory.join ⟨.relative, [beside.name]⟩, some directory⟩

end Layout

end ArtifactSigning
