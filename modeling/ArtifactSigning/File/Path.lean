import ArtifactSigning.Failure
import ArtifactSigning.Text.Separated

/-!
# Paths

A path is a root mark and a sequence of names. Reading a path drops empty names and single dots;
double dots stay, because what they mean depends on the files. `Path.absolute` resolves them by
their spelling alone, against a working directory.
-/
namespace ArtifactSigning

/-- Where a path starts. Two slashes are a root of their own, more than two are the usual one. -/
inductive PathRoot where
  | relative
  | slash
  | doubleSlash
  deriving DecidableEq, Repr

def PathRoot.text : PathRoot → String
  | .relative => ""
  | .slash => "/"
  | .doubleSlash => "//"

structure Path where
  root : PathRoot
  names : List String
  deriving DecidableEq, Repr

namespace Path

/-- The names among the pieces of a text. -/
def namesOf (text : List Char) : List String :=
  ((Text.separated '/' text).map String.ofList).filter fun name => name ≠ "" ∧ name ≠ "."

def rootOf (text : List Char) : PathRoot :=
  match text with
  | '/' :: '/' :: '/' :: _ => .slash
  | '/' :: '/' :: _ => .doubleSlash
  | '/' :: _ => .slash
  | _ => .relative

/-- The path that a text spells. -/
def ofText (text : String) : Path := ⟨rootOf text.toList, namesOf text.toList⟩

/-- The text of a path; a path without root and names is a single dot. -/
def text (p : Path) : String :=
  let text := p.root.text ++ String.intercalate "/" p.names
  if text = "" then "." else text

def isAbsolute (p : Path) : Bool := p.root ≠ .relative

/-- The path `q` seen from `p`. -/
def join (p q : Path) : Path :=
  if q.isAbsolute then q else ⟨p.root, p.names ++ q.names⟩

/-- The last name; a root and the empty path have none. -/
def name (p : Path) : String := p.names.getLast?.getD ""

def parent (p : Path) : Path := { p with names := p.names.dropLast }

/-- All parents, the nearest first. -/
def parents (p : Path) : List Path :=
  (List.range p.names.length).reverse.map fun count => { p with names := p.names.take count }

/-- The path with something appended to its last name. A path without a name cannot be extended. -/
def extend (p : Path) (extension : String) : Except Failure Path :=
  match p.names.getLast? with
  | some name => .ok { p with names := p.names.dropLast ++ [name ++ extension] }
  | none => .error .invalidValue

/-- Names with double dots resolved against the names before them; at the root they vanish. -/
def resolveDots (names : List String) : List String :=
  names.foldl (fun done name => if name = ".." then done.dropLast else done ++ [name]) []

/-- The absolute path that a path stands for in a working directory. -/
def absolute (workingDirectory p : Path) : Path :=
  let whole := workingDirectory.join p
  { whole with names := resolveDots whole.names }

end Path

end ArtifactSigning
