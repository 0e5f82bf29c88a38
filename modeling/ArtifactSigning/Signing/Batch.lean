import ArtifactSigning.Signing.Layout
import ArtifactSigning.World

/-!
# Signing a batch of files

A signer is made ready once and then signs one file after the other. A signature that is already at
the place of a new one is removed first, so that a failed run leaves no outdated one behind.
-/
namespace ArtifactSigning

structure Signer where
  name : String
  /-- Finds out what signing needs. -/
  prepare : Act Unit
  /-- Writes the signature of a file to a destination, or next to the file if there is none, and
  returns its path. -/
  sign : Path → Option Path → Act Path
  /-- The key as it is introduced to the user. -/
  describe : Act String

/-- A file, its signature, and the name of the signer. -/
structure SignedArtifact where
  source : Path
  signature : Path
  signer : String
  deriving DecidableEq, Repr

namespace Batch

/-- Fails for the first path that is no file. -/
def checkSources : List Path → Act Unit
  | [] => return
  | path :: paths => do
      unless ← Act.isFile path do throw (.sourceMissing path.text)
      checkSources paths

/-- The place of the signature of a file, with the directory for it made. -/
def destinationOf (layout : Layout) (path : Path) : Act Path := do
  let placement ← Act.ofExcept (layout.place (← Act.absolute path))
  match placement.directory? with
  | some directory => Act.makeDirectories directory
  | none => pure ()
  return placement.signature

/-- The place of the signature of a file, with what was at it removed. -/
def clearDestination (layout : Layout) (path : Path) : Act Path := do
  let destination ← destinationOf layout path
  if ← Act.pathExists destination then Act.removeFile destination
  return destination

/-- Signs one file after removing what is at the place of its signature. -/
def signOne (signer : Signer) (layout : Layout) (path : Path) : Act SignedArtifact := do
  let destination ← clearDestination layout path
  let signature ← signer.sign path (some destination)
  Act.report .batch .info s!"Signed {path.text} -> {signature.text}"
  return ⟨path, signature, signer.name⟩

/-- Signs files in order and stops at the first failure. -/
def signAll (signer : Signer) (layout : Layout) : List Path → Act (List SignedArtifact)
  | [] => return []
  | path :: paths => do
      let artifact ← signOne signer layout path
      return artifact :: (← signAll signer layout paths)

/-- Makes the signer ready, unless one of the files is missing. -/
def start (signer : Signer) (paths : List Path) : Act Unit := do
  checkSources paths
  signer.prepare
  Act.debug .batch s!"Signing {paths.length} file(s) with {signer.name}"

/-- Signs a batch of files. Nothing is done unless all of them exist. -/
def signFiles (signer : Signer) (layout : Layout) (paths : List Path) :
    Act (List SignedArtifact) := do
  start signer paths
  signAll signer layout paths

end Batch

end ArtifactSigning
