import ArtifactSigning.CommandLine.Run
import Std.Time.DateTime.Timestamp

/-!
# The program

Gathers the surroundings of a run, runs the command line, and carries out what the run has done to
the files. Other programs are out of reach: a run finds neither the external tool nor an agent, so
that only the embedded signer can sign from here.
-/
namespace ArtifactSigning.Program

/-- The names of the variables that a run may look at. -/
def variableNames : List String :=
  let usual := CredentialVariables.usual
  Settings.names.map (fun name => (Settings.variableStart ++ name).toUpper) ++
    [usual.key, usual.fingerprint, usual.passphrase, "HOME", "XDG_CONFIG_HOME",
      "PGPSIGN_GPG_PASSPHRASE"] ++
    Agent.optionVariables.map Prod.fst

/-- The variables that are set. -/
def environment : IO (List (String × RawText)) := do
  let chosen := (← IO.getEnv "PGPSIGN_PASSPHRASE_ENV_NAME").toList
  (chosen ++ variableNames).filterMapM fun name => do
    return (← IO.getEnv name).map fun value => (name, .ofString value)

/-- The content of a file, if it can be read. -/
def contentOf (p : Path) : IO (Option Bytes) := do
  try return some (← IO.FS.readBinFile p.text).toList catch _ => return none

/-- What is at some paths. -/
def gather (base : Path) (paths : List Path) : IO FileTree := do
  paths.foldlM
    (fun tree p => do
      let place := (Path.absolute base p).names
      match ← contentOf p with
      | some content => return tree.withFile place content
      | none => return tree)
    (FileTree.empty.withDirectories base.names)

/-- The paths that a command line may read or replace. -/
def pathsOf (environment : List (String × RawText)) (words : List String) : IO (List Path) := do
  let file? := (← contentOf CommandLine.variableFile).bind Text.Utf8.decode?
  let keyFile := do
    (← Settings.ofSources [] environment file?).keyFile fun name =>
      (environment.lookup name).bind RawText.text?
  let named := (words ++ words.map (· ++ Layout.extension)).map Path.ofText
  return CommandLine.variableFile :: keyFile.toOption.toList ++ named

/-- How the program is called. -/
def usage : String :=
  "Usage: pgpsign sign [OPTIONS] FILES...\n       pgpsign key-info [OPTIONS]\n" ++
    "       pgpsign gpg-version [OPTIONS]\n"

/-- Everything that is typed until the input ends. -/
partial def readAll (input : IO.FS.Stream) : IO String := do
  let line ← input.getLine
  if line.isEmpty then return "" else return line ++ (← readAll input)

/-- Changes the files from one tree to another. -/
def carryOut (before after : FileTree) : IO Unit := do
  for (place, entry) in after.entries.reverse do
    let path := Path.mk .slash place
    if before.at? place ≠ some entry then
      match entry with
      | .directory => IO.FS.createDirAll path.text
      | .file content =>
          IO.FS.createDirAll path.parent.text
          IO.FS.writeBinFile path.text ⟨content.toArray⟩
  for (place, _) in before.entries do
    if (after.at? place).isNone then IO.FS.removeFile (Path.mk .slash place).text

/-- The clock in seconds. -/
def clock : IO Rat := do
  let now ← Std.Time.Timestamp.now
  return mkRat now.toNanosecondsSinceUnixEpoch.val (10 ^ 9)

/-- Runs a command line. The input is read only if somebody was asked. -/
def run (words : List String) : IO UInt32 := do
  let base := Path.ofText (← IO.currentDir).toString
  let known ← environment
  let before ← gather base (← pathsOf known words)
  let world := World.start before base.names (← clock) ⟨.absent, []⟩
  let (first, ended) := CommandLine.run known words world
  let (outcome, ended) ←
    if ended.prompts = 0 then pure (first, ended)
    else
      let typed := CommandLine.typedLines (← readAll (← IO.getStdin))
      pure (CommandLine.run known words { world with typed })
  carryOut before ended.files
  match CommandLine.Request.ofWords words with
  | .help => IO.print usage
  | .misuse => IO.eprint usage
  | _ => IO.print ended.shown
  IO.eprint outcome.errors
  match outcome.unforeseen? with
  | some failure => IO.eprintln (failure.message?.getD "The run has failed.")
  | none => pure ()
  return UInt32.ofNat outcome.exitCode

end ArtifactSigning.Program

def main (args : List String) : IO UInt32 := ArtifactSigning.Program.run args
