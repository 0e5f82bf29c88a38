import ArtifactSigning.CommandLine.Command
import ArtifactSigning.Signing.Backend

/-!
# Running a command line

A run shows its results to the user and ends with an exit code. The failures that the library and
the file system foresee are reported as errors; any other failure is left to whoever runs the
command.
-/
namespace ArtifactSigning

/-- Whether a failure is one that the library reports about signing. -/
def Failure.isSigning : Failure → Bool
  | .format _ | .unsupported _ | .decryption _ | .credential _ | .expired _ | .configuration _
  | .keyFileTooLarge _ | .signatureComputation | .signatureWriting _ | .process _ | .version _
  | .agent _ => true
  | _ => false

/-- Whether a failure is one of files or connections. -/
def Failure.isSystem : Failure → Bool
  | .sourceMissing _ | .file _ | .brokenPipe | .sendTimedOut => true
  | _ => false

namespace CommandLine

/-- The version of this program. -/
def programVersion : String := "pgpsign version 0.1.0"

/-- How a run ends. -/
structure Outcome where
  exitCode : Nat
  /-- What is written for errors. -/
  errors : String
  /-- A failure that the command does not report itself. -/
  unforeseen? : Option Failure

/-- The end of a run with an exit code and nothing to report. -/
def Outcome.silent (exitCode : Nat) : Outcome := ⟨exitCode, "", none⟩

/-- What a human is asked. -/
def promptText : String := "GPG Passphrase: "

/-- Asks until a line is not empty; the end of the input aborts the run. -/
def askLines : List String → Act String
  | [] => do
      Act.display (promptText ++ "\n\n")
      throw .aborted
  | line :: lines => do
      Act.display (promptText ++ "\n")
      modify fun w => { w with typed := lines }
      if line = "" then askLines lines else return line

/-- Asks a human for a passphrase. -/
def prompt : Act RawText := do
  modify fun w => { w with prompts := w.prompts + 1 }
  return .ofString (← askLines (← get).typed)

/-- The lines of what a human types. -/
def typedLines (input : String) : List String :=
  let lines := Text.separated '\n' (VariableFile.withLineFeeds input.toList)
  (if lines.getLast? = some [] then lines.dropLast else lines).map String.ofList

/-- The file of variables in the working directory. -/
def variableFile : Path := .ofText ".env"

/-- The text of the file of variables, if there is one. Its malformed statements are reported. -/
def variableText : Act (Option (List Char)) := do
  unless ← Act.isFile variableFile do return none
  let some text := Text.Utf8.decode? (← Act.readFile variableFile) | throw .undecodable
  (VariableFile.malformedLines text).forM fun line =>
    Act.report .variableFile .warning
      s!"python-dotenv could not parse statement starting at line {line}"
  return some text

/-- The settings of the user. -/
def loadSettings (given : SettingValues) (environment : List (String × RawText)) :
    Act Settings := do
  let text? ← variableText
  Act.ofExcept (Settings.ofSources given environment text?)

/-- The settings with what a command line overrides. -/
def Overrides.apply (overrides : Overrides) (settings : Settings) : Settings :=
  { settings with
    signer := overrides.signer?.getD settings.signer
    keyName? := overrides.keyName?.or settings.keyName?
    home? := overrides.home?.or settings.home?
    interactive := settings.interactive && !overrides.batch
    outputDirectory? := overrides.outputDirectory?.or settings.outputDirectory? }

/-- The signer of the user. Only variables that are texts are taken for paths. -/
def makeBackend (settings : Settings) (environment : Variables) : Act Backend :=
  Backend.ofSettings settings environment (fun name => (environment name).bind RawText.text?)
    (some prompt)

/-- Signs files and shows where the signatures are. -/
def sign (settings : Settings) (environment : Variables) (files : List Path)
    (buildDirectory? : Option Path) : Act Unit := do
  let backend ← makeBackend settings environment
  let base ← Act.workingPath
  let layout := Layout.ofPaths base settings.outputDirectory? buildDirectory? (some base)
  for artifact in ← Batch.signFiles backend.signer layout files do
    Act.display s!"✅ Signed {artifact.source.text} -> {artifact.signature.text}\n"

/-- Shows which key would sign. -/
def introduceKey (settings : Settings) (environment : Variables) : Act Unit := do
  let backend ← makeBackend settings environment
  let signer := backend.signer
  signer.prepare
  let key ← signer.describe
  Act.display s!"Signer: {signer.name}\nKey: {key}\n"

/-- Shows the version of the tool. -/
def showToolVersion (settings : Settings) (executable? : Option String) : Act Unit := do
  let chosen? := executable?.or (Gpg.nonEmpty settings.executable?)
  let executable := chosen?.getD Gpg.defaultExecutable
  let version ← Gpg.probe executable settings.toolLimit?
  Act.display s!"{executable} {version.text}\n"

/-- What is reported about the work: warnings only, unless details are wanted. -/
def reportText (w : World) : String :=
  if w.detailed then String.join (w.log.map (LogEntry.detailedLine w.now))
  else String.join ((w.log.filter LogEntry.isWarning).map LogEntry.plainLine)

/-- Does the work of a command and ends with the report on it. `foreseen` are the failures that the
command itself reports. -/
def conclude (foreseen : Failure → Bool) (work : Act Unit) (w : World) : Outcome × World :=
  match work w with
  | .ok _ w => (⟨0, reportText w, none⟩, w)
  | .error .aborted w => (⟨1, reportText w ++ "Aborted.\n", none⟩, w)
  | .error failure w =>
      if foreseen failure then
        let text := Text.plainText (failure.message?.getD "")
        (⟨1, reportText w ++ s!"Error: {text}\n", none⟩, w)
      else (⟨1, reportText w, some failure⟩, w)

/-- Runs a command with the settings of the user. A failure to make these is never foreseen. -/
def runCommand (environment : List (String × RawText)) (command : Command) (w : World) :
    Outcome × World :=
  let lookup (name : String) := environment.lookup name
  match loadSettings [] environment w with
  | .error failure w => (⟨1, reportText w, some failure⟩, w)
  | .ok settings w =>
      let reported (failure : Failure) := failure.isSigning || failure.isSystem
      match command with
      | .sign files overrides buildDirectory? =>
          conclude reported (sign (overrides.apply settings) lookup files buildDirectory?) w
      | .keyInfo overrides =>
          conclude reported (introduceKey (overrides.apply settings) lookup) w
      | .toolVersion executable? =>
          conclude Failure.isSigning (showToolVersion settings executable?) w

/-- Runs a command line. -/
def run (environment : List (String × RawText)) (words : List String) (w : World) :
    Outcome × World :=
  match Request.ofWords words with
  | .misuse => (.silent 2, w)
  | .help => (.silent 0, w)
  | .version => (.silent 0, { w with shown := w.shown ++ programVersion ++ "\n" })
  | .run command verbose => runCommand environment command { w with detailed := verbose }

end CommandLine

end ArtifactSigning
