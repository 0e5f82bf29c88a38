import ArtifactSigning.Gpg.Command
import ArtifactSigning.Signing.Batch
import ArtifactSigning.Text.ShellWord

/-!
# The signer that runs a tool

The tool is asked for its version once, because the version decides about its options. A signature
is written to a temporary file, which takes its place only after the tool has ended well.
-/
namespace ArtifactSigning.Gpg

def name : String := "gpg"

/-- What keeps a run from its end, as a cause that names the command. -/
def launchFault (command : List String) (limit? : Option Time.Seconds) : RunFault → LaunchFault
  | .missing => .missing (command.head?.getD "")
  | .denied => .denied (command.head?.getD "")
  | .timedOut => .timedOut command limit?

/-- The version in the output of a run. Both outputs have to be UTF-8. -/
def versionOf (run : ToolRun) : Except Failure Version :=
  match Text.Utf8.decode? run.output, Text.Utf8.decode? run.errorOutput with
  | some output, some _ => do
      match ← Version.ofOutput output with
      | some version => return version
      | none => throw (.version .noBanner)
  | _, _ => throw .undecodable

/-- Asks a tool for its version. -/
def probe (executable : String) (limit? : Option Time.Seconds) : Act Version := do
  let command := [executable, "--version"]
  let run ← Act.runForVersion ⟨command, none, limit?⟩
  match run.fault? with
  | some fault => throw (.process (.probe executable (launchFault command limit? fault)))
  | none =>
      let version ← Act.ofExcept (versionOf run)
      Act.debug .toolVersion s!"Detected gpg version {version.text} via {executable}"
      return version

/-- Keeps the version that the tool has. -/
def useVersion (options : Options) (version : Version) : Act Unit := do
  modify fun w => { w with version? := some version }
  Act.debug .toolSigner s!"Using gpg {version.text} ({options.executable})"

/-- Finds out the version of the tool and keeps it. -/
def prepare (options : Options) : Act Unit := do
  useVersion options (← probe options.executable options.limit?)

/-- The command line for a file. The version has to be known. -/
def commandFor (options : Options) (source destination : Path) : Act (List String) := do
  let w ← get
  match w.version? with
  | none => throw .notPrepared
  | some version =>
      if ignoresSecretKeyring options version then
        Act.report .toolSigner .warning ignoredKeyringText
      return command options version w.detailed source destination

/-- A text with a line feed at its end. -/
def asLine (text : RawText) : RawText :=
  if text.getLast? = some (.char '\n') then text else text ++ [.char '\n']

/-- What is written to the tool: the passphrase, as a line in UTF-8. -/
def inputFor (options : Options) : Except Failure (Option String) :=
  match options.passphrase? with
  | none => .ok none
  | some passphrase =>
      match (asLine passphrase).characters with
      | .ok line => .ok (some (String.ofList line))
      | .error fault => .error (.unencodable fault)

/-- The last line of a report that says anything, without the blanks at its end. -/
def lastLine? (report : Bytes) : Option String :=
  (Text.splitLines (Text.strip (Text.Utf8.decodeLossy report))).getLast?.map String.ofList

/-- Fails unless a run has ended well. -/
def checkRun (limit? : Option Time.Seconds) (command : List String) (run : ToolRun) :
    Except Failure Unit :=
  match run.fault? with
  | some .timedOut => .error (.process (.timedOut limit?))
  | some fault => .error (.process (.launch (launchFault command limit? fault)))
  | none =>
      if run.exitCode = 0 then .ok ()
      else .error (.process (.exit run.exitCode (lastLine? run.errorOutput)))

/-- Runs a command that writes to a file. -/
def run (options : Options) (command : List String) (target : Path) : Act Unit := do
  let line := String.ofList (Text.shellLine (command.map String.toList))
  Act.debug .toolSigner s!"CMD: {line}"
  let input? ← Act.ofExcept (inputFor options)
  let run ← Act.runTool ⟨command, input?, options.limit?⟩ target
  if run.fault?.isNone ∧ run.output ≠ [] then
    let text := String.ofList (Text.trimEnd Text.isBlank (Text.Utf8.decodeLossy run.output))
    Act.debug .toolSigner s!"gpg: {text}"
  Act.ofExcept (checkRun options.limit? command run)

/-- Writes the signature of a file. -/
def sign (options : Options) (source : Path) (destination? : Option Path) : Act Path := do
  if (← get).version?.isNone then prepare options
  let destination ← Act.ofExcept (Layout.destination source destination?)
  Act.replaceBy destination fun temporary => do
    run options (← commandFor options source temporary) temporary
    unless ← Act.pathExists temporary do throw (.process (.noSignature source.text))
  Act.debug .toolSigner s!"Signed {source.text} -> {destination.text}"
  return destination

/-- The key as it is introduced to the user. -/
def describe (options : Options) : String := (nonEmpty options.keyName?).getD "default key"

/-- The signer that runs a tool with the given options. -/
def signer (options : Options) : Signer where
  name := name
  prepare := prepare options
  sign := sign options
  describe := return describe options

end ArtifactSigning.Gpg
