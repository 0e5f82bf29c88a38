import ArtifactSigning.File.Path
import ArtifactSigning.Gpg.Version
import ArtifactSigning.Text.Lower

/-!
# Command lines of the signing tool

The options of the tool differ between its versions: before 2.1 it is told whether to use an agent,
from 2.1 on how to ask for a passphrase. The passphrase itself never stands on the command line.
-/
namespace ArtifactSigning.Gpg

/-- How the tool is to be run. -/
structure Options where
  executable : String
  home? : Option Path
  keyName? : Option String
  passphrase? : Option RawText
  useAgent : Bool
  /-- Whether a human may be asked. -/
  interactive : Bool
  defaultKeyring : Bool
  secretKeyring? : Option String
  publicKeyring? : Option String
  lockMode? : Option String
  /-- Arguments that come before all others. -/
  arguments : List String
  limit? : Option Time.Seconds

/-- An option of the tool, with its argument if it has one. -/
structure ToolOption where
  name : String
  argument? : Option String
  deriving DecidableEq, Repr

def ToolOption.words (option : ToolOption) : List String :=
  option.name :: option.argument?.toList

/-- An option without an argument. -/
def flag (name : String) : ToolOption := ⟨name, none⟩

/-- An option with an argument. -/
def setting (name argument : String) : ToolOption := ⟨name, some argument⟩

/-- The executable that is run if none is named. -/
def defaultExecutable : String := "gpg"

/-- The first version that reads a passphrase only when run in batch mode. -/
def batchVersion : Version := ⟨[2, 0]⟩

/-- The first version that always uses an agent. -/
def agentVersion : Version := ⟨[2, 1]⟩

/-- A text that counts as missing when it is empty. -/
def nonEmpty (text? : Option String) : Option String := text?.filter (· ≠ "")

/-- The option for a lock mode, of which case does not matter. -/
def lockOption? (mode : String) : Option ToolOption :=
  match Text.lower mode with
  | "once" => some (flag "--lock-once")
  | "multiple" => some (flag "--lock-multiple")
  | "never" => some (flag "--lock-never")
  | _ => none

/-- Whether the options name a keyring that the version does not know any more. -/
def ignoresSecretKeyring (options : Options) (version : Version) : Bool :=
  (nonEmpty options.secretKeyring?).isSome && version.isAtLeast agentVersion

/-- What is reported about such a keyring. -/
def ignoredKeyringText : String :=
  "'secret_keyring' is an obsolete option and ignored. All secret keys " ++
    "are stored in the 'private-keys-v1.d' directory below the GnuPG home directory."

/-- How the passphrase reaches the tool. -/
def passphraseOptions (version : Version) : List ToolOption :=
  (if version.isAtLeast batchVersion then [flag "--batch"] else []) ++
    (if version.isAtLeast agentVersion then [setting "--pinentry-mode" "loopback"] else []) ++
    [setting "--passphrase-fd" "0"]

/-- How the tool is kept from asking anybody. -/
def batchOptions (options : Options) (version : Version) : List ToolOption :=
  [flag "--batch", flag "--no-tty"] ++
    (if options.passphrase?.isNone && version.isAtLeast agentVersion then
      [setting "--pinentry-mode" "error"] else [])

/-- The options between the arguments given by the user and the two files. -/
def toolOptions (options : Options) (version : Version) (detailed : Bool) : List ToolOption :=
  (options.home?.toList.map fun home => setting "--homedir" home.text) ++
    (if version.isBefore agentVersion then
      [flag (if options.useAgent then "--use-agent" else "--no-use-agent")] else []) ++
    (if options.passphrase?.isSome then passphraseOptions version else []) ++
    (options.keyName?.toList.map (setting "--local-user")) ++
    [flag "--armor", flag "--detach-sign"] ++
    (if detailed then [setting "--status-fd" "1"] else []) ++
    (if options.interactive then [] else batchOptions options version) ++
    (if options.defaultKeyring then [] else [flag "--no-default-keyring"]) ++
    (if version.isBefore agentVersion then
      (nonEmpty options.secretKeyring?).toList.map (setting "--secret-keyring") else []) ++
    ((nonEmpty options.publicKeyring?).toList.map (setting "--keyring")) ++
    (options.lockMode?.bind lockOption?).toList

/-- The command line that signs a file. -/
def command (options : Options) (version : Version) (detailed : Bool)
    (source destination : Path) : List String :=
  [options.executable] ++ options.arguments ++
    (toolOptions options version detailed).flatMap ToolOption.words ++
    ["--output", destination.text, source.text]

end ArtifactSigning.Gpg
