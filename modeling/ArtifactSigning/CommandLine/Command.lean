import ArtifactSigning.CommandLine.Arguments
import ArtifactSigning.File.Path

/-!
# Commands

There are three commands: signing files, introducing the key, and telling the version of the
external tool. `Request.ofWords` reads a command line; the first of the options that ask for help
or for the version of the program takes the place of the command.
-/
namespace ArtifactSigning.CommandLine

/-- Settings that a command line overrides. -/
structure Overrides where
  signer? : Option String
  keyName? : Option String
  home? : Option Path
  /-- Whether nobody may be asked. -/
  batch : Bool
  outputDirectory? : Option Path
  deriving DecidableEq, Repr

inductive Command where
  | sign (files : List Path) (overrides : Overrides) (buildDirectory? : Option Path)
  | keyInfo (overrides : Overrides)
  | toolVersion (executable? : Option String)
  deriving DecidableEq, Repr

/-- What a command line asks for. -/
inductive Request where
  /-- It is no command line of this program. -/
  | misuse
  | help
  | version
  | run (command : Command) (verbose : Bool)
  deriving DecidableEq, Repr

def helpForm : OptionForm := ⟨"--help", none, false⟩
def versionForm : OptionForm := ⟨"--version", some 'V', false⟩
def signerForm : OptionForm := ⟨"--signer", some 's', true⟩
def keyNameForm : OptionForm := ⟨"--key-name", some 'k', true⟩
def homeForm : OptionForm := ⟨"--homedir", none, true⟩
def batchForm : OptionForm := ⟨"--batch", none, false⟩
def outputForm : OptionForm := ⟨"--output-dir", some 'o', true⟩
def buildForm : OptionForm := ⟨"--build-dir", none, true⟩
def verboseForm : OptionForm := ⟨"--verbose", some 'v', false⟩
def executableForm : OptionForm := ⟨"--executable", some 'e', true⟩

namespace Arguments

/-- The path that an option gives. -/
def path? (arguments : Arguments) (form : OptionForm) : Option Path :=
  (arguments.value? form.long).map Path.ofText

/-- A text that an option gives; an empty one counts as missing. -/
def text? (arguments : Arguments) (form : OptionForm) : Option String :=
  (arguments.value? form.long).filter (· ≠ "")

/-- The settings that options override. -/
def overrides (arguments : Arguments) : Overrides where
  signer? := arguments.text? signerForm
  keyName? := arguments.text? keyNameForm
  home? := arguments.path? homeForm
  batch := arguments.has batchForm.long
  outputDirectory? := arguments.path? outputForm

end Arguments

namespace Request

/-- The request that the arguments of a command make, unless they ask for help. -/
def ofArguments? (arguments? : Option Arguments) (read : Arguments → Request) : Request :=
  match arguments? with
  | none => .misuse
  | some arguments => if arguments.has helpForm.long then .help else read arguments

/-- Signing needs at least one file. -/
def ofSign (words : List String) : Request :=
  let forms := [helpForm, signerForm, keyNameForm, homeForm, batchForm, outputForm, buildForm,
    verboseForm]
  ofArguments? (Arguments.ofWords? forms true words) fun arguments =>
    if arguments.operands = [] then .misuse
    else
      .run (.sign (arguments.operands.map Path.ofText) arguments.overrides
        (arguments.path? buildForm)) (arguments.has verboseForm.long)

def ofKeyInfo (words : List String) : Request :=
  let forms := [helpForm, signerForm, keyNameForm, batchForm, verboseForm]
  ofArguments? (Arguments.ofWords? forms true words) fun arguments =>
    if arguments.operands = [] then
      .run (.keyInfo arguments.overrides) (arguments.has verboseForm.long)
    else .misuse

def ofToolVersion (words : List String) : Request :=
  let forms := [helpForm, executableForm]
  ofArguments? (Arguments.ofWords? forms true words) fun arguments =>
    if arguments.operands = [] then .run (.toolVersion (arguments.text? executableForm)) false
    else .misuse

/-- What a command line asks for. -/
def ofWords (words : List String) : Request :=
  match Arguments.ofWords? [helpForm, versionForm] false words with
  | none => .misuse
  | some arguments =>
      match arguments.given, arguments.operands with
      | option :: _, _ => if option.long = versionForm.long then .version else .help
      | [], "sign" :: words => ofSign words
      | [], "key-info" :: words => ofKeyInfo words
      | [], "gpg-version" :: words => ofToolVersion words
      | [], _ => .misuse

end Request

end ArtifactSigning.CommandLine
