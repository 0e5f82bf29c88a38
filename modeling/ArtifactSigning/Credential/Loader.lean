import ArtifactSigning.Credential.CacheId
import ArtifactSigning.Credential.Fingerprint
import ArtifactSigning.World

/-!
# Loaders of credentials

A loader offers key material, the fingerprint of the key to use and the passphrase of a key, each of
them if it has it. There are three sources: environment variables, a key file, and the agents of the
user.
-/
namespace ArtifactSigning

structure Loader where
  /-- The name of the source in reports. -/
  name : String
  /-- Whether asking the source may bother a human. -/
  interactive : Bool
  material : Act (Option Bytes)
  fingerprint : Act (Option Bytes)
  passphrase : SecretKey → Act (Option RawText)

/-- The names of the environment variables with credentials. -/
structure CredentialVariables where
  key : String
  fingerprint : String
  passphrase : String
  deriving DecidableEq, Repr

def CredentialVariables.usual : CredentialVariables where
  key := "PGPSIGN_SIGNING_KEY"
  fingerprint := "PGPSIGN_SIGNING_KEY_FINGERPRINT"
  passphrase := "PGPSIGN_SIGNING_KEY_PASS"

/-- Where the key file is, and the fingerprint that goes with it. -/
structure KeyFile where
  path : Path
  fingerprint? : Option String
  deriving DecidableEq, Repr

namespace KeyFile

/-- Files of this size and larger ones are no key files. -/
def sizeLimit : Nat := 5 * 1024 + 1

/-- The content of the key file, if there is one. -/
def material (file : KeyFile) : Act (Option Bytes) := do
  if ← Act.isFile file.path then
    let content ← Act.readFile file.path
    if sizeLimit ≤ content.length then throw (.keyFileTooLarge file.path.text)
    return some content
  else
    Act.debug .loaders s!"No key file at {file.path.text}"
    return none

end KeyFile

/-- The agents of a user. -/
structure AgentSource where
  /-- The sockets, seen from the home directory. -/
  locations : List String
  home : Path
  interactive : Bool
  limit? : Option Time.Seconds
  environment : Variables
  style : CacheIdStyle

namespace AgentSource

/-- The paths of the sockets, in the order in which they are tried. -/
def paths (source : AgentSource) : List Path :=
  (source.locations.filter (· ≠ "")).map fun location => source.home.join (.ofText location)

/-- The request for the passphrase of a key. A source that may not bother a human asks for cached
passphrases only. -/
def request (source : AgentSource) (key : SecretKey) : Agent.Request :=
  .usual (key.cacheId source.style) !source.interactive

/-- Asks the agents at the paths for a passphrase. An agent that cannot be talked to is passed over;
one that refuses ends the search. -/
def search (source : AgentSource) (key : SecretKey) : List Path → Act (Option RawText)
  | [] => return none
  | path :: paths => fun w =>
      match Act.askAgent path.text source.environment (source.request key) w with
      | .ok passphrase w => .ok (some (.ofString passphrase)) w
      | .error (.agent (.refused line code)) w =>
          let text := AgentFault.message (.refused line code)
          (do
            Act.debug .loaders s!"gpg-agent at {path.text} gave no passphrase: {text}"
            return none : Act (Option RawText)) w
      | .error (.agent fault) w =>
          (do
            Act.debug .loaders s!"gpg-agent at {path.text} unusable: {fault.message}"
            source.search key paths : Act (Option RawText)) w
      | .error failure w => .error failure w

end AgentSource

/-- A source of credentials. -/
inductive CredentialSource where
  | environment (lookup : Variables) (names : CredentialVariables)
  | keyFile (file : KeyFile)
  | agents (source : AgentSource)

namespace CredentialSource

def name : CredentialSource → String
  | .environment .. => "EnvironmentLoader"
  | .keyFile _ => "KeyFileLoader"
  | .agents _ => "AgentPassphraseLoader"

def interactive : CredentialSource → Bool
  | .environment .. | .keyFile _ => false
  | .agents source => source.interactive

/-- The key material of a source. An empty variable is as good as none. -/
def material : CredentialSource → Act (Option Bytes)
  | .environment lookup names =>
      match lookup names.key with
      | none | some [] => return none
      | some text => Act.ofExcept ((text.encode.mapError .unencodable).map some)
  | .keyFile file => file.material
  | .agents _ => return none

def fingerprint : CredentialSource → Act (Option Bytes)
  | .environment lookup names =>
      match lookup names.fingerprint with
      | none | some [] => return none
      | some text => Act.ofExcept ((Fingerprint.ofText text).map some)
  | .keyFile file => Act.ofExcept (Fingerprint.ofText? (file.fingerprint?.map .ofString))
  | .agents _ => return none

def passphrase (source : CredentialSource) (key : SecretKey) : Act (Option RawText) :=
  match source with
  | .environment lookup names => return lookup names.passphrase
  | .keyFile _ => return none
  | .agents source => source.search key source.paths

def loader (source : CredentialSource) : Loader where
  name := source.name
  interactive := source.interactive
  material := source.material
  fingerprint := source.fingerprint
  passphrase := source.passphrase

end CredentialSource

end ArtifactSigning
