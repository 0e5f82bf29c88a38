import ArtifactSigning.Gpg.Signer
import ArtifactSigning.Settings.Sources
import ArtifactSigning.Signing.Embedded

/-!
# The signer that the settings ask for

The settings name one of two signers. The passphrase comes from the environment, or is left to the
agents, or is asked from a human, in this order; it never comes from the settings themselves.
-/
namespace ArtifactSigning

/-- What the embedded signer takes its credentials from. -/
structure Credentials where
  sources : List CredentialSource
  /-- Whether a human may be bothered. -/
  interactive : Bool
  passphrase? : Option RawText

/-- The resolver that asks the sources in order. -/
def Credentials.resolver (credentials : Credentials) : Resolver where
  loaders := credentials.sources.map CredentialSource.loader
  interactive := credentials.interactive
  passphrase? := credentials.passphrase?

inductive Backend where
  | gpg (options : Gpg.Options)
  | embedded (credentials : Credentials)

namespace Backend

def signer : Backend → Signer
  | .gpg options => Gpg.signer options
  | .embedded credentials => Embedded.signer credentials.resolver

/-- Fails if the settings hold a passphrase. -/
def refuseStored (settings : Settings) : Except Failure Unit :=
  match settings.passphrase? with
  | none => .ok ()
  | some passphrase =>
      if Text.strip passphrase.toList = [] then .ok ()
      else .error (.configuration (.storedPassphrase settings.passphraseVariable))

/-- Asks a human for the passphrase, if that is allowed and possible. -/
def askHuman (settings : Settings) (prompt? : Option (Act RawText)) : Act RawText := do
  unless settings.interactive do throw (.configuration .batchPassphrase)
  match prompt? with
  | none => throw (.configuration .noPrompt)
  | some prompt => prompt

/-- The passphrase; there is none if it is left to the agents. -/
def passphrase (settings : Settings) (environment : Variables) (prompt? : Option (Act RawText)) :
    Act (Option RawText) := do
  Act.ofExcept (refuseStored settings)
  match environment settings.passphraseVariable with
  | some passphrase =>
      Act.debug .setup s!"Passphrase taken from {settings.passphraseVariable}"
      return some passphrase
  | none =>
      if settings.useAgent then return none
      else return some (← askHuman settings prompt?)

/-- The agents of the user. -/
def agents (settings : Settings) (environment : Variables) (home : Path) : AgentSource where
  locations := settings.socketLocations
  home := home
  interactive := settings.interactive
  limit? := settings.agentLimit?
  environment := environment
  style := .keyId

/-- The sources of credentials: the environment, the key file and, if they are to be used, the
agents. The paths depend on `system`, the variables of the running program. -/
def sources (settings : Settings) (environment : Variables) (system : String → Option String) :
    Except Failure (List CredentialSource) := do
  let path ← settings.keyFile system
  let fixed := [.environment environment .usual, .keyFile ⟨path, settings.fingerprint?⟩]
  if settings.useAgent then
    return fixed ++ [.agents (agents settings environment (← Settings.homeDirectory system))]
  else return fixed

/-- The options for the tool. -/
def gpgOptions (settings : Settings) (passphrase? : Option RawText) : Gpg.Options where
  executable := (Gpg.nonEmpty settings.executable?).getD Gpg.defaultExecutable
  home? := settings.home?
  keyName? := settings.keyName?
  passphrase? := passphrase?
  useAgent := settings.useAgent
  interactive := settings.interactive
  defaultKeyring := settings.defaultKeyring
  secretKeyring? := settings.secretKeyring?
  publicKeyring? := settings.publicKeyring?
  lockMode? := settings.lockMode?
  arguments := settings.arguments
  limit? := settings.toolLimit?

/-- The signer that settings name. Credentials may lie in the variables of `environment`. -/
def ofSettings (settings : Settings) (environment : Variables) (system : String → Option String)
    (prompt? : Option (Act RawText)) : Act Backend := do
  if settings.signer = Gpg.name then
    return .gpg (gpgOptions settings (← passphrase settings environment prompt?))
  else if settings.signer = Embedded.name then
    let passphrase? ← passphrase settings environment prompt?
    let sources ← Act.ofExcept (sources settings environment system)
    return .embedded ⟨sources, settings.interactive, passphrase?⟩
  else throw (.configuration (.unknownSigner settings.signer))

end Backend

end ArtifactSigning
