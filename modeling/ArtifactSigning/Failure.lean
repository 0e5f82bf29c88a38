import ArtifactSigning.Text.Quoted
import ArtifactSigning.Text.Raw
import ArtifactSigning.Time.Calendar
import ArtifactSigning.Time.Seconds

/-!
# What can go wrong

Every failure of the library is a value of `Failure`, sorted by cause. `Failure.message` gives the
wording; failures that only name a broken rule of a data format have none.
-/
namespace ArtifactSigning

/-- Why key material is not valid secret key data. -/
inductive FormatFault where
  | unterminatedArmor
  | noArmor
  | invalidRadix64
  | invalidArmorChecksum
  | armorChecksumMismatch
  | truncated
  | invalidHeader (octet : UInt8) (offset : Nat)
  | emptySubpacket
  | publicKey
  | unexpectedPacket (tag : Nat)
  | noSecretKey
  | secretChecksumMismatch
  deriving DecidableEq, Repr

/-- What the library does not handle. -/
inductive UnsupportedFault where
  | hash (id : Int)
  | signatureHash (id : Int)
  | specifier (kind : Int)
  | specifierExtension
  | derivation (kind : Int)
  | keyVersion (version : Nat)
  | authenticatedProtection
  | cipher (id : Nat)
  | publicKeyAlgorithm (id : Nat)
  | curve (identifier : Bytes)
  | edwardsCurve
  | signing (algorithm : String)
  | signingKey (fingerprint algorithm : String)
  deriving DecidableEq, Repr

/-- Why a protected secret key stays locked. -/
inductive DecryptionFault where
  | checksumMismatch
  | invalidMaterial
  deriving DecidableEq, Repr

/-- Which credential is missing. -/
inductive CredentialFault where
  | noMaterial
  | noKey
  | noPrivateKey
  | noPassphrase
  deriving DecidableEq, Repr

/-- Which configuration value is malformed or conflicts with another. -/
inductive ConfigurationFault where
  | fingerprintLength (length : Nat)
  | fingerprintDigits
  | unknownSigner (name : String)
  | storedPassphrase (source : String)
  | batchPassphrase
  | noPrompt
  deriving DecidableEq, Repr

/-- Why a child process does not run to its end. -/
inductive RunFault where
  | missing
  | denied
  | timedOut
  deriving DecidableEq, Repr

/-- A child process that did not run to its end. -/
inductive LaunchFault where
  | missing (executable : String)
  | denied (executable : String)
  | timedOut (command : List String) (limit : Option Time.Seconds)

/-- What went wrong with the external signing tool. -/
inductive ProcessFault where
  | probe (executable : String) (cause : LaunchFault)
  | launch (cause : LaunchFault)
  | timedOut (limit : Option Time.Seconds)
  | exit (code : Int) (detail : Option String)
  | noSignature (source : String)

/-- Why no version can be told. -/
inductive VersionFault where
  | noNumber (text : String)
  | noBanner
  deriving DecidableEq, Repr

/-- What went wrong with a passphrase agent. -/
inductive AgentFault where
  | noSocket (path : String)
  | pathTooLong (path : String)
  | greeting (line : String)
  | unexpected (line : String)
  | closed
  | timedOut
  | malformedPayload
  | refused (line : String) (code : Option Nat)
  deriving DecidableEq, Repr

/-- Which rule of the file system an operation breaks. -/
inductive FileRule where
  | missing
  | exists
  | isDirectory
  | notDirectory
  deriving DecidableEq, Repr

/-- A broken rule of the file system, the path that breaks it and, for a move, the path aimed at. -/
structure FileFault where
  rule : FileRule
  path : String
  onto : Option String := none
  deriving DecidableEq, Repr

/-- Which rule the value of a setting breaks. -/
inductive SettingRule where
  /-- It is no text. -/
  | text
  /-- It is a text with halves of characters. -/
  | characters
  | list
  | path
  /-- It is neither a switch nor a word for one. -/
  | switch
  /-- It is a word or a number that sets no switch. -/
  | switchWord
  /-- It is neither a number nor a text. -/
  | number
  /-- It is a text that spells no number. -/
  | numeral
  /-- It is not above zero. -/
  | positive
  deriving DecidableEq, Repr

/-- The place of a value among the settings, and the rule that it breaks. -/
structure SettingProblem where
  path : List String
  rule : SettingRule
  deriving DecidableEq, Repr

inductive Failure where
  | format (cause : FormatFault)
  | unsupported (cause : UnsupportedFault)
  | decryption (cause : DecryptionFault)
  | credential (cause : CredentialFault)
  | expired (instant : Nat)
  | configuration (cause : ConfigurationFault)
  | keyFileTooLarge (path : String)
  | signatureComputation
  | signatureWriting (message : String)
  | process (cause : ProcessFault)
  | version (cause : VersionFault)
  | agent (cause : AgentFault)
  /-- The file to sign does not exist. -/
  | sourceMissing (path : String)
  | file (cause : FileFault)
  /-- The other side of a connection no longer reads. -/
  | brokenPipe
  /-- The other side of a connection stays open, and has not read until the waiting limit. -/
  | sendTimedOut
  /-- A packet tag that the short header form cannot hold. -/
  | packetTag (tag : Int)
  | fingerprintSize
  /-- A value that its operation does not accept. -/
  | invalidValue
  /-- A negative number where only a magnitude can be written. -/
  | negativeNumber
  /-- A number that its fixed-width field does not hold. -/
  | fieldOverflow
  | notPrepared
  /-- A text with characters beyond ASCII where only ASCII can be written. -/
  | notAscii
  /-- A text with halves of characters where UTF-8 is written. -/
  | unencodable (fault : EncodingFault)
  /-- Octets that are not UTF-8 where a text is read. -/
  | undecodable
  /-- The user ended the input instead of answering. -/
  | aborted
  /-- A structured setting whose text is not JSON. -/
  | settingsText
  /-- Settings of the wrong kind. -/
  | settings (problems : List SettingProblem)
  /-- The user has no home directory. -/
  | noHome

def FormatFault.message : FormatFault → String
  | .unterminatedArmor => "Unterminated armored block"
  | .noArmor => "No armored OpenPGP block found"
  | .invalidRadix64 => "Invalid base64 in armored block"
  | .invalidArmorChecksum => "Invalid armor checksum line"
  | .armorChecksumMismatch => "Armor checksum mismatch"
  | .truncated => "Truncated OpenPGP data"
  | .invalidHeader octet offset =>
      let digits := String.ofList (Text.paddedHex 2 octet.toNat)
      s!"Invalid OpenPGP packet header 0x{digits} at offset {offset}"
  | .emptySubpacket => "Empty signature subpacket"
  | .publicKey => "Expected secret key material but found a public key"
  | .unexpectedPacket tag => s!"Unexpected packet (tag {tag}) before secret key"
  | .noSecretKey => "No secret key found in key ring material"
  | .secretChecksumMismatch => "Secret key checksum mismatch"

def UnsupportedFault.message : UnsupportedFault → String
  | .hash id => s!"Unsupported hash algorithm {id}"
  | .signatureHash id => s!"Unsupported signature hash {id}"
  | .specifier kind => s!"Unsupported S2K type {kind}"
  | .specifierExtension => "Unknown S2K extension"
  | .derivation kind => s!"Cannot derive a key with S2K type {kind}"
  | .keyVersion version => s!"Unsupported secret key version {version}"
  | .authenticatedProtection => "AEAD protected secret keys are not supported"
  | .cipher id => s!"Unsupported symmetric algorithm {id}"
  | .publicKeyAlgorithm id => s!"Unsupported public key algorithm {id}"
  | .curve identifier =>
      let digits := String.ofList (Text.Hex.encode identifier)
      s!"Unsupported ECDSA curve {digits}"
  | .edwardsCurve => "Unsupported EdDSA curve"
  | .signing algorithm => s!"Key algorithm {algorithm} cannot create signatures"
  | .signingKey fingerprint algorithm =>
      s!"Key {fingerprint} ({algorithm}) cannot create signatures"

def DecryptionFault.message : DecryptionFault → String
  | .checksumMismatch => "Secret key checksum mismatch, wrong passphrase?"
  | .invalidMaterial => "Invalid secret key material"

def CredentialFault.message : CredentialFault → String
  | .noMaterial => "Key ring material not found"
  | .noKey => "Secret key not found"
  | .noPrivateKey => "Private key not found in secret key"
  | .noPassphrase => "Secret key is encrypted but no key passphrase provided"

def ConfigurationFault.message : ConfigurationFault → String
  | .fingerprintLength length => s!"Key fingerprint must be 40 hex characters, got {length}"
  | .fingerprintDigits => "Key fingerprint is not valid hex"
  | .unknownSigner name => s!"Unknown signer: {name}"
  | .storedPassphrase source =>
      "Do not store passphrase in any file (disk or repository), rely on GnuPG agent " ++
        s!"or provide passphrase in {source} environment variable."
  | .batchPassphrase => "Cannot obtain passphrase in batch mode"
  | .noPrompt => "No passphrase source available and prompting is not set up"

/-- A text between quotation marks. -/
def quoted (text : String) : String := String.ofList (Text.quote text.toList)

def LaunchFault.message : LaunchFault → String
  | .missing executable => "[Errno 2] No such file or directory: " ++ quoted executable
  | .denied executable => "[Errno 13] Permission denied: " ++ quoted executable
  | .timedOut command limit =>
      let list := String.ofList (Text.quoteList (command.map String.toList))
      s!"Command '{list}' timed out after {Time.limitText limit} seconds"

def ProcessFault.message : ProcessFault → String
  | .probe executable cause => s!"Failed to execute {executable}: {cause.message}"
  | .launch cause => s!"Unable to execute gpg command: {cause.message}"
  | .timedOut limit => s!"gpg timed out after {Time.limitText limit} seconds"
  | .exit code none => s!"Exit code: {code}"
  | .exit code (some detail) => s!"Exit code: {code}: {detail}"
  | .noSignature source => s!"gpg did not write a signature for {source}"

/-- The exit code that a failure of the external tool carries. -/
def ProcessFault.exitCode? : ProcessFault → Option Int
  | .exit code _ => some code
  | _ => none

def VersionFault.message : VersionFault → String
  | .noNumber text => "Can't parse version of " ++ quoted text
  | .noBanner => "Could not determine gpg version"

def AgentFault.message : AgentFault → String
  | .noSocket path =>
      s!"Cannot connect to gpg-agent at {path}: [Errno 2] No such file or directory"
  | .pathTooLong path => s!"Cannot connect to gpg-agent at {path}: AF_UNIX path too long"
  | .greeting line => s!"Expected OK greeting but got this instead: {line}"
  | .unexpected line => s!"Expected OK but got this instead: {line}"
  | .closed => "gpg-agent closed the connection unexpectedly"
  | .timedOut => "Lost connection to gpg-agent: timed out"
  | .malformedPayload => "gpg-agent returned a malformed passphrase payload"
  | .refused line _ => s!"gpg-agent refused passphrase request: {line}"

def FileRule.message : FileRule → String
  | .missing => "[Errno 2] No such file or directory"
  | .exists => "[Errno 17] File exists"
  | .isDirectory => "[Errno 21] Is a directory"
  | .notDirectory => "[Errno 20] Not a directory"

def FileFault.message (fault : FileFault) : String :=
  match fault.onto with
  | none => s!"{fault.rule.message}: {quoted fault.path}"
  | some target => s!"{fault.rule.message}: {quoted fault.path} -> {quoted target}"

/-- The wording of a failure, if it has one. -/
def Failure.message? : Failure → Option String
  | .format cause => some cause.message
  | .unsupported cause => some cause.message
  | .decryption cause => some cause.message
  | .credential cause => some cause.message
  | .expired instant => some s!"Secret key expired at: {Time.isoText instant}"
  | .configuration cause => some cause.message
  | .keyFileTooLarge path => some s!"Refusing to load key {path}; is larger than 5KB"
  | .signatureComputation => some "Failed to compute signature"
  | .signatureWriting message => some message
  | .process cause => some cause.message
  | .version cause => some cause.message
  | .agent cause => some cause.message
  | .sourceMissing path => some s!"File to sign not found: {path}"
  | .file cause => some cause.message
  | .packetTag tag => some s!"Packet tag {tag} needs a new-format header"
  | .fingerprintSize => some "A v4 fingerprint is 20 bytes long"
  | .notPrepared => some "GpgSigner.prepare() must run before building commands"
  | .brokenPipe => some "[Errno 32] Broken pipe"
  | .sendTimedOut => some "timed out"
  | .unencodable fault => some fault.message
  | .aborted => some "Aborted."
  | .invalidValue | .negativeNumber | .fieldOverflow | .notAscii | .undecodable | .settingsText
  | .settings _ | .noHome => none

end ArtifactSigning
