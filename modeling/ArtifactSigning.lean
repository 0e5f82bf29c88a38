import ArtifactSigning.Agent.Conversation
import ArtifactSigning.Agent.Request
import ArtifactSigning.Armor.Block
import ArtifactSigning.Armor.Checksum
import ArtifactSigning.Bytes
import ArtifactSigning.Cipher.Aes
import ArtifactSigning.Cipher.Blowfish
import ArtifactSigning.Cipher.Camellia
import ArtifactSigning.Cipher.Cast5
import ArtifactSigning.Cipher.Cast5Tables
import ArtifactSigning.Cipher.Feedback
import ArtifactSigning.Cipher.Suite
import ArtifactSigning.Cipher.TripleDes
import ArtifactSigning.CommandLine.Arguments
import ArtifactSigning.CommandLine.Command
import ArtifactSigning.CommandLine.Run
import ArtifactSigning.Credential.CacheId
import ArtifactSigning.Credential.Fingerprint
import ArtifactSigning.Credential.Loader
import ArtifactSigning.Credential.Resolver
import ArtifactSigning.Decimal.Binary64
import ArtifactSigning.Decimal.Numeral
import ArtifactSigning.Decimal.Shortest
import ArtifactSigning.Digest.Algorithm
import ArtifactSigning.Digest.Keyed
import ArtifactSigning.Digest.Md5
import ArtifactSigning.Digest.Ripemd160
import ArtifactSigning.Digest.Sha1
import ArtifactSigning.Digest.Sha256
import ArtifactSigning.Digest.Sha512
import ArtifactSigning.Digest.Shake256
import ArtifactSigning.Digest.Stream
import ArtifactSigning.Failure
import ArtifactSigning.File.Path
import ArtifactSigning.File.Tree
import ArtifactSigning.Gpg.Command
import ArtifactSigning.Gpg.Signer
import ArtifactSigning.Gpg.Version
import ArtifactSigning.Key.Algorithm
import ArtifactSigning.Key.Primitives
import ArtifactSigning.Key.PrivateKey
import ArtifactSigning.Key.PublicPart
import ArtifactSigning.Key.Ring
import ArtifactSigning.Key.SecretKey
import ArtifactSigning.Key.StringToKey
import ArtifactSigning.Key.Unlock
import ArtifactSigning.Log
import ArtifactSigning.Main
import ArtifactSigning.Packet.Cursor
import ArtifactSigning.Packet.Frame
import ArtifactSigning.Packet.Integer
import ArtifactSigning.Power
import ArtifactSigning.Proofs.Agent.ByAnswers
import ArtifactSigning.Proofs.Agent.Commands
import ArtifactSigning.Proofs.Agent.CutAnswers
import ArtifactSigning.Proofs.Agent.Exchange
import ArtifactSigning.Proofs.Agent.Fields
import ArtifactSigning.Proofs.Agent.Offers
import ArtifactSigning.Proofs.Agent.Refusals
import ArtifactSigning.Proofs.Agent.Request
import ArtifactSigning.Proofs.Agent.Verdict
import ArtifactSigning.Proofs.Agent.Writing
import ArtifactSigning.Proofs.Armor.Block
import ArtifactSigning.Proofs.Armor.Checksum
import ArtifactSigning.Proofs.Armor.Damage
import ArtifactSigning.Proofs.Armor.Document
import ArtifactSigning.Proofs.Armor.Headers
import ArtifactSigning.Proofs.Armor.Recognition
import ArtifactSigning.Proofs.Bits
import ArtifactSigning.Proofs.Bytes
import ArtifactSigning.Proofs.Cipher.Feedback
import ArtifactSigning.Proofs.Credential.AgentSearch
import ArtifactSigning.Proofs.Credential.Asking
import ArtifactSigning.Proofs.Credential.Consultation
import ArtifactSigning.Proofs.Credential.Fingerprint
import ArtifactSigning.Proofs.Credential.Resolution
import ArtifactSigning.Proofs.File.Atomicity
import ArtifactSigning.Proofs.File.Confinement
import ArtifactSigning.Proofs.File.Keeping
import ArtifactSigning.Proofs.File.Replacement
import ArtifactSigning.Proofs.File.Spelling
import ArtifactSigning.Proofs.File.Tree
import ArtifactSigning.Proofs.Gpg.Banner
import ArtifactSigning.Proofs.Gpg.CommandLine
import ArtifactSigning.Proofs.Gpg.DottedNumber
import ArtifactSigning.Proofs.Gpg.ErrorReport
import ArtifactSigning.Proofs.Gpg.VersionOrder
import ArtifactSigning.Proofs.Gpg.VersionText
import ArtifactSigning.Proofs.Key.Concatenation
import ArtifactSigning.Proofs.Key.Derivation
import ArtifactSigning.Proofs.Key.DerivedKey
import ArtifactSigning.Proofs.Key.ForeignPackets
import ArtifactSigning.Proofs.Key.MaterialFaults
import ArtifactSigning.Proofs.Key.Primitives
import ArtifactSigning.Proofs.Key.RingDescription
import ArtifactSigning.Proofs.Key.RingStructure
import ArtifactSigning.Proofs.Key.SecretKeyForm
import ArtifactSigning.Proofs.Key.SecretKeyParts
import ArtifactSigning.Proofs.Key.UnhashedAreas
import ArtifactSigning.Proofs.Key.UnlockOutcomes
import ArtifactSigning.Proofs.Key.Unlocking
import ArtifactSigning.Proofs.Key.Validity
import ArtifactSigning.Proofs.Packet.Cutting
import ArtifactSigning.Proofs.Packet.Framing
import ArtifactSigning.Proofs.Packet.Integer
import ArtifactSigning.Proofs.Packet.Operations
import ArtifactSigning.Proofs.Packet.Outcomes
import ArtifactSigning.Proofs.Packet.Places
import ArtifactSigning.Proofs.Packet.Reading
import ArtifactSigning.Proofs.Packet.Truncation
import ArtifactSigning.Proofs.Signature.Areas
import ArtifactSigning.Proofs.Signature.Calls
import ArtifactSigning.Proofs.Signature.Detached
import ArtifactSigning.Proofs.Signature.Fields
import ArtifactSigning.Proofs.Signature.WrittenProperties
import ArtifactSigning.Proofs.Signing.AllOrNothing
import ArtifactSigning.Proofs.Signing.BatchEffects
import ArtifactSigning.Proofs.Signing.BatchMode
import ArtifactSigning.Proofs.Signing.BatchOrder
import ArtifactSigning.Proofs.Signing.Confinement
import ArtifactSigning.Proofs.Signing.Contacts
import ArtifactSigning.Proofs.Signing.Embedded
import ArtifactSigning.Proofs.Signing.Nearest
import ArtifactSigning.Proofs.Signing.PassphraseSecrecy
import ArtifactSigning.Proofs.Signing.Placement
import ArtifactSigning.Proofs.Signing.Steps
import ArtifactSigning.Proofs.Signing.Turns
import ArtifactSigning.Proofs.Step
import ArtifactSigning.Proofs.Text.Digit
import ArtifactSigning.Proofs.Text.Hex
import ArtifactSigning.Proofs.Text.Lines
import ArtifactSigning.Proofs.Text.Radix64
import ArtifactSigning.Proofs.Text.Raw
import ArtifactSigning.Proofs.Text.Separated
import ArtifactSigning.Proofs.Text.Spacing
import ArtifactSigning.Proofs.Text.Stripping
import ArtifactSigning.Proofs.Text.Utf8
import ArtifactSigning.PublicKey.Curve
import ArtifactSigning.PublicKey.Dsa
import ArtifactSigning.PublicKey.Ecdsa
import ArtifactSigning.PublicKey.Edwards
import ArtifactSigning.PublicKey.Lucas
import ArtifactSigning.PublicKey.Modular
import ArtifactSigning.PublicKey.NamedCurve
import ArtifactSigning.PublicKey.Nonce
import ArtifactSigning.PublicKey.Prime
import ArtifactSigning.PublicKey.Rsa
import ArtifactSigning.PublicKey.SignaturePair
import ArtifactSigning.Settings.Reading
import ArtifactSigning.Settings.Sources
import ArtifactSigning.Settings.VariableFile
import ArtifactSigning.Signature.Detached
import ArtifactSigning.Signature.SelfSignature
import ArtifactSigning.Signature.Subpacket
import ArtifactSigning.Signing.Backend
import ArtifactSigning.Signing.Batch
import ArtifactSigning.Signing.Embedded
import ArtifactSigning.Signing.Layout
import ArtifactSigning.Text.Blank
import ArtifactSigning.Text.CaseTable
import ArtifactSigning.Text.Digit
import ArtifactSigning.Text.Hex
import ArtifactSigning.Text.Json
import ArtifactSigning.Text.Lines
import ArtifactSigning.Text.Lower
import ArtifactSigning.Text.Plain
import ArtifactSigning.Text.Printable
import ArtifactSigning.Text.Quoted
import ArtifactSigning.Text.Radix64
import ArtifactSigning.Text.Raw
import ArtifactSigning.Text.Separated
import ArtifactSigning.Text.ShellWord
import ArtifactSigning.Text.Utf8
import ArtifactSigning.Time.Calendar
import ArtifactSigning.Time.Seconds
import ArtifactSigning.World
