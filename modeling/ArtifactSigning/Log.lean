import ArtifactSigning.Time.Calendar

/-!
# Log entries

What the library reports about its work, apart from results and failures. Every entry comes from one
part of the library, whose name stands in detailed reports.
-/
namespace ArtifactSigning

inductive LogLevel where
  | debug
  | info
  | warning
  deriving DecidableEq, Repr

/-- The name of a level in reports. -/
def LogLevel.name : LogLevel → String
  | .debug => "DEBUG"
  | .info => "INFO"
  | .warning => "WARNING"

/-- The parts of the library that make entries. -/
inductive LogSource where
  | agent
  | batch
  | credentials
  | embeddedSigner
  | keys
  | loaders
  | setup
  | toolSigner
  | toolVersion
  | variableFile
  deriving DecidableEq, Repr

/-- The name of a part in reports. -/
def LogSource.name : LogSource → String
  | .agent => "pgpsign.gpg.agent"
  | .batch => "pgpsign.app.signing_service"
  | .credentials => "pgpsign.app.credentials"
  | .embeddedSigner => "pgpsign.app.adapters.embedded_signer"
  | .keys => "pgpsign.openpgp.keys"
  | .loaders => "pgpsign.app.adapters.loaders"
  | .setup => "pgpsign.bootstrap"
  | .toolSigner => "pgpsign.app.adapters.gpg_signer"
  | .toolVersion => "pgpsign.gpg.version"
  | .variableFile => "dotenv.main"

structure LogEntry where
  source : LogSource
  level : LogLevel
  message : String
  deriving DecidableEq, Repr

namespace LogEntry

/-- Whether an entry is reported even if nobody asks for details. -/
def isWarning (entry : LogEntry) : Bool := entry.level = .warning

/-- An entry in a report without details. -/
def plainLine (entry : LogEntry) : String := entry.message ++ "\n"

/-- An entry that was made at an instant, in a report with details. -/
def detailedLine (now : Rat) (entry : LogEntry) : String :=
  s!"{Time.clockText now} {entry.level.name} {entry.source.name}: {entry.message}\n"

end LogEntry

end ArtifactSigning
