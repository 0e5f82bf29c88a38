import ArtifactSigning.Text.Hex

/-!
# Requests to a passphrase agent

A request is one line of words. A field of the request may hold any text, so the characters that
would end a field or the line are written as a percent sign and two digits, and a space as a plus
sign; `Agent.decodeField` reads a field back.
-/
namespace ArtifactSigning.Agent

/-- Whether a character has to be written by its number. -/
def needsEscape (c : Char) : Bool :=
  c = '%' || c = '+' || c.toNat < 0x20 || c.toNat = 0x7F

/-- The characters that stand for one character of a field. -/
def escapeChar (c : Char) : List Char :=
  if c = ' ' then ['+']
  else if needsEscape c then '%' :: Text.Hex.encodeUpper [UInt8.ofNat c.toNat]
  else [c]

/-- A field as it stands in a request. -/
def escapeField (field : List Char) : List Char := field.flatMap escapeChar

/-- The text behind a field of a request. -/
def decodeField : List Char → List Char
  | '+' :: rest => ' ' :: decodeField rest
  | '%' :: high :: low :: rest =>
      match Text.Hex.value? high, Text.Hex.value? low with
      | some high, some low => Char.ofNat (high * 16 + low) :: decodeField rest
      | _, _ => '%' :: high :: low :: decodeField rest
  | c :: rest => c :: decodeField rest
  | [] => []

/-- A request for the passphrase that is kept under a name. -/
structure Request where
  cacheId : String
  /-- Answer from the cache alone and ask nobody. -/
  noAsk : Bool
  errorMessage : String
  label : String
  description : String
  deriving DecidableEq, Repr

namespace Request

def usualErrorMessage : String := "Passphrase incorrect"

def usualLabel : String := "GnuPG Key Passphrase"

def usualDescription (cacheId : String) : String :=
  "Enter passphrase for encrypted GnuPG key " ++ cacheId ++ " to use it for signing artifacts"

/-- A request with the usual texts. -/
def usual (cacheId : String) (noAsk : Bool) : Request where
  cacheId
  noAsk
  errorMessage := usualErrorMessage
  label := usualLabel
  description := usualDescription cacheId

/-- The four fields in their order. -/
def fields (r : Request) : List (List Char) :=
  [r.cacheId, r.errorMessage, r.label, r.description].map String.toList

/-- The words of the request. -/
def words (r : Request) : List (List Char) :=
  ["GET_PASSPHRASE".toList] ++ (if r.noAsk then ["--no-ask".toList] else []) ++
    r.fields.map escapeField

/-- The request as a line without its end. -/
def line (r : Request) : List Char := [' '].intercalate r.words

end Request

/-- The environment variables that tell the agent where to ask, with the names of its options. -/
def optionVariables : List (String × String) :=
  [("DISPLAY", "display"), ("GPG_TTY", "ttyname"), ("TERM", "ttytype")]

end ArtifactSigning.Agent
