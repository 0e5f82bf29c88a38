import ArtifactSigning.Armor.Checksum
import ArtifactSigning.Failure
import ArtifactSigning.Text.Lines
import ArtifactSigning.Text.Radix64
import ArtifactSigning.Text.Utf8

/-!
# Armored blocks

An armored block is a text form of octets: a line that opens it, header lines, an empty line,
radix-64 lines, a checksum line and a line that closes it. `encode` writes one block; `decode`
reads every block of a document and joins their payloads, whatever text stands around them.
-/
namespace ArtifactSigning.Armor

/-- The number of radix-64 characters on a line. -/
def lineWidth : Nat := 64

/-- Header lines in order of first appearance; a key that is given again takes the new value. -/
abbrev Headers := List (String × String)

/-- Gives a key a value, in its old place if it has one. -/
def Headers.put (headers : Headers) (key value : String) : Headers :=
  match headers with
  | [] => [(key, value)]
  | (k, v) :: rest =>
      if k = key then (k, value) :: rest else (k, v) :: Headers.put rest key value

/-- The header lines of a list of keys and values. -/
def Headers.ofList (entries : List (String × String)) : Headers :=
  entries.foldl (fun headers (key, value) => Headers.put headers key value) []

def openingMark : List Char := "-----BEGIN PGP ".toList

def closingMark : List Char := "-----END PGP ".toList

def endMark : List Char := "-----".toList

/-- The checksum line of some octets. -/
def checksumLine (bytes : Bytes) : List Char :=
  '=' :: Text.Radix64.encode (bigEndian 3 (checksum bytes).toNat)

/-- The lines of the block that holds some octets. -/
def blockLines (bytes : Bytes) (label : String) (headers : Headers) : List (List Char) :=
  [openingMark ++ label.toList ++ endMark] ++
    (headers.map fun (key, value) => key.toList ++ [':', ' '] ++ value.toList) ++ [[]] ++
    pieces lineWidth (Text.Radix64.encode bytes) ++
    [checksumLine bytes, closingMark ++ label.toList ++ endMark]

/-- The block that holds some octets. -/
def encode (bytes : Bytes) (label : String) (headers : Headers) : String :=
  String.ofList ((blockLines bytes label headers).flatMap (· ++ ['\n']))

/-- Whether octets are a document that opens a block, after ASCII blanks. -/
def isArmored (bytes : Bytes) : Bool :=
  (openingMark.map fun c => UInt8.ofNat c.toNat).isPrefixOf
    (bytes.dropWhile fun b => Text.isAsciiBlank (Char.ofUInt8 b))

/-- The characters of a block label. -/
def isLabelChar (c : Char) : Bool :=
  c.isUpper || c.isDigit || c == ' ' || c == ',' || c == '/'

/-- Whether a line is the given mark, a label and the five dashes. -/
def isMarkLine (mark line : List Char) : Bool :=
  mark.isPrefixOf line &&
    (let rest := line.drop mark.length
    let label := rest.takeWhile isLabelChar
    label ≠ [] && rest.drop label.length == endMark)

def isOpening (line : List Char) : Bool := isMarkLine openingMark line

def isClosing (line : List Char) : Bool := isMarkLine closingMark line

/-- Whether a line holds a colon with a space after it. -/
def isHeader : List Char → Bool
  | ':' :: ' ' :: _ => true
  | _ :: rest => isHeader rest
  | [] => false

/-- Where in a document the reader stands. Inside a block's body it holds the radix-64 lines so
far, the last one first, and the text of the last checksum line. -/
inductive Position where
  | outside
  | headers
  | body (lines : List (List Char)) (checksum : Option (List Char))

/-- The payload of a block. The checksum is compared as a number, so it may have any length. -/
def decodeBlock (lines : List (List Char)) (expected : Option (List Char)) :
    Except Failure Bytes :=
  match Text.Radix64.decode? lines.reverse.flatten with
  | none => .error (.format .invalidRadix64)
  | some payload =>
      match expected with
      | none => .ok payload
      | some text =>
          match Text.Radix64.decode? text with
          | none => .error (.format .invalidArmorChecksum)
          | some sum =>
              if (checksum payload).toNat = ofBigEndian sum then .ok payload
              else .error (.format .armorChecksumMismatch)

/-- A line of a block's body: a checksum line, a radix-64 line or nothing. -/
def bodyLine (lines : List (List Char)) (checksum : Option (List Char)) (line : List Char) :
    Position :=
  if line = [] then .body lines checksum
  else if line.head? = some '=' ∧ line.length = 5 then .body lines (some line.tail)
  else .body (line :: lines) checksum

/-- A line inside a block that does not close it. Headers end at an empty line, or without one at
the first line that is no header. -/
def innerLine (position : Position) (line : List Char) : Position :=
  match position with
  | .outside => .outside
  | .headers =>
      if line = [] then .body [] none
      else if isHeader line then .headers
      else bodyLine [] none line
  | .body lines checksum => bodyLine lines checksum line

/-- The reader's position and the payloads so far, the last one first. -/
structure Progress where
  position : Position
  payloads : List Bytes

/-- One line of a document, without the blanks around it. -/
def readLine (progress : Progress) (line : List Char) : Except Failure Progress :=
  match progress.position with
  | .outside =>
      .ok { progress with position := if isOpening line then .headers else .outside }
  | .headers =>
      if isClosing line then
        (decodeBlock [] none).map fun payload => ⟨.outside, payload :: progress.payloads⟩
      else .ok { progress with position := innerLine .headers line }
  | .body lines checksum =>
      if isClosing line then
        (decodeBlock lines checksum).map fun payload => ⟨.outside, payload :: progress.payloads⟩
      else .ok { progress with position := innerLine (.body lines checksum) line }

/-- The payloads of all blocks of a document, joined. -/
def decode (document : List Char) : Except Failure Bytes := do
  let progress ← ((Text.splitLines document).map Text.strip).foldlM readLine ⟨.outside, []⟩
  match progress.position, progress.payloads with
  | .outside, [] => .error (.format .noArmor)
  | .outside, payloads => .ok payloads.reverse.flatten
  | _, _ => .error (.format .unterminatedArmor)

/-- The payloads of all blocks of a document given as octets. -/
def decodeBytes (document : Bytes) : Except Failure Bytes :=
  decode (Text.Utf8.decodeLossy document)

end ArtifactSigning.Armor
