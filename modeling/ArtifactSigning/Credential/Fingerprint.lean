import ArtifactSigning.Failure

/-!
# Fingerprints as text

A fingerprint is written as 40 hexadecimal digits of either case, with blanks anywhere between them.
-/
namespace ArtifactSigning.Fingerprint

/-- The number of digits of a fingerprint. -/
def digits : Nat := 40

/-- The fingerprint that a text spells. -/
def ofText (text : RawText) : Except Failure Bytes :=
  let cleaned := text.withoutBlanks
  if cleaned.length = digits then
    match cleaned.characters.toOption.bind Text.Hex.decode? with
    | some bytes => .ok bytes
    | none => .error (.configuration .fingerprintDigits)
  else .error (.configuration (.fingerprintLength cleaned.length))

/-- The fingerprint in a text that may be missing. -/
def ofText? : Option RawText → Except Failure (Option Bytes)
  | none => .ok none
  | some text => (ofText text).map some

end ArtifactSigning.Fingerprint
