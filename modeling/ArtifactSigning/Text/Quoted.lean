import ArtifactSigning.Text.Hex
import ArtifactSigning.Text.Printable

/-!
# Quoted text

`quote` writes a text between quotation marks on one line, with backslash escapes for the marks,
the backslash and everything that is not printable, so that a message can show any text safely.
-/
namespace ArtifactSigning.Text

/-- `width` hexadecimal digits of a number. -/
def paddedHex (width n : Nat) : List Char :=
  let digits := Hex.ofNat n
  List.replicate (width - digits.length) '0' ++ digits

/-- One character inside quotation marks `mark`. -/
def escapeQuoted (mark c : Char) : List Char :=
  if c = mark ∨ c = '\\' then ['\\', c]
  else if c = '\t' then ['\\', 't']
  else if c = '\n' then ['\\', 'n']
  else if c = '\r' then ['\\', 'r']
  else if isPrintable c then [c]
  else if c.toNat < 0x100 then ['\\', 'x'] ++ paddedHex 2 c.toNat
  else if c.toNat < 0x10000 then ['\\', 'u'] ++ paddedHex 4 c.toNat
  else ['\\', 'U'] ++ paddedHex 8 c.toNat

/-- The mark around a text: single, unless the text holds single marks and no double ones. -/
def quoteMark (text : List Char) : Char :=
  if text.contains '\'' && !text.contains '"' then '"' else '\''

/-- A text between quotation marks, on one line. -/
def quote (text : List Char) : List Char :=
  let mark := quoteMark text
  mark :: text.flatMap (escapeQuoted mark) ++ [mark]

/-- A list of texts in brackets, each quoted. -/
def quoteList (texts : List (List Char)) : List Char :=
  '[' :: [',', ' '].intercalate (texts.map quote) ++ [']']

end ArtifactSigning.Text
