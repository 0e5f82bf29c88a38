import ArtifactSigning.Text.Blank
import ArtifactSigning.Text.Hex
import ArtifactSigning.Text.Utf8

/-!
# Raw texts

The values of environment variables need not be texts: an octet that belongs to no character is
kept as one half of a surrogate pair. A raw text is a list of code points, each of them a character
or such a half. `RawText.encode` writes it in UTF-8, which has octets for characters alone.
-/
namespace ArtifactSigning

/-- A character, or a half of a surrogate pair by its distance from the first one. -/
inductive CodePoint where
  | char (c : Char)
  | half (offset : Fin 0x800)
  deriving DecidableEq, Repr

namespace CodePoint

def toNat : CodePoint → Nat
  | .char c => c.toNat
  | .half offset => 0xD800 + offset

def isHalf : CodePoint → Bool
  | .char _ => false
  | .half _ => true

/-- Whether a code point is a character of some class. -/
def isIn (p : Char → Bool) : CodePoint → Bool
  | .char c => p c
  | .half _ => false

end CodePoint

abbrev RawText := List CodePoint

/-- Why a raw text has no octets: the first half among its code points, or the first and the last of
several halves in a row. -/
inductive EncodingFault where
  | single (position : Nat) (offset : Fin 0x800)
  | run (first last : Nat)
  deriving DecidableEq, Repr

namespace EncodingFault

/-- The fault of a half at the front of a text, with so many halves right behind it. -/
def front (offset : Fin 0x800) : (more : Nat) → EncodingFault
  | 0 => .single 0 offset
  | more + 1 => .run 0 (more + 1)

/-- The fault with one more character in front. -/
def shift : EncodingFault → EncodingFault
  | .single position offset => .single (position + 1) offset
  | .run first last => .run (first + 1) (last + 1)

def message : EncodingFault → String
  | .single position offset =>
      let digits := String.ofList (Text.Hex.ofNat (CodePoint.half offset).toNat)
      s!"'utf-8' codec can't encode character '\\u{digits}' in position {position}: " ++
        "surrogates not allowed"
  | .run first last =>
      s!"'utf-8' codec can't encode characters in position {first}-{last}: surrogates not allowed"

end EncodingFault

namespace RawText

/-- The raw text with these characters. -/
def ofChars (text : List Char) : RawText := text.map .char

def ofString (text : String) : RawText := ofChars text.toList

/-- The characters of a raw text, if it has no halves. -/
def characters : RawText → Except EncodingFault (List Char)
  | [] => .ok []
  | .char c :: rest =>
      match characters rest with
      | .ok text => .ok (c :: text)
      | .error fault => .error fault.shift
  | .half offset :: rest => .error (.front offset (rest.takeWhile CodePoint.isHalf).length)

/-- The octets of a raw text. -/
def encode (text : RawText) : Except EncodingFault Bytes := text.characters.map Text.Utf8.encode

/-- The raw text without any of its blanks. -/
def withoutBlanks (text : RawText) : RawText := text.filter (!·.isIn Text.isBlank)

/-- The text with these characters, if there are no halves. -/
def text? (text : RawText) : Option String := text.characters.toOption.map String.ofList

end RawText

/-- The value of an environment variable. -/
abbrev Variables := String → Option RawText

end ArtifactSigning
