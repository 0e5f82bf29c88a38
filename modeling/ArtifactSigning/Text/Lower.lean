import ArtifactSigning.Text.CaseTable

/-!
# Lower case

`lower` puts a text into lower case. A character has one lower-case form, apart from two of them:
the capital I with a dot becomes two characters, and the form of a capital sigma depends on
whether it ends a word.
-/
namespace ArtifactSigning.Text

/-- Whether one of the ranges holds a character. -/
def inRanges (ranges : List (Nat × Nat)) (c : Char) : Bool :=
  ranges.any fun (first, last) => first ≤ c.toNat && c.toNat ≤ last

/-- The lower-case form of a character, which may be the character itself. -/
def lowerChar (c : Char) : Char :=
  if c.toNat < 0x80 then c.toLower
  else
    match capitalRanges.find? fun (first, last, _) => first ≤ c.toNat && c.toNat ≤ last with
    | some (_, _, distance) => Char.ofNat (c.toNat + distance).toNat
    | none =>
        let found := alternatingRanges.any fun (first, last) =>
          first ≤ c.toNat && c.toNat ≤ last && (c.toNat - first) % 2 == 0
        if found then Char.ofNat (c.toNat + 1) else c

/-- Whether the first character that is not passed over has a case. -/
def startsCased (text : List Char) : Bool :=
  match text.dropWhile (inRanges caseIgnorableRanges) with
  | c :: _ => inRanges casedRanges c
  | [] => false

/-- Puts a text into lower case, where `before` is what precedes it, the nearest character first. -/
def lowerFrom (before : List Char) : List Char → List Char
  | [] => []
  | c :: rest =>
      let form :=
        if c = 'Σ' then [if startsCased before && !startsCased rest then 'ς' else 'σ']
        else if c = 'İ' then ['i', '\u0307']
        else [lowerChar c]
      form ++ lowerFrom (c :: before) rest

/-- A text in lower case. -/
def lower (text : String) : String := String.ofList (lowerFrom [] text.toList)

end ArtifactSigning.Text
