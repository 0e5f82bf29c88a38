import ArtifactSigning.Proofs.Armor.Block
import ArtifactSigning.Proofs.Text.Utf8

/-!
# Documents of prose and armored blocks

A document is a sequence of passages, each of them prose and an armored block, and more prose after
the last one. Prose is text that ends with its last line and opens no block. Whatever it says, and
however the lines of the document are written, the document is read as the octets of its blocks
(`decode_document`).
-/
namespace ArtifactSigning.Armor

open Text

/-- Prose and the block after it. -/
structure Passage where
  prose : List Char
  bytes : Bytes
  label : String

/-- A passage as it is written. -/
def Passage.text (p : Passage) : List Char := p.prose ++ (encode p.bytes p.label []).toList

/-- Passages and the prose after the last one. -/
def documentText (passages : List Passage) (closing : List Char) : List Char :=
  passages.flatMap Passage.text ++ closing

/-- A text that ends with its last line, no line of which opens a block. -/
structure IsProse (text : List Char) : Prop where
  endsLine : EndsLine text
  not_isOpening : ∀ line ∈ strippedLines text, isOpening line = false

variable {passages : List Passage} {payloads : List Bytes} {label : String}
  {document closing text : List Char}

/-- A written block begins with a dash and ends with a line feed. -/
theorem ends_encode (bytes : Bytes) (label : String) :
    (encode bytes label []).toList.head? = some '-' ∧
      (encode bytes label []).toList.getLast? = some '\n' := by
  have hlines : blockLines bytes label [] = markLine openingMark label ::
      ([] :: (pieces lineWidth (Radix64.encode bytes) ++ ['=' :: checksumText bytes]) ++
        [markLine closingMark label]) := by
    simp [blockLines_eq, linesOfBlock]
  rw [encode, String.toList_ofList, hlines]
  constructor
  · rfl
  · rw [← List.cons_append, List.flatMap_append, List.getLast?_append]
    simp

/-- The lines of a passage and of what follows it. -/
theorem strippedLines_passage {p : Passage} (hprose : EndsLine p.prose) (hlabel : IsLabel p.label)
    (rest : List Char) :
    strippedLines (p.text ++ rest) =
      strippedLines p.prose ++ (blockLines p.bytes p.label [] ++ strippedLines rest) := by
  obtain ⟨hfirst, hlast⟩ := ends_encode p.bytes p.label
  have hblock : EndsLine (encode p.bytes p.label []).toList := by
    intro c hc
    rw [hlast] at hc
    cases hc
    decide
  rw [Passage.text, List.append_assoc, strippedLines_append hprose, strippedLines_append hblock,
    strippedLines_encode p.bytes hlabel]
  · intro hreturn
    rw [hlast] at hreturn
    cases hreturn
  · intro _ hnewline
    rw [List.head?_append, hfirst] at hnewline
    cases hnewline

/-- A reader outside all blocks passes over prose. -/
theorem readLines_prose {lines : List (List Char)} (h : ∀ line ∈ lines, isOpening line = false) :
    lines.foldlM readLine ⟨.outside, payloads⟩ = .ok ⟨.outside, payloads⟩ := by
  induction lines with
  | nil => rfl
  | cons line lines ih =>
      have hline : readLine ⟨.outside, payloads⟩ line = .ok ⟨.outside, payloads⟩ := by
        simp [readLine, h line List.mem_cons_self]
      rw [List.foldlM_cons, hline]
      exact ih fun other hother => h other (.tail _ hother)

/-- A reader outside all blocks reads a document as the octets of its blocks. -/
theorem readLines_document
    (hpassages : ∀ p ∈ passages, IsProse p.prose ∧ IsLabel p.label) (hclosing : IsProse closing) :
    (strippedLines (documentText passages closing)).foldlM readLine ⟨.outside, payloads⟩ =
      .ok ⟨.outside, (passages.map (·.bytes)).reverse ++ payloads⟩ := by
  induction passages generalizing payloads with
  | nil => exact readLines_prose hclosing.not_isOpening
  | cons p passages ih =>
      obtain ⟨hprose, hlabel⟩ := hpassages p List.mem_cons_self
      have hlines : strippedLines (documentText (p :: passages) closing) =
          strippedLines p.prose ++ (blockLines p.bytes p.label [] ++
            strippedLines (documentText passages closing)) := by
        rw [← strippedLines_passage hprose.endsLine hlabel]
        simp [documentText]
      have hrest : (strippedLines (documentText passages closing)).foldlM readLine
          ⟨.outside, p.bytes :: payloads⟩ =
            .ok ⟨.outside, (passages.map (·.bytes)).reverse ++ p.bytes :: payloads⟩ :=
        ih fun other hother => hpassages other (.tail _ hother)
      rw [hlines, List.foldlM_append, readLines_prose hprose.not_isOpening]
      change List.foldlM readLine ⟨.outside, payloads⟩ _ = _
      rw [List.foldlM_append, readLine_blockLines hlabel]
      change List.foldlM readLine ⟨.outside, p.bytes :: payloads⟩ _ = _
      rw [hrest]
      simp

/-- How the lines of a document are written does not matter. -/
theorem decode_respelled {spelled : List Char} (h : Respelled document spelled) :
    decode spelled = decode document := by
  have hlines := strippedLines_of_respelled h
  rw [strippedLines, strippedLines] at hlines
  rw [decode, decode, hlines]

theorem decode_documentText (hsome : passages ≠ [])
    (hpassages : ∀ p ∈ passages, IsProse p.prose ∧ IsLabel p.label) (hclosing : IsProse closing) :
    decode (documentText passages closing) = .ok (passages.flatMap (·.bytes)) := by
  have hread := decode_of_readLines (readLines_document hpassages hclosing) (by simpa using hsome)
  simpa [List.flatMap] using hread

/-- A document is read as the octets of its blocks, one after the other. The prose around them does
not count, nor do spaces and tabulators around lines, the kind of the line breaks, or whether the
document is given as a text or as its octets. -/
theorem decode_document (hsome : passages ≠ [])
    (hpassages : ∀ p ∈ passages, IsProse p.prose ∧ IsLabel p.label) (hclosing : IsProse closing) :
    decode (documentText passages closing) = .ok (passages.flatMap (·.bytes)) ∧
      decodeBytes (Utf8.encode (documentText passages closing)) =
        .ok (passages.flatMap (·.bytes)) ∧
      ∀ spelled, Respelled (documentText passages closing) spelled →
        decode spelled = .ok (passages.flatMap (·.bytes)) ∧
          decodeBytes (Utf8.encode spelled) = .ok (passages.flatMap (·.bytes)) := by
  have hread := decode_documentText hsome hpassages hclosing
  have hbytes (text : List Char) : decodeBytes (Utf8.encode text) = decode text := by
    rw [decodeBytes, Utf8.decodeLossy_encode]
  refine ⟨hread, by rw [hbytes, hread], fun spelled h => ?_⟩
  rw [hbytes, decode_respelled h]
  exact ⟨hread, hread⟩

theorem isProse_nil : IsProse [] :=
  ⟨by simp [EndsLine], by simp [strippedLines, splitLines]⟩

/-- Two blocks, the second one without octets, under a line that closes no block. -/
def sealedLetter : List Passage :=
  [⟨"-----END PGP NOTE-----\r\n".toList, [0xFB, 0xEF], "PRIVATE KEY BLOCK"⟩, ⟨[], [], "A/1, B"⟩]

theorem decode_document_of_two_blocks :
    sealedLetter ≠ [] ∧ (∀ p ∈ sealedLetter, IsProse p.prose ∧ IsLabel p.label) ∧
      IsProse "\u2028".toList ∧
      decode (documentText sealedLetter "\u2028".toList) = .ok [0xFB, 0xEF] ∧
      decodeBytes (Utf8.encode (documentText sealedLetter "\u2028".toList)) = .ok [0xFB, 0xEF] ∧
      ∀ spelled, Respelled (documentText sealedLetter "\u2028".toList) spelled →
        decode spelled = .ok [0xFB, 0xEF] ∧
          decodeBytes (Utf8.encode spelled) = .ok [0xFB, 0xEF] := by
  have hletter : IsProse "-----END PGP NOTE-----\r\n".toList := by
    have hlines : strippedLines "-----END PGP NOTE-----\r\n".toList =
        ["-----END PGP NOTE-----".toList] := by decide +kernel
    refine ⟨by simp [EndsLine]; decide, ?_⟩
    rw [hlines]
    decide
  have hclosing : IsProse "\u2028".toList := by
    have hlines : strippedLines "\u2028".toList = [[]] := by decide +kernel
    refine ⟨by simp [EndsLine]; decide, ?_⟩
    rw [hlines]
    decide
  have hpassages : ∀ p ∈ sealedLetter, IsProse p.prose ∧ IsLabel p.label := by
    intro p hp
    simp only [sealedLetter, List.mem_cons, List.not_mem_nil, or_false] at hp
    rcases hp with rfl | rfl
    · exact ⟨hletter, by decide, by decide⟩
    · exact ⟨isProse_nil, by decide, by decide⟩
  exact ⟨by simp [sealedLetter], hpassages, hclosing,
    decode_document (by simp [sealedLetter]) hpassages hclosing⟩

end ArtifactSigning.Armor
