import ArtifactSigning.Armor.Block
import ArtifactSigning.Proofs.Bytes
import ArtifactSigning.Proofs.Text.Radix64
import ArtifactSigning.Proofs.Text.Spacing

/-!
# Armored blocks are read back

The lines of a written block are told apart by their first characters and their lengths: a mark line
begins with a dash, a checksum line has five characters and begins with the padding mark, and the
number of characters on a radix-64 line is a multiple of four.
-/
namespace ArtifactSigning.Armor

open Text

variable {bytes : Bytes} {label : String}

/-- A label that mark lines can carry. -/
def IsLabel (label : String) : Prop := label ≠ "" ∧ label.toList.all isLabelChar = true

/-- The line with a mark, a label and the five dashes. -/
def markLine (mark : List Char) (label : String) : List Char := mark ++ label.toList ++ endMark

theorem isMarkLine_markLine (mark : List Char) (h : IsLabel label) :
    isMarkLine mark (markLine mark label) = true := by
  have hprefix : mark.isPrefixOf (markLine mark label) = true := by
    rw [List.isPrefixOf_iff_prefix, markLine, List.append_assoc]
    exact List.prefix_append _ _
  have hrest : (markLine mark label).drop mark.length = label.toList ++ endMark := by
    rw [markLine, List.append_assoc, List.drop_left]
  have hlabel : (label.toList ++ endMark).takeWhile isLabelChar = label.toList := by
    rw [List.takeWhile_append_of_pos (List.all_eq_true.1 h.2)]
    simp [endMark, isLabelChar]
  have hne : label.toList ≠ [] := by
    simpa using h.1
  simp [isMarkLine, hprefix, hrest, hlabel, hne]

/-- A mark line begins with a dash. -/
theorem isMarkLine_eq_false {mark line : List Char} (hmark : mark.head? = some '-')
    (h : line.head? ≠ some '-') : isMarkLine mark line = false := by
  have hprefix : mark.isPrefixOf line = false := by
    rw [Bool.eq_false_iff, ne_eq, List.isPrefixOf_iff_prefix]
    rintro ⟨rest, rfl⟩
    rw [List.head?_append, hmark] at h
    exact h rfl
  rw [isMarkLine, hprefix, Bool.false_and]

theorem isClosing_eq_false {line : List Char} (h : line.head? ≠ some '-') :
    isClosing line = false := isMarkLine_eq_false rfl h

/-- The lines that radix-64 text is cut into. -/
structure IsRadixLine (line : List Char) : Prop where
  ne_nil : line ≠ []
  four_dvd : 4 ∣ line.length
  plain : ∀ c ∈ line, Radix64.IsPlain c

theorem IsRadixLine.head?_ne_dash {line : List Char} (h : IsRadixLine line) :
    line.head? ≠ some '-' := by
  intro hdash
  exact (h.plain '-' (List.mem_of_head? hdash)).ne_dash rfl

theorem isRadixLine_of_mem {line : List Char}
    (h : line ∈ pieces lineWidth (Radix64.encode bytes)) : IsRadixLine line := by
  have hlength : 4 ∣ (Radix64.encode bytes).length := by
    rw [Radix64.length_encode]
    exact Nat.dvd_mul_left 4 _
  refine ⟨ne_nil_of_mem_pieces h, dvd_length_of_mem_pieces (by decide) hlength h, ?_⟩
  intro c hc
  exact Radix64.isPlain_of_mem_encode (mem_of_mem_pieces h hc)

/-- A line that is read as it was written. -/
structure IsKept (line : List Char) : Prop where
  not_break : ∀ c ∈ line, isLineBreak c = false
  strip_eq : strip line = line

theorem isKept_of_plain {line : List Char} (h : ∀ c ∈ line, Radix64.IsPlain c) : IsKept line := by
  refine ⟨fun c hc => (h c hc).not_break, strip_eq_self ?_ ?_⟩
  · intro c hc
    exact (h c (List.mem_of_head? hc)).not_blank
  · intro c hc
    exact (h c (List.mem_of_getLast? hc)).not_blank

theorem map_strip_eq_self {lines : List (List Char)} (h : ∀ line ∈ lines, IsKept line) :
    lines.map strip = lines :=
  calc
    lines.map strip = lines.map id := List.map_congr_left fun line hline => (h line hline).strip_eq
    _ = lines := List.map_id _

/-- The lines of a written text are read without the blanks around them. -/
theorem strippedLines_flatMap {lines : List (List Char)}
    (h : ∀ line ∈ lines, ∀ c ∈ line, isLineBreak c = false) :
    strippedLines (lines.flatMap (· ++ ['\n'])) = lines.map strip := by
  have hsplit : splitLines (lines.flatMap (· ++ ['\n']) ++ []) = lines ++ splitLines [] :=
    splitLines_lines h
  have hlines : splitLines (lines.flatMap (· ++ ['\n'])) = lines := by
    simpa [splitLines] using hsplit
  rw [strippedLines, hlines]

/-- The lines of a written text are read as they were written. -/
theorem strippedLines_lines {lines : List (List Char)} (h : ∀ line ∈ lines, IsKept line) :
    strippedLines (lines.flatMap (· ++ ['\n'])) = lines := by
  rw [strippedLines_flatMap fun line hline => (h line hline).not_break, map_strip_eq_self h]

/-- The characters of a line with a mark. -/
def isMarkChar (c : Char) : Bool := c == '-' || isLabelChar c

theorem toNat_of_isMarkChar {c : Char} (h : isMarkChar c = true) :
    32 ≤ c.toNat ∧ c.toNat ≤ 90 := by
  simp only [isMarkChar, isLabelChar, Bool.or_eq_true, beq_iff_eq] at h
  rcases h with rfl | (((h | h) | rfl) | rfl) | rfl
  · decide
  · have hrange : 65 ≤ c.toNat ∧ c.toNat ≤ 90 := by
      simpa [UInt32.le_iff_toNat_le] using of_decide_eq_true h
    omega
  · have hrange : 48 ≤ c.toNat ∧ c.toNat ≤ 57 := by
      simpa [Char.isDigit, UInt32.le_iff_toNat_le] using h
    omega
  · decide
  · decide
  · decide

theorem not_isLineBreak_of_isMarkChar {c : Char} (h : isMarkChar c = true) :
    isLineBreak c = false := by
  have hrange := toNat_of_isMarkChar h
  simp only [isLineBreak, Bool.or_eq_false_iff, Bool.and_eq_false_iff, decide_eq_false_iff_not,
    beq_eq_false_iff_ne]
  omega

theorem isMarkChar_of_mem_markLine {mark : List Char} (hmark : mark.all isMarkChar = true)
    (h : IsLabel label) {c : Char} (hc : c ∈ markLine mark label) : isMarkChar c = true := by
  have hend : endMark.all isMarkChar = true := by decide
  rw [markLine, List.mem_append, List.mem_append] at hc
  rcases hc with (hc | hc) | hc
  · exact List.all_eq_true.1 hmark c hc
  · rw [isMarkChar, List.all_eq_true.1 h.2 c hc, Bool.or_true]
  · exact List.all_eq_true.1 hend c hc

theorem IsLabel.not_isLineBreak (h : IsLabel label) :
    ∀ c ∈ label.toList, isLineBreak c = false := by
  intro c hc
  refine not_isLineBreak_of_isMarkChar ?_
  rw [isMarkChar, List.all_eq_true.1 h.2 c hc, Bool.or_true]

theorem isKept_markLine {mark : List Char} (hmark : mark.all isMarkChar = true)
    (hfirst : mark.head? = some '-') (h : ∀ c ∈ label.toList, isLineBreak c = false) :
    IsKept (markLine mark label) := by
  have hend : endMark.all isMarkChar = true := by decide
  refine ⟨?_, strip_eq_self ?_ ?_⟩
  · intro c hc
    rw [markLine, List.mem_append, List.mem_append] at hc
    rcases hc with (hc | hc) | hc
    · exact not_isLineBreak_of_isMarkChar (List.all_eq_true.1 hmark c hc)
    · exact h c hc
    · exact not_isLineBreak_of_isMarkChar (List.all_eq_true.1 hend c hc)
  · intro c hc
    rw [markLine, List.append_assoc, List.head?_append, hfirst] at hc
    cases hc
    decide
  · intro c hc
    have hlast : endMark.getLast? = some '-' := by decide
    rw [markLine, List.getLast?_append, hlast] at hc
    cases hc
    decide

/-- The lines of a block with the given radix-64 lines and the given checksum text. -/
def linesOfBlock (label : String) (lines : List (List Char)) (sum : List Char) : List (List Char) :=
  markLine openingMark label :: [] :: (lines ++ ['=' :: sum, markLine closingMark label])

/-- The checksum text of some octets. -/
def checksumText (bytes : Bytes) : List Char :=
  Radix64.encode (bigEndian 3 (checksum bytes).toNat)

theorem blockLines_eq (bytes : Bytes) (label : String) :
    blockLines bytes label [] =
      linesOfBlock label (pieces lineWidth (Radix64.encode bytes)) (checksumText bytes) := rfl

theorem isPlain_of_mem_checksumText {c : Char} (h : c ∈ checksumText bytes) : Radix64.IsPlain c :=
  Radix64.isPlain_of_mem_encode h

theorem length_checksumText (bytes : Bytes) : (checksumText bytes).length = 4 := by
  rw [checksumText, Radix64.length_encode, length_bigEndian]

section Reading

variable {payloads : List Bytes} {lines : List (List Char)} {sum? : Option (List Char)}
  {sum : List Char}

theorem isKept_of_mem_linesOfBlock (hlabel : ∀ c ∈ label.toList, isLineBreak c = false)
    (hlines : ∀ line ∈ lines, IsRadixLine line) (hsum : ∀ c ∈ sum, Radix64.IsPlain c)
    {line : List Char} (hline : line ∈ linesOfBlock label lines sum) : IsKept line := by
  simp only [linesOfBlock, List.mem_cons, List.mem_append, List.not_mem_nil, or_false] at hline
  rcases hline with rfl | rfl | hline | rfl | rfl
  · exact isKept_markLine (by decide) rfl hlabel
  · exact ⟨by simp, rfl⟩
  · exact isKept_of_plain (hlines line hline).plain
  · refine isKept_of_plain fun c hc => ?_
    rcases List.mem_cons.1 hc with rfl | hc
    · exact Radix64.isPlain_pad
    · exact hsum c hc
  · exact isKept_markLine (by decide) rfl hlabel

theorem readLine_opening (h : IsLabel label) :
    readLine ⟨.outside, payloads⟩ (markLine openingMark label) = .ok ⟨.headers, payloads⟩ := by
  have hopening : isOpening (markLine openingMark label) = true := isMarkLine_markLine _ h
  simp only [readLine, hopening, if_true]

theorem readLine_empty :
    readLine ⟨.headers, payloads⟩ [] = .ok ⟨.body [] none, payloads⟩ := by
  have hclosing : isClosing [] = false := isClosing_eq_false (by simp)
  simp [readLine, hclosing, innerLine]

theorem readLine_radix {line : List Char} (h : IsRadixLine line) :
    readLine ⟨.body lines sum?, payloads⟩ line = .ok ⟨.body (line :: lines) sum?, payloads⟩ := by
  have hclosing : isClosing line = false := isClosing_eq_false h.head?_ne_dash
  have hlength : line.length ≠ 5 := by
    have hdvd := h.four_dvd
    omega
  simp [readLine, hclosing, innerLine, bodyLine, h.ne_nil, hlength]

theorem readLine_radixLines {more : List (List Char)} (h : ∀ line ∈ more, IsRadixLine line) :
    more.foldlM readLine ⟨.body lines sum?, payloads⟩ =
      .ok ⟨.body (more.reverse ++ lines) sum?, payloads⟩ := by
  induction more generalizing lines with
  | nil => rfl
  | cons line more ih =>
      have hmore : ∀ other ∈ more, IsRadixLine other := fun other hother => h other (.tail _ hother)
      rw [List.foldlM_cons, readLine_radix (h line List.mem_cons_self), List.reverse_cons,
        List.append_assoc, List.singleton_append]
      exact ih hmore

theorem readLine_checksum (hsum : sum.length = 4) :
    readLine ⟨.body lines sum?, payloads⟩ ('=' :: sum) =
      .ok ⟨.body lines (some sum), payloads⟩ := by
  have hclosing : isClosing ('=' :: sum) = false := isClosing_eq_false (by simp)
  simp [readLine, hclosing, innerLine, bodyLine, hsum]

theorem readLine_closing (h : IsLabel label) :
    readLine ⟨.body lines sum?, payloads⟩ (markLine closingMark label) =
      (decodeBlock lines sum?).map fun payload => ⟨.outside, payload :: payloads⟩ := by
  have hclosing : isClosing (markLine closingMark label) = true := isMarkLine_markLine _ h
  simp only [readLine, hclosing, if_true]

/-- The body of a block is read up to the line that closes it. The checksum counts that comes
last. -/
theorem readLine_bodyLines {before : List (List Char)} (h : IsLabel label)
    (hlines : ∀ line ∈ lines, IsRadixLine line) (hsum : sum.length = 4) :
    (lines ++ ['=' :: sum, markLine closingMark label]).foldlM readLine
        ⟨.body before sum?, payloads⟩ =
      (decodeBlock (lines.reverse ++ before) (some sum)).map
        fun payload => ⟨.outside, payload :: payloads⟩ := by
  have hend : ['=' :: sum, markLine closingMark label].foldlM readLine
      ⟨.body (lines.reverse ++ before) sum?, payloads⟩ =
        (decodeBlock (lines.reverse ++ before) (some sum)).map
          fun payload => ⟨.outside, payload :: payloads⟩ := by
    rw [List.foldlM_cons, readLine_checksum hsum]
    change List.foldlM readLine ⟨.body (lines.reverse ++ before) (some sum), payloads⟩ _ = _
    rw [List.foldlM_cons, readLine_closing h]
    cases decodeBlock (lines.reverse ++ before) (some sum) <;> rfl
  rw [List.foldlM_append, readLine_radixLines hlines]
  exact hend

/-- A reader outside all blocks reads the lines of a block as its payload. -/
theorem readLine_linesOfBlock (h : IsLabel label) (hlines : ∀ line ∈ lines, IsRadixLine line)
    (hsum : sum.length = 4) :
    (linesOfBlock label lines sum).foldlM readLine ⟨.outside, payloads⟩ =
      (decodeBlock lines.reverse (some sum)).map
        fun payload => ⟨.outside, payload :: payloads⟩ := by
  rw [linesOfBlock, List.foldlM_cons, readLine_opening h]
  change List.foldlM readLine ⟨.headers, payloads⟩ _ = _
  rw [List.foldlM_cons, readLine_empty]
  change List.foldlM readLine ⟨.body [] none, payloads⟩ _ = _
  rw [readLine_bodyLines h hlines hsum, List.append_nil]

theorem decodeBlock_eq_ite {payload sumBytes : Bytes}
    (hpayload : Radix64.decode? lines.flatten = some payload)
    (hsum : Radix64.decode? sum = some sumBytes) :
    decodeBlock lines.reverse (some sum) =
      if (checksum payload).toNat = ofBigEndian sumBytes then .ok payload
      else .error (.format .armorChecksumMismatch) := by
  simp only [decodeBlock, List.reverse_reverse, hpayload, hsum]

/-- Three octets hold a checksum. -/
theorem ofBigEndian_checksum (bytes : Bytes) :
    ofBigEndian (bigEndian 3 (checksum bytes).toNat) = (checksum bytes).toNat := by
  rw [ofBigEndian_bigEndian, Nat.mod_eq_of_lt]
  exact (checksum bytes).isLt

theorem decode?_radixLines (bytes : Bytes) :
    Radix64.decode? (pieces lineWidth (Radix64.encode bytes)).flatten = some bytes := by
  rw [flatten_pieces (by decide), Radix64.decode?_encode]

theorem decode?_checksumText (bytes : Bytes) :
    Radix64.decode? (checksumText bytes) = some (bigEndian 3 (checksum bytes).toNat) :=
  Radix64.decode?_encode _

/-- What a block holds comes out with a right checksum. -/
theorem decodeBlock_encode (bytes : Bytes) :
    decodeBlock (pieces lineWidth (Radix64.encode bytes)).reverse (some (checksumText bytes)) =
      .ok bytes := by
  rw [decodeBlock_eq_ite (decode?_radixLines bytes) (decode?_checksumText bytes),
    ofBigEndian_checksum, if_pos rfl]

/-- A reader outside all blocks reads a written block as its octets. -/
theorem readLine_blockLines (h : IsLabel label) :
    (blockLines bytes label []).foldlM readLine ⟨.outside, payloads⟩ =
      .ok ⟨.outside, bytes :: payloads⟩ := by
  rw [blockLines_eq, readLine_linesOfBlock h (fun line hline => isRadixLine_of_mem hline)
    (length_checksumText bytes), decodeBlock_encode]
  rfl

end Reading

/-- The lines of a written block are read as they were written. -/
theorem strippedLines_encode (bytes : Bytes) (h : IsLabel label) :
    strippedLines (encode bytes label []).toList = blockLines bytes label [] := by
  rw [encode, String.toList_ofList]
  refine strippedLines_lines fun line hline => ?_
  exact isKept_of_mem_linesOfBlock h.not_isLineBreak (fun line hline => isRadixLine_of_mem hline)
    (fun c hc => isPlain_of_mem_checksumText hc) hline

/-- The octets of a document whose lines lead outside all blocks again. -/
theorem decode_of_readLines {document : List Char} {payloads : List Bytes}
    (hread : (strippedLines document).foldlM readLine ⟨.outside, []⟩ = .ok ⟨.outside, payloads⟩)
    (hsome : payloads ≠ []) : decode document = .ok payloads.reverse.flatten := by
  rw [strippedLines] at hread
  rw [decode, hread]
  cases payloads with
  | nil => exact absurd rfl hsome
  | cons payload payloads => rfl

/-- A document whose lines are those of one block is read as what the block holds. -/
theorem decode_of_readBlock {document : List Char} {result : Except Failure Bytes}
    (hread : (strippedLines document).foldlM readLine ⟨.outside, []⟩ =
      result.map fun payload => ⟨.outside, [payload]⟩) : decode document = result := by
  rw [strippedLines] at hread
  rw [decode, hread]
  cases result with
  | error failure => rfl
  | ok payload => exact congrArg Except.ok (List.append_nil payload)

/-- A written block is read back. -/
theorem decode_encode (bytes : Bytes) (h : IsLabel label) :
    decode (encode bytes label []).toList = .ok bytes := by
  refine decode_of_readBlock ?_
  rw [strippedLines_encode bytes h, readLine_blockLines h]
  rfl

/-- A written block consists of ASCII characters. -/
theorem ascii_of_mem_encode (h : IsLabel label) {c : Char}
    (hc : c ∈ (encode bytes label []).toList) : c.toNat < 0x80 := by
  have hmark {mark : List Char} (hmark : mark.all isMarkChar = true)
      (hc : c ∈ markLine mark label) : c.toNat < 0x80 := by
    have hrange := toNat_of_isMarkChar (isMarkChar_of_mem_markLine hmark h hc)
    omega
  rw [encode, String.toList_ofList, blockLines_eq, linesOfBlock] at hc
  simp only [List.mem_flatMap, List.mem_cons, List.mem_append, List.not_mem_nil, or_false] at hc
  obtain ⟨line, rfl | rfl | hline | rfl | rfl, hc | rfl⟩ := hc
  all_goals first | decide | skip
  · exact hmark (by decide) hc
  · cases hc
  · exact ((isRadixLine_of_mem hline).plain c hc).ascii
  · rcases List.mem_cons.1 hc with rfl | hc
    · decide
    · exact (isPlain_of_mem_checksumText hc).ascii
  · exact hmark (by decide) hc

end ArtifactSigning.Armor
