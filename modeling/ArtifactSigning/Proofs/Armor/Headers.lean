import ArtifactSigning.Proofs.Armor.Block

/-!
# Header lines of armored blocks

A header is told from radix-64 text by a colon with a space after it, and blanks around its line do
not count. So a header is passed over if it has a value, or if already its key holds a colon with a
space; any other one ends the headers. From there on every header line belongs to the body of the
block, which cannot be read then, unless all of these lines pass for checksum lines: the checksum of
the block itself comes after them and takes their place (`decode_encode_headers`).
-/
namespace ArtifactSigning.Armor

open Text

variable {bytes : Bytes} {label : String} {payloads : List Bytes} {header : String × String}
  {headers : Headers} {line : List Char} {lines more : List (List Char)} {sum? : Option (List Char)}

/-- The line of a header. -/
def headerLine (header : String × String) : List Char :=
  header.1.toList ++ ':' :: ' ' :: header.2.toList

/-- Whether neither the key nor the value breaks the line of a header. -/
def isOneLine (header : String × String) : Bool :=
  (header.1.toList ++ header.2.toList).all (!isLineBreak ·)

/-- Whether a header can be told from radix-64 text: its value is not blank, or its key holds a
colon with a space. -/
def isRecognised (header : String × String) : Bool :=
  header.2.toList.any (!isBlank ·) || isHeader header.1.toList

/-- Whether a line is taken for a checksum. -/
def isChecksumLine (line : List Char) : Bool := line.head? = some '=' ∧ line.length = 5

/-- Whether all headers from the first unrecognised one on pass for checksums. -/
def arePassedOver (headers : Headers) : Bool :=
  (headers.dropWhile isRecognised).all fun header => isChecksumLine (strip (headerLine header))

section Recognition

theorem isHeader_cons (c : Char) (line : List Char) :
    isHeader (c :: line) = ((c == ':' && line.head? == some ' ') || isHeader line) := by
  by_cases hmark : c = ':' ∧ line.head? = some ' '
  · obtain ⟨rfl, hspace⟩ := hmark
    obtain ⟨rest, rfl⟩ := List.head?_eq_some_iff.1 hspace
    rfl
  · have hother : ∀ rest, c = ':' → line = ' ' :: rest → False := by
      rintro rest rfl rfl
      exact hmark ⟨rfl, rfl⟩
    have hfalse : (c == ':' && line.head? == some ' ') = false := by
      simpa [Bool.eq_false_iff] using hmark
    rw [isHeader.eq_2 _ _ hother, hfalse, Bool.false_or]

theorem isHeader_append_colon (front back : List Char) :
    isHeader (front ++ ':' :: back) = (isHeader front || isHeader (':' :: back)) := by
  induction front with
  | nil => rfl
  | cons c front ih =>
      have hhead : ((front ++ ':' :: back).head? == some ' ') = (front.head? == some ' ') := by
        cases front <;> rfl
      rw [List.cons_append, isHeader_cons, isHeader_cons, hhead, ih, Bool.or_assoc]

/-- No header is told by the blanks in front of it. -/
theorem isHeader_dropWhile (line : List Char) :
    isHeader (line.dropWhile isBlank) = isHeader line := by
  induction line with
  | nil => rfl
  | cons c line ih =>
      by_cases hc : isBlank c = true
      · have hcolon : (c == ':') = false := by
          rw [beq_eq_false_iff_ne]
          rintro rfl
          exact absurd hc (by decide)
        rw [List.dropWhile_cons_of_pos hc, ih, isHeader_cons, hcolon, Bool.false_and,
          Bool.false_or]
      · rw [List.dropWhile_cons_of_neg hc]

/-- Behind the colon a space is left if anything but blanks follows it. -/
theorem isHeader_trimEnd (value : List Char) :
    isHeader (':' :: trimEnd isBlank (' ' :: value)) = value.any (!isBlank ·) := by
  by_cases hvalue : value.any (!isBlank ·) = true
  · obtain ⟨c, hc, hblank⟩ := List.any_eq_true.1 hvalue
    obtain ⟨front, back, rfl⟩ := List.append_of_mem hc
    rw [hvalue, ← List.cons_append, trimEnd_append_cons _ _ (by simpa using hblank),
      List.cons_append, isHeader]
  · have hblank : ∀ c ∈ (' ' :: value).reverse, isBlank c = true := by
      intro c hc
      rcases List.mem_cons.1 (List.mem_reverse.1 hc) with rfl | hc
      · decide
      · simp only [List.any_eq_true, not_exists, not_and] at hvalue
        simpa using hvalue c hc
    rw [trimEnd, List.dropWhile_eq_nil_iff.2 hblank, Bool.eq_false_iff.2 hvalue]
    rfl

theorem strip_headerLine (header : String × String) :
    strip (headerLine header) =
      header.1.toList.dropWhile isBlank ++ ':' :: trimEnd isBlank (' ' :: header.2.toList) :=
  strip_append_cons _ _ (by decide)

theorem isHeader_headerLine (header : String × String) :
    isHeader (strip (headerLine header)) = isRecognised header := by
  rw [strip_headerLine, isHeader_append_colon, isHeader_dropWhile, isHeader_trimEnd, isRecognised,
    Bool.or_comm]

theorem colon_mem_headerLine (header : String × String) : ':' ∈ strip (headerLine header) := by
  rw [strip_headerLine]
  exact List.mem_append_right _ List.mem_cons_self

/-- No mark line holds a colon. -/
theorem isMarkLine_of_colon {mark : List Char} (hmark : mark.all isMarkChar = true)
    (hcolon : ':' ∈ line) : isMarkLine mark line = false := by
  rw [Bool.eq_false_iff]
  intro h
  simp only [isMarkLine, Bool.and_eq_true, decide_eq_true_eq, beq_iff_eq] at h
  obtain ⟨hbegins, -, hend⟩ := h
  obtain ⟨rest, rfl⟩ := List.isPrefixOf_iff_prefix.1 hbegins
  rw [List.drop_left] at hend
  have hrest : rest.takeWhile isLabelChar ++ endMark = rest := by
    rw [← hend]
    exact List.prefix_iff_eq_append.1 (List.takeWhile_prefix _)
  rw [← hrest, List.mem_append, List.mem_append] at hcolon
  rcases hcolon with hcolon | hcolon | hcolon
  · exact absurd (List.all_eq_true.1 hmark ':' hcolon) (by decide)
  · exact absurd (List.mem_takeWhile_imp hcolon) (by decide)
  · exact absurd hcolon (by decide)

end Recognition

section Reading

/-- Without a header the headers end, as they do at an empty line. The lines of headers are told
from mark lines and empty lines by their colons. -/
theorem readLine_headers (hcolon : ':' ∈ line) :
    readLine ⟨.headers, payloads⟩ line =
      if isHeader line then .ok ⟨.headers, payloads⟩
      else readLine ⟨.body [] none, payloads⟩ line := by
  have hclosing : isClosing line = false := isMarkLine_of_colon (by decide) hcolon
  have hne : line ≠ [] := List.ne_nil_of_mem hcolon
  by_cases hheader : isHeader line = true <;> simp [readLine, hclosing, innerLine, hne, hheader]

theorem readLine_late (hcolon : ':' ∈ line) :
    readLine ⟨.body lines sum?, payloads⟩ line =
      .ok ⟨if isChecksumLine line then .body lines (some line.tail)
        else .body (line :: lines) sum?, payloads⟩ := by
  have hclosing : isClosing line = false := isMarkLine_of_colon (by decide) hcolon
  have hne : line ≠ [] := List.ne_nil_of_mem hcolon
  simp [readLine, hclosing, innerLine, bodyLine, hne, isChecksumLine]

/-- Header lines in the body of a block are body lines, but for those that pass for checksums. -/
theorem readLine_lateLines (hcolon : ∀ line ∈ more, ':' ∈ line) :
    ∃ last?, more.foldlM readLine ⟨.body lines sum?, payloads⟩ =
      .ok ⟨.body ((more.filter (!isChecksumLine ·)).reverse ++ lines) last?, payloads⟩ := by
  induction more generalizing lines sum? with
  | nil => exact ⟨sum?, rfl⟩
  | cons line more ih =>
      rw [List.forall_mem_cons] at hcolon
      rw [List.foldlM_cons, readLine_late hcolon.1]
      by_cases hsum : isChecksumLine line = true
      · rw [if_pos hsum, List.filter_cons_of_neg (by simp [hsum])]
        exact ih hcolon.2
      · rw [if_neg hsum, List.filter_cons_of_pos (by simp [hsum]), List.reverse_cons,
          List.append_assoc]
        exact ih hcolon.2

theorem readLine_emptyBody :
    readLine ⟨.body lines sum?, payloads⟩ [] = .ok ⟨.body lines sum?, payloads⟩ := by
  have hclosing : isClosing [] = false := isClosing_eq_false (by simp)
  simp [readLine, hclosing, innerLine, bodyLine]

/-- Header lines are passed over up to the first one that is no header, and after the empty line
those that follow are in the body. -/
theorem readLine_headerLines (hcolon : ∀ line ∈ more, ':' ∈ line) :
    ∃ last?, (more ++ [[]]).foldlM readLine ⟨.headers, payloads⟩ =
      .ok ⟨.body ((more.dropWhile isHeader).filter (!isChecksumLine ·)).reverse last?,
        payloads⟩ := by
  induction more with
  | nil => exact ⟨none, readLine_empty⟩
  | cons line more ih =>
      by_cases hheader : isHeader line = true
      · rw [List.forall_mem_cons] at hcolon
        rw [List.dropWhile_cons_of_pos hheader, List.cons_append, List.foldlM_cons,
          readLine_headers hcolon.1, if_pos hheader]
        exact ih hcolon.2
      · -- The body has begun, so the lines that follow are no headers, whatever they look like.
        obtain ⟨last?, hlast⟩ : ∃ last?, (line :: more).foldlM readLine ⟨.body [] none, payloads⟩ =
            .ok ⟨.body (((line :: more).filter (!isChecksumLine ·)).reverse ++ []) last?,
              payloads⟩ := readLine_lateLines hcolon
        refine ⟨last?, ?_⟩
        rw [List.dropWhile_cons_of_neg hheader, List.cons_append, List.foldlM_cons,
          readLine_headers (hcolon line List.mem_cons_self), if_neg hheader, ← List.foldlM_cons,
          ← List.cons_append, List.foldlM_append, hlast, List.append_nil]
        exact readLine_emptyBody

end Reading

section Blocks

/-- The lines of headers without the blanks around them. -/
def headerLines (headers : Headers) : List (List Char) :=
  headers.map fun header => strip (headerLine header)

/-- The header lines that are left to the body of the block and do not pass for checksums. -/
def strayLines (headers : Headers) : List (List Char) :=
  ((headerLines headers).dropWhile isHeader).filter (!isChecksumLine ·)

theorem colon_mem_headerLines (h : line ∈ headerLines headers) : ':' ∈ line := by
  obtain ⟨header, -, rfl⟩ := List.mem_map.1 h
  exact colon_mem_headerLine header

theorem colon_mem_strayLines (h : line ∈ strayLines headers) : ':' ∈ line :=
  colon_mem_headerLines ((List.dropWhile_sublist _).mem (List.mem_filter.1 h).1)

theorem strayLines_eq_nil_iff : strayLines headers = [] ↔ arePassedOver headers = true := by
  have hrecognised : isHeader ∘ (fun header => strip (headerLine header)) = isRecognised := by
    funext header
    exact isHeader_headerLine header
  rw [strayLines, headerLines, List.dropWhile_map, hrecognised, List.filter_eq_nil_iff,
    List.forall_mem_map, arePassedOver, List.all_eq_true]
  simp

/-- The lines behind the headers of a block. -/
def bodyLines (bytes : Bytes) (label : String) : List (List Char) :=
  pieces lineWidth (Radix64.encode bytes) ++
    ['=' :: checksumText bytes, markLine closingMark label]

theorem blockLines_headers (bytes : Bytes) (label : String) (headers : Headers) :
    blockLines bytes label headers = markLine openingMark label ::
      (headers.map headerLine ++ [] :: bodyLines bytes label) := by
  simp [blockLines, bodyLines, headerLine, markLine, checksumLine, checksumText]

theorem not_isLineBreak_of_isOneLine (h : isOneLine header = true) {c : Char}
    (hc : c ∈ headerLine header) : isLineBreak c = false := by
  rw [isOneLine, List.all_append, Bool.and_eq_true] at h
  have hkey : ∀ c ∈ header.1.toList, isLineBreak c = false := by simpa using h.1
  have hvalue : ∀ c ∈ header.2.toList, isLineBreak c = false := by simpa using h.2
  rw [headerLine, List.mem_append, List.mem_cons, List.mem_cons] at hc
  rcases hc with hc | rfl | rfl | hc
  · exact hkey c hc
  · decide
  · decide
  · exact hvalue c hc

/-- The lines of a block with headers, as they are read. -/
theorem strippedLines_encode_headers (bytes : Bytes) (hlabel : IsLabel label)
    (hheaders : ∀ header ∈ headers, isOneLine header = true) :
    strippedLines (encode bytes label headers).toList = markLine openingMark label ::
      (headerLines headers ++ [] :: bodyLines bytes label) := by
  have hkept : ∀ line ∈ markLine openingMark label :: [] :: bodyLines bytes label, IsKept line :=
    fun line hline => isKept_of_mem_linesOfBlock hlabel.not_isLineBreak
      (fun line hline => isRadixLine_of_mem hline) (fun c hc => isPlain_of_mem_checksumText hc)
      hline
  rw [List.forall_mem_cons] at hkept
  have hbreak : ∀ line ∈ blockLines bytes label headers, ∀ c ∈ line, isLineBreak c = false := by
    intro line hline c hc
    rw [blockLines_headers, List.mem_cons, List.mem_append] at hline
    rcases hline with rfl | hline | hline
    · exact hkept.1.not_break c hc
    · obtain ⟨header, hheader, rfl⟩ := List.mem_map.1 hline
      exact not_isLineBreak_of_isOneLine (hheaders header hheader) hc
    · exact (hkept.2 line hline).not_break c hc
  rw [encode, String.toList_ofList, strippedLines_flatMap hbreak, blockLines_headers, List.map_cons,
    List.map_append, map_strip_eq_self hkept.2, hkept.1.strip_eq, List.map_map]
  rfl

/-- What a block with headers is read as. -/
theorem decode_encode_eq_decodeBlock (bytes : Bytes) (hlabel : IsLabel label)
    (hheaders : ∀ header ∈ headers, isOneLine header = true) :
    decode (encode bytes label headers).toList =
      decodeBlock ((pieces lineWidth (Radix64.encode bytes)).reverse ++
        (strayLines headers).reverse) (some (checksumText bytes)) := by
  refine decode_of_readBlock ?_
  obtain ⟨last?, hlast⟩ : ∃ last?, (headerLines headers ++ [[]]).foldlM readLine
      ⟨.headers, []⟩ = .ok ⟨.body (strayLines headers).reverse last?, []⟩ :=
    readLine_headerLines fun line hline => colon_mem_headerLines hline
  rw [strippedLines_encode_headers bytes hlabel hheaders, List.foldlM_cons,
    readLine_opening hlabel, ← List.singleton_append, ← List.append_assoc]
  change List.foldlM readLine ⟨.headers, []⟩ _ = _
  rw [List.foldlM_append, hlast]
  exact readLine_bodyLines hlabel (fun line hline => isRadixLine_of_mem hline)
    (length_checksumText bytes)

/-- Headers that are passed over leave the block as it is. -/
theorem decode_of_arePassedOver (hlabel : IsLabel label)
    (hheaders : ∀ header ∈ headers, isOneLine header = true) (h : arePassedOver headers = true) :
    decode (encode bytes label headers).toList = .ok bytes := by
  rw [decode_encode_eq_decodeBlock bytes hlabel hheaders, strayLines_eq_nil_iff.2 h,
    List.reverse_nil, List.append_nil, decodeBlock_encode]

/-- No radix-64 text holds the colon of a header. -/
theorem decode_of_not_arePassedOver (hlabel : IsLabel label)
    (hheaders : ∀ header ∈ headers, isOneLine header = true) (h : arePassedOver headers = false) :
    decode (encode bytes label headers).toList = .error (.format .invalidRadix64) := by
  obtain ⟨line, hline⟩ : ∃ line, line ∈ strayLines headers :=
    List.exists_mem_of_ne_nil _ fun hnil => by simp [strayLines_eq_nil_iff.1 hnil] at h
  have hcolon : ':' ∈ ((pieces lineWidth (Radix64.encode bytes)).reverse ++
      (strayLines headers).reverse).reverse.flatten := by
    refine List.mem_flatten_of_mem ?_ (colon_mem_strayLines hline)
    simp [hline]
  rw [decode_encode_eq_decodeBlock bytes hlabel hheaders, decodeBlock,
    Radix64.decode?_eq_none hcolon (by decide) (by decide)]

/-- A block with headers is read back if the headers are passed over; otherwise its body is no
radix-64 text. -/
theorem decode_encode_headers (bytes : Bytes) (hlabel : IsLabel label)
    (hheaders : ∀ header ∈ headers, isOneLine header = true) :
    decode (encode bytes label headers).toList =
      if arePassedOver headers then .ok bytes else .error (.format .invalidRadix64) := by
  split
  · rename_i hpassed
    exact decode_of_arePassedOver hlabel hheaders hpassed
  · rename_i hpassed
    exact decode_of_not_arePassedOver hlabel hheaders (Bool.eq_false_iff.2 hpassed)

/-- The second header is told by the colon in its key, the third one passes for a checksum. -/
theorem decode_encode_unusual_headers :
    decode (encode [0x88, 0x5D] "SIGNATURE"
        [("Version", "1"), ("a: b", ""), ("=abc", " ")]).toList = .ok [0x88, 0x5D] :=
  decode_encode_headers [0x88, 0x5D] ⟨by decide, by decide⟩ (by decide)

/-- A header without a value is written but not read. -/
theorem header_without_value_is_not_read :
    IsLabel "SIGNATURE" ∧ isOneLine ("Comment", "") = true ∧
      decode (encode [0x88, 0x5D] "SIGNATURE" [("Comment", "")]).toList =
        .error (.format .invalidRadix64) := by
  have hlabel : IsLabel "SIGNATURE" := ⟨by decide, by decide⟩
  have hheaders : ∀ header ∈ [("Comment", "")], isOneLine header = true := by decide
  exact ⟨hlabel, hheaders _ List.mem_cons_self,
    decode_of_not_arePassedOver hlabel hheaders (by decide)⟩

end Blocks

end ArtifactSigning.Armor
