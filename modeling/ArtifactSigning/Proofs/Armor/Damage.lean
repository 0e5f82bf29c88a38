import ArtifactSigning.Proofs.Armor.Checksum
import ArtifactSigning.Proofs.Armor.Document
import Mathlib.Data.List.Forall2

/-!
# Damaged blocks are recognised

Up to four letters of a block's radix-64 text stand for up to 24 bits of its octets. A block with
other letters in their places is read with other octets, which have another checksum, or with the
same (`decode_damaged`).
-/
namespace ArtifactSigning.Armor

open Text Text.Radix64

/-- A character that is kept, or a letter in the place of a letter. -/
def Retyped (c d : Char) : Prop := d = c ∨ isLetter c = true ∧ isLetter d = true

/-- Whether a text differs from another one in at most `width` consecutive letters, in whose places
it has other letters. Characters between them that are no letters are kept and do not count. -/
def RetypedRun (width : Nat) (text damaged : List Char) : Prop :=
  ∃ front run run' back, text = front ++ run ++ back ∧ damaged = front ++ run' ++ back ∧
    List.Forall₂ Retyped run run' ∧ (run.filter isLetter).length ≤ width

/-- The text of a block with the given body and the given checksum text. -/
def blockText (label : String) (body sum : List Char) : List Char :=
  markLine openingMark label ++ ['\n', '\n'] ++ body ++ ['='] ++ sum ++ ['\n'] ++
    markLine closingMark label ++ ['\n']

/-- The radix-64 lines of a block. -/
def blockBody (bytes : Bytes) : List Char :=
  (pieces lineWidth (Radix64.encode bytes)).flatMap (· ++ ['\n'])

variable {bytes : Bytes} {label : String} {text damaged line : List Char}
  {lines : List (List Char)} {sum : List Char} {width : Nat}

section Retyping

theorem Retyped.isLetter_eq {c d : Char} (h : Retyped c d) : isLetter d = isLetter c := by
  rcases h with rfl | ⟨hc, hd⟩
  · rfl
  · rw [hc, hd]

theorem Retyped.isPlain {c d : Char} (h : Retyped c d) (hc : IsPlain c) : IsPlain d := by
  rcases h with rfl | ⟨-, hd⟩
  · exact hc
  · exact isPlain_of_isLetter hd

/-- What related items have in common with their originals holds of all items of a related list. -/
theorem forall_of_forall₂ {α : Type} {related : α → α → Prop} {motive : α → Prop}
    {items others : List α} (hkept : ∀ x y, related x y → motive x → motive y)
    (h : List.Forall₂ related items others) (hitems : ∀ x ∈ items, motive x) :
    ∀ y ∈ others, motive y := by
  induction h with
  | nil => simp
  | cons hfirst _ ih =>
      rintro y (_ | ⟨_, hy⟩)
      · exact hkept _ _ hfirst (hitems _ List.mem_cons_self)
      · exact ih (fun x hx => hitems x (.tail _ hx)) y hy

theorem length_filter_retyped (h : List.Forall₂ Retyped text damaged) :
    (damaged.filter isLetter).length = (text.filter isLetter).length := by
  induction h with
  | nil => rfl
  | cons hc _ ih =>
      rw [List.filter_cons, List.filter_cons, hc.isLetter_eq]
      split
      · rw [List.length_cons, List.length_cons, ih]
      · exact ih

theorem RetypedRun.forall₂ (h : RetypedRun width text damaged) :
    List.Forall₂ Retyped text damaged := by
  have hsame (kept : List Char) : List.Forall₂ Retyped kept kept :=
    List.forall₂_same.2 fun c _ => .inl rfl
  obtain ⟨front, run, run', back, rfl, rfl, hrun, -⟩ := h
  exact List.rel_append (List.rel_append (hsame front) hrun) (hsame back)

theorem RetypedRun.differInRun (h : RetypedRun width text damaged) :
    DifferInRun width (text.filter isLetter) (damaged.filter isLetter) := by
  obtain ⟨front, run, run', back, rfl, rfl, hrun, hwidth⟩ := h
  refine ⟨front.filter isLetter, run.filter isLetter, run'.filter isLetter, back.filter isLetter,
    by simp, by simp, length_filter_retyped hrun, hwidth⟩

theorem exists_append_of_retyped {front back : List Char}
    (h : List.Forall₂ Retyped (front ++ back) damaged) :
    ∃ front' back', damaged = front' ++ back' ∧ List.Forall₂ Retyped front front' ∧
      List.Forall₂ Retyped back back' := by
  refine ⟨damaged.take front.length, damaged.drop front.length,
    (List.take_append_drop _ _).symm, ?_, ?_⟩
  · simpa using List.forall₂_take front.length h
  · simpa using List.forall₂_drop front.length h

/-- A text without letters is kept. -/
theorem eq_of_retyped (hkept : ∀ c ∈ text, isLetter c = false)
    (h : List.Forall₂ Retyped text damaged) : damaged = text := by
  induction h with
  | nil => rfl
  | @cons c d text damaged hc _ ih =>
      have hletter := hkept c List.mem_cons_self
      have hsame : d = c := hc.resolve_right fun hletters => by simp [hletters.1] at hletter
      rw [hsame, ih fun e he => hkept e (.tail _ he)]

theorem isLetter_of_retyped (h : List.Forall₂ Retyped text damaged)
    (hletters : ∀ c ∈ text, isLetter c = true) : ∀ c ∈ damaged, isLetter c = true :=
  forall_of_forall₂ (fun c d hc hletter => by rw [hc.isLetter_eq, hletter]) h hletters

/-- Padding marks are kept. -/
theorem exists_letters_of_retyped {count : Nat}
    (h : List.Forall₂ Retyped (text ++ List.replicate count '=') damaged) :
    ∃ text', damaged = text' ++ List.replicate count '=' ∧ List.Forall₂ Retyped text text' := by
  obtain ⟨text', pads, rfl, htext, hpads⟩ := exists_append_of_retyped h
  refine ⟨text', ?_, htext⟩
  rw [eq_of_retyped (fun c hc => ?_) hpads]
  rw [List.eq_of_mem_replicate hc]
  decide

/-- The lines of a text are changed one by one. -/
theorem exists_lines_of_retyped
    (h : List.Forall₂ Retyped (lines.flatMap (· ++ ['\n'])) damaged) :
    ∃ lines', damaged = lines'.flatMap (· ++ ['\n']) ∧
      List.Forall₂ (List.Forall₂ Retyped) lines lines' := by
  induction lines generalizing damaged with
  | nil =>
      rw [List.flatMap_nil, List.forall₂_nil_left_iff] at h
      exact ⟨[], h, .nil⟩
  | cons line lines ih =>
      rw [List.flatMap_cons] at h
      obtain ⟨first, rest, rfl, hfirst, hrest⟩ := exists_append_of_retyped h
      obtain ⟨line', ending, rfl, hline, hending⟩ := exists_append_of_retyped hfirst
      obtain ⟨lines', rfl, hlines⟩ := ih hrest
      obtain rfl := eq_of_retyped (List.forall_mem_singleton.2 (by decide)) hending
      exact ⟨line' :: lines', rfl, .cons hline hlines⟩

theorem filter_lines (lines : List (List Char)) :
    (lines.flatMap (· ++ ['\n'])).filter isLetter = lines.flatten.filter isLetter := by
  induction lines with
  | nil => rfl
  | cons line lines ih =>
      have hbreak : isLetter '\n' = false := by decide
      rw [List.flatMap_cons, List.filter_append, List.filter_append, ih, List.flatten_cons,
        List.filter_append, List.filter_cons, hbreak]
      simp

theorem isRadixLine_of_retyped {line' : List Char} (hline : IsRadixLine line)
    (h : List.Forall₂ Retyped line line') : IsRadixLine line' := by
  refine ⟨?_, ?_, ?_⟩
  · rintro rfl
    exact hline.ne_nil (List.forall₂_nil_right_iff.1 h)
  · rw [← h.length_eq]
    exact hline.four_dvd
  · exact forall_of_forall₂ (fun c d hc => hc.isPlain) h hline.plain

end Retyping

section Reading

/-- Radix-64 text is read with the bits of other letters in the places of those that were replaced.
-/
theorem exists_decode?_of_retyped (h : List.Forall₂ Retyped (Radix64.encode bytes) text)
    (hrun : DifferInRun 4 ((Radix64.encode bytes).filter isLetter) (text.filter isLetter)) :
    ∃ read, decode? text = some read ∧ DifferInRun 24 (bitsOf bytes) (bitsOf read) := by
  obtain ⟨data, count, hencode, hletters, hdata, hcount⟩ := encode_eq_letters bytes
  rw [hencode] at h hrun
  obtain ⟨data', rfl, hdata'⟩ := exists_letters_of_retyped h
  have hletters' := isLetter_of_retyped hdata' hletters
  have hlength := hdata'.length_eq
  rw [filter_isLetter_append_pads _ hletters, filter_isLetter_append_pads _ hletters'] at hrun
  have hgroups := (length_of_decodeData hdata).1
  obtain ⟨bytes', hread, hbits⟩ := decodeData_letters hletters hgroups
  obtain ⟨read, hread', hbits'⟩ := decodeData_letters hletters' (hlength ▸ hgroups)
  obtain rfl : bytes' = bytes := Option.some.inj (hread.symm.trans hdata)
  refine ⟨read, ?_, ?_⟩
  · rw [decode?_letters hletters' (hlength ▸ hcount), hread']
  · rw [hbits, hbits', ← hlength]
    exact (hrun.flatMap fun c => length_natBits 6 _).take _

theorem blockText_lines (label : String) (lines : List (List Char)) (sum : List Char) :
    blockText label (lines.flatMap (· ++ ['\n'])) sum =
      (linesOfBlock label lines sum).flatMap (· ++ ['\n']) := by
  simp [blockText, linesOfBlock]

theorem encode_eq_blockText (bytes : Bytes) (label : String) :
    (encode bytes label []).toList = blockText label (blockBody bytes) (checksumText bytes) := by
  rw [encode, String.toList_ofList, blockLines_eq, blockBody, blockText_lines]

variable (hlines : ∀ line ∈ lines, IsRadixLine line) (hsum : ∀ c ∈ sum, IsPlain c)
  (hlength : sum.length = 4)

include hlines hsum hlength in
theorem decode_blockText (h : IsLabel label) :
    decode (blockText label (lines.flatMap (· ++ ['\n'])) sum) =
      decodeBlock lines.reverse (some sum) := by
  have hkept : strippedLines (blockText label (lines.flatMap (· ++ ['\n'])) sum) =
      linesOfBlock label lines sum := by
    rw [blockText_lines]
    exact strippedLines_lines fun line hline =>
      isKept_of_mem_linesOfBlock h.not_isLineBreak hlines hsum hline
  refine decode_of_readBlock ?_
  rw [hkept, readLine_linesOfBlock h hlines hlength]

/-- Only a label can stand between a mark and the five dashes. -/
theorem isLabel_of_isMarkLine {mark : List Char}
    (h : isMarkLine mark (markLine mark label) = true) : IsLabel label := by
  have hrest : (markLine mark label).drop mark.length = label.toList ++ endMark := by
    rw [markLine, List.append_assoc, List.drop_left]
  simp only [isMarkLine, hrest, Bool.and_eq_true, decide_eq_true_eq, beq_iff_eq] at h
  obtain ⟨-, hne, hend⟩ := h
  generalize hfront : (label.toList ++ endMark).takeWhile isLabelChar = front at hne hend
  obtain ⟨back, hback⟩ : front <+: label.toList ++ endMark := hfront ▸ List.takeWhile_prefix _
  rw [← hback, List.drop_left] at hend
  rw [hend] at hback
  have hlabel : front = label.toList := List.append_cancel_right hback
  refine ⟨fun hempty => hne (by rw [hlabel, hempty]; rfl), List.all_eq_true.2 fun c hc => ?_⟩
  rw [← hlabel, ← hfront] at hc
  exact List.mem_takeWhile_imp hc

include hlines hsum in
theorem decode_blockText_of_not_isLabel (hlabel : ∀ c ∈ label.toList, isLineBreak c = false)
    (h : ¬IsLabel label) :
    decode (blockText label (lines.flatMap (· ++ ['\n'])) sum) = .error (.format .noArmor) := by
  have hkept : strippedLines (blockText label (lines.flatMap (· ++ ['\n'])) sum) =
      linesOfBlock label lines sum := by
    rw [blockText_lines]
    exact strippedLines_lines fun line hline =>
      isKept_of_mem_linesOfBlock hlabel hlines hsum hline
  have hprose : ∀ line ∈ linesOfBlock label lines sum, isOpening line = false := by
    intro line hline
    simp only [linesOfBlock, List.mem_cons, List.mem_append, List.not_mem_nil, or_false] at hline
    rcases hline with rfl | rfl | hline | rfl | rfl
    · exact Bool.eq_false_iff.2 fun hopening => h (isLabel_of_isMarkLine hopening)
    · rfl
    · exact isMarkLine_eq_false rfl (hlines line hline).head?_ne_dash
    · rfl
    · rfl
  rw [strippedLines] at hkept
  rw [decode, hkept, readLines_prose hprose]
  rfl

include hlines hsum hlength in
/-- Whatever the label, a block is refused or read as its payload. -/
theorem decode_blockText_or (hlabel : ∀ c ∈ label.toList, isLineBreak c = false) :
    decode (blockText label (lines.flatMap (· ++ ['\n'])) sum) =
        decodeBlock lines.reverse (some sum) ∨
      decode (blockText label (lines.flatMap (· ++ ['\n'])) sum) = .error (.format .noArmor) := by
  by_cases h : IsLabel label
  · exact .inl (decode_blockText hlines hsum hlength h)
  · exact .inr (decode_blockText_of_not_isLabel hlines hsum hlabel h)

end Reading

/-- The radix-64 lines of a block, some of whose letters were replaced, are read as its octets or
with a wrong checksum. -/
theorem decodeBlock_retyped (h : RetypedRun 4 (blockBody bytes) damaged) :
    ∃ lines : List (List Char), damaged = lines.flatMap (· ++ ['\n']) ∧
      (∀ line ∈ lines, IsRadixLine line) ∧
      (decodeBlock lines.reverse (some (checksumText bytes)) = .ok bytes ∨
        decodeBlock lines.reverse (some (checksumText bytes)) =
          .error (.format .armorChecksumMismatch)) := by
  have hwidth : lineWidth ≠ 0 := by decide
  have hrun := h.differInRun
  obtain ⟨lines, rfl, hlines⟩ := exists_lines_of_retyped h.forall₂
  have hflat := List.rel_flatten hlines
  rw [blockBody, filter_lines, filter_lines, flatten_pieces hwidth] at hrun
  rw [flatten_pieces hwidth] at hflat
  obtain ⟨read, hread, hbits⟩ := exists_decode?_of_retyped hflat hrun
  have hradix : ∀ line ∈ lines, IsRadixLine line :=
    forall_of_forall₂ (fun _ _ hline hradix => isRadixLine_of_retyped hradix hline) hlines
      fun line hline => isRadixLine_of_mem hline
  refine ⟨lines, rfl, hradix, ?_⟩
  rw [decodeBlock_eq_ite hread (decode?_checksumText bytes), ofBigEndian_checksum]
  by_cases hsum : (checksum read).toNat = (checksum bytes).toNat
  · rw [if_pos hsum, ← checksum_injective hbits (BitVec.eq_of_toNat_eq hsum.symm)]
    exact .inl rfl
  · exact .inr (if_neg hsum)

/-- A block with other letters in its checksum text does not have the right checksum. -/
theorem decodeBlock_of_checksumText_ne (h : List.Forall₂ Retyped (checksumText bytes) sum)
    (hne : sum ≠ checksumText bytes) :
    decodeBlock (pieces lineWidth (Radix64.encode bytes)).reverse (some sum) =
      .error (.format .armorChecksumMismatch) := by
  have hlength : sum.length = 4 := by rw [← h.length_eq, length_checksumText]
  have hletters : ∀ c ∈ sum, isLetter c = true :=
    isLetter_of_retyped h fun c hc => isLetter_of_mem_encode (by simp) hc
  obtain ⟨sumBytes, hread, -⟩ := decodeData_letters hletters (by simp [hlength])
  have hsum : decode? sum = some sumBytes := by
    have hpads : decode? (sum ++ List.replicate 0 '=') = decodeData sum :=
      decode?_letters hletters (.inl ⟨by rw [hlength], rfl⟩)
    rwa [List.replicate_zero, List.append_nil, hread] at hpads
  rw [decodeBlock_eq_ite (decode?_radixLines bytes) hsum]
  refine if_neg fun hsame => hne ?_
  have hcount : sumBytes.length = 3 := by rw [(length_of_decodeData hread).2, hlength]
  calc
    sum = Radix64.encode sumBytes := (encode_of_decodeData hread (by rw [hlength])).symm
    _ = Radix64.encode (bigEndian 3 (ofBigEndian sumBytes)) := by
      rw [← hcount, bigEndian_ofBigEndian]
    _ = checksumText bytes := by rw [← hsame]; rfl

section Blocks

variable (hlabel : ∀ c ∈ label.toList, isLineBreak c = false)

include hlabel in
/-- A block with up to four consecutive letters of its body replaced is refused or read as its
octets. -/
theorem decode_of_retypedRun (h : RetypedRun 4 (blockBody bytes) damaged) :
    decode (blockText label damaged (checksumText bytes)) = .ok bytes ∨
      ∃ cause, decode (blockText label damaged (checksumText bytes)) = .error (.format cause) := by
  have hplain : ∀ c ∈ checksumText bytes, IsPlain c := fun c hc => isPlain_of_mem_checksumText hc
  obtain ⟨lines, rfl, hlines, hread⟩ := decodeBlock_retyped h
  rcases decode_blockText_or hlines hplain (length_checksumText bytes) hlabel with h | h
  · rw [h]
    exact hread.imp_right fun hmismatch => ⟨_, hmismatch⟩
  · exact .inr ⟨_, h⟩

include hlabel in
/-- A block with other letters in its checksum is refused. -/
theorem decode_of_checksumText_ne (h : List.Forall₂ Retyped (checksumText bytes) sum)
    (hne : sum ≠ checksumText bytes) :
    ∃ cause, decode (blockText label (blockBody bytes) sum) = .error (.format cause) := by
  have hplain : ∀ c ∈ sum, IsPlain c :=
    forall_of_forall₂ (fun c d hc => hc.isPlain) h fun c hc => isPlain_of_mem_checksumText hc
  have hlength : sum.length = 4 := by rw [← h.length_eq, length_checksumText]
  have hradix : ∀ line ∈ pieces lineWidth (Radix64.encode bytes), IsRadixLine line :=
    fun line hline => isRadixLine_of_mem hline
  rcases decode_blockText_or hradix hplain hlength hlabel with hread | hread
  · exact ⟨_, hread.trans (decodeBlock_of_checksumText_ne h hne)⟩
  · exact ⟨_, hread⟩

end Blocks

/-- A block whose label stands on one line, in which up to four consecutive letters of the body were
replaced by letters, is refused or read as its octets, and with other letters in its checksum it is
refused. Octets that differ in a run of up to 24 bits have different checksums. -/
theorem decode_damaged :
    (∀ bytes label, (∀ c ∈ label.toList, isLineBreak c = false) →
      (encode bytes label []).toList = blockText label (blockBody bytes) (checksumText bytes) ∧
        (∀ body, RetypedRun 4 (blockBody bytes) body →
          decode (blockText label body (checksumText bytes)) = .ok bytes ∨
            ∃ cause, decode (blockText label body (checksumText bytes)) =
              .error (.format cause)) ∧
        ∀ sum, List.Forall₂ Retyped (checksumText bytes) sum → sum ≠ checksumText bytes →
          ∃ cause, decode (blockText label (blockBody bytes) sum) = .error (.format cause)) ∧
      ∀ xs ys, DifferInRun 24 (bitsOf xs) (bitsOf ys) → xs ≠ ys → checksum xs ≠ checksum ys := by
  refine ⟨fun bytes label hlabel => ⟨encode_eq_blockText bytes label, ?_, ?_⟩, ?_⟩
  · exact fun body hbody => decode_of_retypedRun hlabel hbody
  · exact fun sum hsum hne => decode_of_checksumText_ne hlabel hsum hne
  · exact fun xs ys hbits hne hsame => hne (checksum_injective hbits hsame)

/-- Another letter in a body, whose new bits are not read, and other letters in a checksum. -/
theorem decode_damaged_note :
    (∀ c ∈ "NOTE".toList, isLineBreak c = false) ∧
      RetypedRun 4 (blockBody [0xFB, 0xEF]) "++9=\n".toList ∧
      (decode (blockText "NOTE" "++9=\n".toList (checksumText [0xFB, 0xEF])) = .ok [0xFB, 0xEF] ∨
        ∃ cause, decode (blockText "NOTE" "++9=\n".toList (checksumText [0xFB, 0xEF])) =
          .error (.format cause)) ∧
      ∃ cause, decode (blockText "NOTE" (blockBody [0xFB, 0xEF]) "AAAA".toList) =
        .error (.format cause) := by
  have hlabel : ∀ c ∈ "NOTE".toList, isLineBreak c = false :=
    IsLabel.not_isLineBreak ⟨by decide, by decide⟩
  have hbody : blockBody [0xFB, 0xEF] = "++8=\n".toList := by decide +kernel
  have hrun : RetypedRun 4 (blockBody [0xFB, 0xEF]) "++9=\n".toList :=
    ⟨['+', '+'], ['8'], ['9'], ['=', '\n'], hbody, rfl, .cons (.inr (by decide)) .nil, by decide⟩
  have hdigits : checksumText [0xFB, 0xEF] = "IO52".toList := by decide +kernel
  have hsum : List.Forall₂ Retyped (checksumText [0xFB, 0xEF]) "AAAA".toList := by
    rw [hdigits]
    exact .cons (.inr (by decide)) (.cons (.inr (by decide)) (.cons (.inr (by decide))
      (.cons (.inr (by decide)) .nil)))
  have hne : "AAAA".toList ≠ checksumText [0xFB, 0xEF] := by
    rw [hdigits]
    decide
  obtain ⟨-, hread, hrefused⟩ := decode_damaged.1 [0xFB, 0xEF] "NOTE" hlabel
  exact ⟨hlabel, hrun, hread _ hrun, hrefused _ hsum hne⟩

end ArtifactSigning.Armor
