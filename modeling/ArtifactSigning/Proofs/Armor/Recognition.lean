import ArtifactSigning.Proofs.Armor.Document

/-!
# Telling armored octets from others

Octets are armored if they begin with an opening mark after ASCII blanks. Blanks in front of a
document are passed over when it is read (`decode_append_blanks`), and octets outside the ASCII
range never begin armored ones.
-/
namespace ArtifactSigning.Armor

open Text

variable {text blanks : List Char} {c : Char}

theorem decode_cons_blank (h : isAsciiBlank c = true) : decode (c :: text) = decode text := by
  rcases strippedLines_cons_blank h text with hlines | hlines
  · rw [strippedLines, strippedLines] at hlines
    rw [decode, decode, hlines]
  · have hread : readLine ⟨.outside, []⟩ [] = .ok ⟨.outside, []⟩ := rfl
    rw [strippedLines, strippedLines] at hlines
    rw [decode, decode, hlines, List.foldlM_cons, hread]
    rfl

/-- Blanks in front of a document do not count. -/
theorem decode_append_blanks (h : ∀ c ∈ blanks, isAsciiBlank c = true) :
    decode (blanks ++ text) = decode text := by
  induction blanks with
  | nil => rfl
  | cons c blanks ih =>
      rw [List.cons_append, decode_cons_blank (h c List.mem_cons_self)]
      exact ih fun d hd => h d (.tail _ hd)

/-- Whether octets are ASCII blanks. -/
def AreBlanks (octets : Bytes) : Prop := ∀ b ∈ octets, isAsciiBlank (Char.ofUInt8 b) = true

theorem toNat_ofUInt8 (b : UInt8) : (Char.ofUInt8 b).toNat = b.toNat := UInt8.toNat_toUInt32 b

theorem toNat_of_isAsciiBlank (h : isAsciiBlank c = true) : c.toNat ≤ 32 := by
  simp only [isAsciiBlank, Bool.or_eq_true, beq_iff_eq, Bool.and_eq_true, decide_eq_true_eq] at h
  rcases h with rfl | ⟨-, h⟩
  · decide
  · omega

/-- Blanks are the octets of a text of blanks. -/
theorem AreBlanks.eq_encode {front : Bytes} (h : AreBlanks front) :
    (∀ c ∈ front.map Char.ofUInt8, isAsciiBlank c = true) ∧
      front = Utf8.encode (front.map Char.ofUInt8) := by
  have hblanks : ∀ c ∈ front.map Char.ofUInt8, isAsciiBlank c = true := by
    simpa [AreBlanks] using h
  have hascii : ∀ c ∈ front.map Char.ofUInt8, c.toNat < 0x80 := fun c hc => by
    have hle := toNat_of_isAsciiBlank (hblanks c hc)
    omega
  refine ⟨hblanks, ?_⟩
  rw [Utf8.encode_ascii hascii, List.map_map]
  simp [Function.comp_def, toNat_ofUInt8]

theorem decodeBytes_append_blanks {front : Bytes} (h : AreBlanks front) :
    decodeBytes (front ++ Utf8.encode text) = decode text := by
  obtain ⟨hblanks, hfront⟩ := h.eq_encode
  rw [hfront, ← Utf8.encode_append, decodeBytes, Utf8.decodeLossy_encode,
    decode_append_blanks hblanks]

/-- A document that begins with an opening mark is recognised. -/
theorem isArmored_append_blanks {front : Bytes} (h : AreBlanks front)
    (hmark : openingMark <+: text) : isArmored (front ++ Utf8.encode text) = true := by
  obtain ⟨rest, rfl⟩ := hmark
  have hall : openingMark.all (·.toNat < 0x80) = true := by decide
  have hascii : Utf8.encode openingMark = openingMark.map fun c => UInt8.ofNat c.toNat :=
    Utf8.encode_ascii fun c hc => of_decide_eq_true (List.all_eq_true.1 hall c hc)
  rw [isArmored, List.dropWhile_append_of_pos h, Utf8.encode_append, hascii,
    List.isPrefixOf_iff_prefix]
  exact List.prefix_append _ _

/-- Octets that do not begin with an ASCII character are not armored. -/
theorem isArmored_cons_eq_false {b : UInt8} {octets : Bytes} (h : 0x80 ≤ b.toNat) :
    isArmored (b :: octets) = false := by
  have hblank : ¬isAsciiBlank (Char.ofUInt8 b) = true := by
    intro hblank
    have hle := toNat_of_isAsciiBlank hblank
    rw [toNat_ofUInt8] at hle
    omega
  have hkept : (b :: octets).dropWhile (fun b => isAsciiBlank (Char.ofUInt8 b)) = b :: octets :=
    List.dropWhile_cons_of_neg hblank
  rw [isArmored, hkept, Bool.eq_false_iff, ne_eq, List.isPrefixOf_iff_prefix]
  rintro ⟨rest, hrest⟩
  have hdash : 45 = b := (List.cons.inj hrest).1
  rw [← hdash] at h
  exact absurd h (by decide)

theorem openingMark_prefix_encode (bytes : Bytes) (label : String) :
    openingMark <+: (encode bytes label []).toList := by
  rw [encode, String.toList_ofList, blockLines_eq, linesOfBlock, List.flatMap_cons, markLine]
  simp only [List.append_assoc, List.prefix_append]

end ArtifactSigning.Armor
