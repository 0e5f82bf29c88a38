import ArtifactSigning.Text.Raw
import Mathlib.Data.List.Basic

/-!
# Raw texts and their characters

A raw text has octets exactly if it consists of characters, and then its octets are those of the
characters. So a raw text is one of characters, or it has a fault.
-/
namespace ArtifactSigning.RawText

variable {text front back : RawText} {chars other : List Char} {fault : EncodingFault}

/-- The raw text consists of characters. -/
def IsText (text : RawText) : Prop := ∃ chars, text = ofChars chars

theorem ofChars_append (chars other : List Char) :
    ofChars (chars ++ other) = ofChars chars ++ ofChars other := List.map_append

theorem ofChars_injective : Function.Injective ofChars :=
  List.map_injective_iff.2 fun _ _ => CodePoint.char.inj

theorem length_ofChars (chars : List Char) : (ofChars chars).length = chars.length :=
  List.length_map _

theorem char_mem_ofChars_iff {c : Char} : .char c ∈ ofChars chars ↔ c ∈ chars := by
  simp [ofChars]

/-- The parts of a text of characters are of characters. -/
theorem append_eq_ofChars_iff : front ++ back = ofChars chars ↔
    ∃ before after, chars = before ++ after ∧ front = ofChars before ∧ back = ofChars after := by
  constructor
  · intro h
    obtain ⟨before, after, hchars, hfront, hback⟩ := List.map_eq_append_iff.1 h.symm
    exact ⟨before, after, hchars, hfront.symm, hback.symm⟩
  · rintro ⟨before, after, rfl, rfl, rfl⟩
    exact (ofChars_append before after).symm

theorem characters_ofChars (chars : List Char) : (ofChars chars).characters = .ok chars := by
  induction chars with
  | nil => rfl
  | cons c chars ih =>
      rw [ofChars] at ih ⊢
      rw [List.map_cons, characters, ih]

theorem characters_eq_ok_iff : text.characters = .ok chars ↔ text = ofChars chars := by
  refine ⟨fun h => ?_, fun h => h ▸ characters_ofChars chars⟩
  induction text generalizing chars with
  | nil => exact Except.ok.inj h ▸ rfl
  | cons point text ih =>
      cases point with
      | char c =>
          rw [characters] at h
          cases hrest : characters text with
          | error fault => rw [hrest] at h; cases h
          | ok rest =>
              rw [hrest] at h
              rw [← Except.ok.inj h, ih hrest]
              rfl
      | half offset => cases h

/-- A character at the end of a text adds no fault and takes none away. -/
theorem characters_append_char (text : RawText) (c : Char) :
    characters (text ++ [.char c]) = text.characters.map (· ++ [c]) := by
  induction text with
  | nil => rfl
  | cons point text ih =>
      rw [List.cons_append]
      cases point with
      | char d =>
          rw [characters, characters, ih]
          cases characters text <;> rfl
      | half offset =>
          rw [characters, characters, List.takeWhile_append]
          split
          · rename_i hall
            simp [CodePoint.isHalf, Except.map, hall]
          · rfl

/-- A raw text consists of characters, or it has a fault. -/
theorem isText_or_fault (text : RawText) :
    text.IsText ∨ ∃ fault, text.characters = .error fault := by
  cases h : text.characters with
  | ok chars => exact .inl ⟨chars, characters_eq_ok_iff.1 h⟩
  | error fault => exact .inr ⟨fault, rfl⟩

theorem exists_half_of_fault (h : text.characters = .error fault) :
    ∃ offset, .half offset ∈ text := by
  induction text generalizing fault with
  | nil => cases h
  | cons point text ih =>
      cases point with
      | half offset => exact ⟨offset, List.mem_cons_self⟩
      | char c =>
          rw [characters] at h
          cases hrest : characters text with
          | ok rest =>
              rw [hrest] at h
              cases h
          | error fault' =>
              obtain ⟨offset, hoffset⟩ := ih hrest
              exact ⟨offset, List.mem_cons_of_mem _ hoffset⟩

theorem IsText.characters_ne (h : text.IsText) : text.characters ≠ .error fault := by
  obtain ⟨chars, rfl⟩ := h
  rw [characters_ofChars]
  exact nofun

theorem encode_ofChars (chars : List Char) :
    (ofChars chars).encode = .ok (Text.Utf8.encode chars) := by
  rw [encode, characters_ofChars]
  rfl

end ArtifactSigning.RawText
