import ArtifactSigning.Credential.Fingerprint
import ArtifactSigning.Proofs.Credential.Resolution
import ArtifactSigning.Proofs.Key.Concatenation
import ArtifactSigning.Proofs.Key.Primitives
import ArtifactSigning.Proofs.Text.Hex
import ArtifactSigning.Proofs.Text.Raw

/-!
# Fingerprints are read as they are written

Apart from blanks, the text of a fingerprint consists of exactly forty hexadecimal digits. Such a
text is read as the octets that its digits spell, and every other one is refused with what it lacks
(`ofText_eq_ok_iff`, `ofText_eq_error_iff`), a raw text that has no octets among them. However the
fingerprint of a key is grouped and whatever the case of its letters, it selects the first key that
has it.
-/
namespace ArtifactSigning.Fingerprint

open Text

variable {text : RawText} {chars : List Char} {bytes : Bytes} {failure : Failure} {key : SecretKey}

/-- Forty digits, which are in lower case the digits of some octets. -/
structure Spelling (chars : List Char) (bytes : Bytes) : Prop where
  length_digits : chars.length = 40
  isHexDigit : ∀ c ∈ chars, Hex.IsHexDigit c
  lower : chars.map Char.toLower = Hex.encode bytes

/-- A text of forty digits and any blanks. -/
def Spelled (text : RawText) (bytes : Bytes) : Prop :=
  ∃ chars, text.withoutBlanks = .ofChars chars ∧ Spelling chars bytes

/-- What is wrong with a text that spells no fingerprint. -/
inductive Lacks (text : RawText) : ConfigurationFault → Prop
  | length (h : text.withoutBlanks.length ≠ 40) :
      Lacks text (.fingerprintLength text.withoutBlanks.length)
  | digit {point : CodePoint} (hlength : text.withoutBlanks.length = 40)
      (hpoint : point ∈ text.withoutBlanks) (h : ∀ c, point = .char c → ¬Hex.IsHexDigit c) :
      Lacks text .fingerprintDigits

/-- Octets may be spelled with ASCII blanks between them, but all blanks are gone by then. -/
theorem not_isAsciiBlank_of_mem {c : Char} (htext : text.withoutBlanks = .ofChars chars)
    (h : c ∈ chars) : isAsciiBlank c = false := by
  have hmem : .char c ∈ text.withoutBlanks := htext ▸ RawText.char_mem_ofChars_iff.2 h
  have hblank : isBlank c = false := by
    simpa [CodePoint.isIn] using (List.mem_filter.1 hmem).2
  rw [← Bool.not_eq_true] at hblank ⊢
  exact fun hascii => hblank (isBlank_of_isAsciiBlank hascii)

/-- The octets are read from the digits alone. -/
theorem spelling_iff_spells (hblank : ∀ c ∈ chars, isAsciiBlank c = false) :
    Spelling chars bytes ↔ chars.length = 40 ∧ Hex.Spells bytes chars := by
  rw [Hex.spells_iff_lower hblank]
  exact ⟨fun h => ⟨h.length_digits, h.lower⟩, fun h =>
    ⟨h.1, ((Hex.spells_iff_lower hblank).2 h.2).isHexDigit hblank, h.2⟩⟩

/-- A text spells a fingerprint, or it lacks something. -/
theorem spelled_or_lacks (text : RawText) :
    (∃ bytes, Spelled text bytes) ∨ ∃ fault, Lacks text fault := by
  by_cases hlength : text.withoutBlanks.length = 40
  · rcases text.withoutBlanks.isText_or_fault with ⟨chars, htext⟩ | ⟨fault, hfault⟩
    · by_cases hdigits : ∀ c ∈ chars, Hex.IsHexDigit c
      · have hcount : chars.length = 2 * 20 := by
          rw [← RawText.length_ofChars, ← htext, hlength]
        obtain ⟨bytes, hbytes⟩ := Hex.exists_spells hcount hdigits
        have hblank : ∀ c ∈ chars, isAsciiBlank c = false := fun _ =>
          not_isAsciiBlank_of_mem htext
        exact .inl ⟨bytes, chars, htext, (spelling_iff_spells hblank).2 ⟨hcount, hbytes⟩⟩
      · obtain ⟨c, hc⟩ := Classical.not_forall.1 hdigits
        obtain ⟨hc, h⟩ := Classical.not_imp.1 hc
        refine .inr ⟨_, .digit hlength (htext ▸ RawText.char_mem_ofChars_iff.2 hc) ?_⟩
        rintro _ ⟨⟩
        exact h
    · obtain ⟨offset, hoffset⟩ := RawText.exists_half_of_fault hfault
      exact .inr ⟨_, .digit hlength hoffset nofun⟩
  · exact .inr ⟨_, .length hlength⟩

theorem ofText_eq_ite (text : RawText) :
    ofText text =
      if text.withoutBlanks.length = 40 then
        match text.withoutBlanks.characters.toOption.bind Hex.decode? with
        | some bytes => .ok bytes
        | none => .error (.configuration .fingerprintDigits)
      else .error (.configuration (.fingerprintLength text.withoutBlanks.length)) := rfl

theorem ofText_of_spelled (h : Spelled text bytes) : ofText text = .ok bytes := by
  obtain ⟨chars, htext, hspelling⟩ := h
  obtain ⟨hlength, hspells⟩ :=
    (spelling_iff_spells fun _ => not_isAsciiBlank_of_mem htext).1 hspelling
  rw [ofText_eq_ite, htext, RawText.length_ofChars, if_pos hlength, RawText.characters_ofChars]
  change (match Hex.decode? chars with | some bytes => _ | none => _) = _
  rw [Hex.decode?_eq_some_iff.2 hspells]

theorem ofText_of_lacks {fault : ConfigurationFault} (h : Lacks text fault) :
    ofText text = .error (.configuration fault) := by
  cases h with
  | length h => rw [ofText_eq_ite, if_neg h]
  | @digit point hlength hpoint h =>
      have hnone : text.withoutBlanks.characters.toOption.bind Hex.decode? = none := by
        rcases text.withoutBlanks.isText_or_fault with ⟨chars, htext⟩ | ⟨fault, hfault⟩
        · have hblank : ∀ c ∈ chars, isAsciiBlank c = false := fun _ =>
            not_isAsciiBlank_of_mem htext
          obtain ⟨c, hc, rfl⟩ := List.mem_map.1 (htext ▸ hpoint)
          rw [htext, RawText.characters_ofChars]
          refine Option.eq_none_iff_forall_ne_some.2 fun bytes hbytes => ?_
          exact h c rfl ((Hex.decode?_eq_some_iff.1 hbytes).isHexDigit hblank c hc)
        · rw [hfault]
          rfl
      rw [ofText_eq_ite, if_pos hlength, hnone]

theorem ofText_eq_ok_iff : ofText text = .ok bytes ↔ Spelled text bytes := by
  refine ⟨fun h => ?_, ofText_of_spelled⟩
  rcases spelled_or_lacks text with ⟨other, hother⟩ | ⟨fault, hfault⟩
  · rw [ofText_of_spelled hother] at h
    cases h
    exact hother
  · rw [ofText_of_lacks hfault] at h
    cases h

/-- A text that lacks something is refused with just that, and no other text is. -/
theorem ofText_eq_error_iff :
    ofText text = .error failure ↔ ∃ fault, Lacks text fault ∧ failure = .configuration fault := by
  constructor
  · intro h
    rcases spelled_or_lacks text with ⟨bytes, hbytes⟩ | ⟨fault, hfault⟩
    · rw [ofText_of_spelled hbytes] at h
      cases h
    · rw [ofText_of_lacks hfault] at h
      cases h
      exact ⟨fault, hfault, rfl⟩
  · rintro ⟨fault, hfault, rfl⟩
    exact ofText_of_lacks hfault

/-- The digits of the fingerprint of a key, in any groups and with letters of either case. -/
def Regroups (key : SecretKey) (text : RawText) : Prop :=
  ∃ chars, text.withoutBlanks = .ofChars chars ∧
    chars.map Char.toLower = key.fingerprintText.toList.map Char.toLower

theorem spelled_of_regroups (h : Regroups key text) : Spelled text key.fingerprint := by
  obtain ⟨chars, htext, hregroups⟩ := h
  have hlower : chars.map Char.toLower = Hex.encode key.fingerprint := by
    rw [hregroups, SecretKey.fingerprintText, String.toList_ofList, Hex.lower_encodeUpper]
  have hblank : ∀ c ∈ chars, isAsciiBlank c = false := fun _ => not_isAsciiBlank_of_mem htext
  refine ⟨chars, htext, (spelling_iff_spells hblank).2
    ⟨?_, (Hex.spells_iff_lower hblank).2 hlower⟩⟩
  rw [← List.length_map Char.toLower, hlower, Hex.length_encode, key.length_fingerprint]

/-- A key of some rings, or another one with its fingerprint in front of it, is selected. -/
theorem exists_select? {rings : List KeyRing} (h : key ∈ KeyRing.allKeys rings) :
    ∃ found, KeyRing.select? rings (some key.fingerprint) = some found ∧
      IsFirst (fun other => other.fingerprint = key.fingerprint) (KeyRing.allKeys rings) found := by
  cases hfound : KeyRing.select? rings (some key.fingerprint) with
  | none => exact absurd rfl (Resolver.select?_eq_none_iff.1 hfound key h)
  | some found => exact ⟨found, rfl, Resolver.select?_eq_some_iff.1 hfound⟩

/-- A text is read as a fingerprint exactly if without its blanks it consists of forty digits, and
then as the octets that the digits spell; every other text is refused with what it lacks. So the
fingerprint of a key in any material selects the first key that has it, however its digits are
grouped and whatever the case of its letters. -/
theorem fingerprint_read_exactly (text : RawText) :
    (∀ bytes, ofText? (some text) = .ok (some bytes) ↔ Spelled text bytes) ∧
      ((∀ bytes, ¬Spelled text bytes) →
        ∃ fault, Lacks text fault ∧ ofText? (some text) = .error (.configuration fault)) ∧
      ∀ material rings key, KeyRing.ofMaterial material = .ok rings →
        key ∈ KeyRing.allKeys rings → Regroups key text →
          ∃ fingerprint? found, ofText? (some text) = .ok fingerprint? ∧
            KeyRing.select? rings fingerprint? = some found ∧
            IsFirst (fun other => other.fingerprint = key.fingerprint) (KeyRing.allKeys rings)
              found := by
  have hread (bytes : Bytes) :
      ofText? (some text) = .ok (some bytes) ↔ Spelled text bytes := by
    rw [← ofText_eq_ok_iff, ofText?]
    cases ofText text <;> simp [Except.map]
  refine ⟨hread, fun hnone => ?_, fun material rings key _ hkey hregroups => ?_⟩
  · obtain ⟨fault, hfault⟩ := (spelled_or_lacks text).resolve_left fun ⟨bytes, hbytes⟩ =>
      hnone bytes hbytes
    refine ⟨fault, hfault, ?_⟩
    rw [ofText?, ofText_of_lacks hfault]
    rfl
  · obtain ⟨found, hfound, hfirst⟩ := exists_select? hkey
    exact ⟨_, found, (hread _).2 (spelled_of_regroups hregroups), hfound, hfirst⟩

/-- The fingerprint of the key in `keyPacket`, in groups that are not all the same. -/
def groupedFingerprint : RawText :=
  .ofString "1E99 ABC0 c202 ac39 929a\u2003\t AB7C 7EDF 2976 b0b1 5F30\n"

theorem fingerprint_read_exactly_in_groups :
    ∃ rings key fingerprint? found, KeyRing.ofMaterial KeyRing.keyPacket = .ok rings ∧
      key ∈ KeyRing.allKeys rings ∧ Regroups key groupedFingerprint ∧
      ofText? (some groupedFingerprint) = .ok fingerprint? ∧
      KeyRing.select? rings fingerprint? = some found := by
  have hkeys : (KeyRing.ofMaterial KeyRing.keyPacket).toOption.map (fun rings =>
      (KeyRing.allKeys rings).map SecretKey.fingerprintText) =
        some ["1E99ABC0C202AC39929AAB7C7EDF2976B0B15F30"] := by decide +kernel
  obtain ⟨rings, hrings, hkeys⟩ := Option.map_eq_some_iff.1 hkeys
  have hparsed : KeyRing.ofMaterial KeyRing.keyPacket = .ok rings := by
    cases hmaterial : KeyRing.ofMaterial KeyRing.keyPacket with
    | error failure => rw [hmaterial] at hrings; cases hrings
    | ok other => rw [hmaterial] at hrings; cases hrings; rfl
  obtain ⟨key, keys, hall, hkey, -⟩ := List.map_eq_cons_iff.1 hkeys
  have hmem : key ∈ KeyRing.allKeys rings := hall ▸ List.mem_cons_self
  have hregroups : Regroups key groupedFingerprint := by
    refine ⟨"1E99ABC0c202ac39929aAB7C7EDF2976b0b15F30".toList, by decide +kernel, ?_⟩
    rw [hkey]
    decide +kernel
  obtain ⟨fingerprint?, found, hread, hselected, -⟩ :=
    (fingerprint_read_exactly groupedFingerprint).2.2 _ rings key hparsed hmem hregroups
  exact ⟨rings, key, fingerprint?, found, hparsed, hmem, hregroups, hread, hselected⟩

end ArtifactSigning.Fingerprint
