import ArtifactSigning.Proofs.Agent.Request
import ArtifactSigning.Proofs.Agent.Writing
import ArtifactSigning.Proofs.Text.Hex
import ArtifactSigning.Proofs.Text.Separated
import ArtifactSigning.Proofs.Text.Utf8

/-!
# Fields of requests

The words of a request are read back from its line, and the text of every field from its word. So
no two requests are written as one line.
-/
namespace ArtifactSigning.Agent

open Text

variable {c : Char} {request other : Request}

section Decoding

/-- All characters but two stand for themselves. -/
theorem decodeField_cons (hplus : c ≠ '+') (hpercent : c ≠ '%') (rest : List Char) :
    decodeField (c :: rest) = c :: decodeField rest := by
  rw [decodeField.eq_def]
  split <;> simp_all

/-- A character that has to be written by its number is one of ASCII. -/
theorem toNat_lt_of_needsEscape (h : needsEscape c = true) : c.toNat < 0x80 := by
  simp only [needsEscape, Bool.or_eq_true, decide_eq_true_eq] at h
  rcases h with ((rfl | rfl) | hcontrol) | hdelete
  · decide
  · decide
  · omega
  · omega

theorem encodeUpper_singleton (b : UInt8) : Hex.encodeUpper [b] =
    [(Hex.digit (b.toNat / 16)).toUpper, (Hex.digit (b.toNat % 16)).toUpper] := rfl

theorem value?_upper : ∀ n < 16, Hex.value? (Hex.digit n).toUpper = some n := by decide

/-- A character is read back from what stands for it. -/
theorem decodeField_escapeChar (c : Char) (rest : List Char) :
    decodeField (escapeChar c ++ rest) = c :: decodeField rest := by
  rw [escapeChar]
  by_cases hspace : c = ' '
  · rw [if_pos hspace, hspace]
    rfl
  · rw [if_neg hspace]
    by_cases hescape : needsEscape c = true
    · have hlt := toNat_lt_of_needsEscape hescape
      have hoctet : (UInt8.ofNat c.toNat).toNat = c.toNat := by
        rw [UInt8.toNat_ofNat', Nat.mod_eq_of_lt (by omega)]
      have hhigh := value?_upper (c.toNat / 16) (by omega)
      have hlow := value?_upper (c.toNat % 16) (by omega)
      rw [if_pos hescape, encodeUpper_singleton, hoctet]
      simp only [List.cons_append, List.nil_append, decodeField, hhigh, hlow, Nat.div_add_mod',
        Char.ofNat_toNat]
    · simp only [needsEscape, Bool.or_eq_true, decide_eq_true_eq, not_or] at hescape
      rw [if_neg (by simpa [needsEscape] using hescape), List.singleton_append,
        decodeField_cons hescape.1.1.2 hescape.1.1.1]

/-- A field is read back from its word. -/
theorem decodeField_escapeField (field : List Char) : decodeField (escapeField field) = field := by
  induction field with
  | nil => rfl
  | cons c field ih =>
      rw [escapeField, List.flatMap_cons, decodeField_escapeChar, ← escapeField, ih]

end Decoding

/-- The first word says what is asked for, and the second one says so if nobody is to be asked. The
other four are the fields. -/
theorem words_eq (request : Request) :
    request.words = "GET_PASSPHRASE".toList ::
      ((if request.noAsk then ["--no-ask".toList] else []) ++
        request.fields.map escapeField) := by
  rw [Request.words, List.append_assoc, List.singleton_append]

/-- The words of a request are read back from its line. -/
theorem separated_line (request : Request) : separated ' ' request.line = request.words := by
  have hne : request.words ≠ [] := by
    rw [words_eq]
    exact List.cons_ne_nil _ _
  rw [Request.line]
  refine separated_intercalate hne fun word hword hspace => ?_
  exact absurd (isWordChar_of_mem_words hword hspace) (by decide)

theorem map_decodeField (request : Request) :
    (request.fields.map escapeField).map decodeField = request.fields := by
  rw [List.map_map]
  exact List.map_id'' decodeField_escapeField _

theorem eq_of_fields_eq (hnoAsk : request.noAsk = other.noAsk)
    (hfields : request.fields = other.fields) : request = other := by
  obtain ⟨cacheId, noAsk, errorMessage, label, description⟩ := request
  obtain ⟨cacheId', noAsk', errorMessage', label', description'⟩ := other
  simp only [Request.fields, List.map_cons, List.map_nil, List.cons.injEq, String.toList_inj,
    and_true] at hfields
  obtain ⟨rfl, rfl, rfl, rfl⟩ := hfields
  cases hnoAsk
  rfl

/-- A request is determined by its words: their number shows whether nobody is to be asked. -/
theorem eq_of_words_eq (h : request.words = other.words) : request = other := by
  rw [words_eq, words_eq, List.cons_inj_right] at h
  have hlength (r : Request) : (r.fields.map escapeField).length = 4 := rfl
  have hcount := congrArg List.length h
  rw [List.length_append, List.length_append, hlength, hlength] at hcount
  have hnoAsk : request.noAsk = other.noAsk := by
    cases hask : request.noAsk <;> cases hask' : other.noAsk <;>
      simp [hask, hask'] at hcount ⊢
  rw [hnoAsk, List.append_cancel_left_eq] at h
  refine eq_of_fields_eq hnoAsk ?_
  rw [← map_decodeField request, h, map_decodeField]

theorem octets_of_line {b : UInt8} (h : b ∈ Utf8.encode request.line) :
    0x20 ≤ b.toNat ∧ b.toNat ≠ 0x7F := by
  by_cases hascii : b.toNat < 0x80
  · obtain ⟨c, hc, heq⟩ := Utf8.mem_of_mem_encode h hascii
    rw [← heq]
    exact plain_of_mem_line hc
  · omega

/-- A request is sent as its line, behind the offers of all options, or it is not sent. -/
theorem sent_request {peer : Peer} {path text : String} {environment : Variables}
    (h : (converse peer path environment request).sent = some text) :
    ∃ offers : List (List Char), offers.map RawText.ofChars <+: optionLines environment ∧
      (text.toList = offers.flatMap (· ++ ['\n']) ∨
        offers.map RawText.ofChars = optionLines environment ∧
          text.toList = offers.flatMap (· ++ ['\n']) ++ request.line ++ ['\n']) := by
  have hsent := sent_eq peer path environment request
  rw [h] at hsent
  split at hsent
  · cases hsent
  · rw [Option.some.inj hsent, sentText, String.toList_ofList]
    rcases List.prefix_concat_iff.1 (commands_isPrefix peer path environment request) with
      hall | hsome
    · obtain ⟨offers, last, hcommands, hoffers, hlast⟩ := List.map_eq_append_iff.1 hall
      obtain ⟨line, rfl, hline⟩ := List.map_eq_singleton_iff.1 hlast
      refine ⟨offers, hoffers ▸ List.prefix_rfl, .inr ⟨hoffers, ?_⟩⟩
      rw [hcommands, RawText.ofChars_injective hline, List.flatMap_append, List.flatMap_singleton,
        List.append_assoc]
    · exact ⟨_, hsome, .inl rfl⟩

/-- A request is written as one line, and every field keeps its place and its text in it. -/
theorem fields_of_line (request : Request) :
    (∃ octets, Utf8.encode (request.line ++ ['\n']) = octets ++ [lineEnd] ∧
        ∀ b ∈ octets, 0x20 ≤ b.toNat ∧ b.toNat ≠ 0x7F) ∧
      (∃ coded, coded.length = 4 ∧
        separated ' ' request.line = "GET_PASSPHRASE".toList ::
          ((if request.noAsk then ["--no-ask".toList] else []) ++ coded) ∧
        coded.map decodeField =
          [request.cacheId, request.errorMessage, request.label, request.description].map
            String.toList) ∧
      (∀ other : Request, other.line = request.line → other = request) ∧
      ∀ peer path environment text, (converse peer path environment request).sent = some text →
        ∃ offers : List (List Char), offers.map RawText.ofChars <+: optionLines environment ∧
          (text.toList = offers.flatMap (· ++ ['\n']) ∨
            offers.map RawText.ofChars = optionLines environment ∧
              text.toList = offers.flatMap (· ++ ['\n']) ++ request.line ++ ['\n']) := by
  refine ⟨⟨Utf8.encode request.line, Utf8.encode_append _ _, fun b => octets_of_line⟩,
    ⟨request.fields.map escapeField, rfl, ?_, map_decodeField request⟩, fun other hline => ?_,
    fun peer path environment text => sent_request⟩
  · rw [separated_line, words_eq]
  · refine eq_of_words_eq ?_
    rw [← separated_line, hline, separated_line]

end ArtifactSigning.Agent
