import ArtifactSigning.Proofs.Agent.CutAnswers
import ArtifactSigning.Proofs.Text.Digit

/-!
# Refusals and their codes

An agent that goes on reading has one of five things come of an exchange: a passphrase, a refusal, a
fault, a refusal whose code cannot be read, or an offer that cannot be sent because it is no text.
The code of a refusal is the number that its second word spells. A second word of digits that spells
no number, or one that is too long, cannot be read.
-/
namespace ArtifactSigning.Agent

open Text

/-- The code of a refusal: what the second word spells, if it is a numeral. -/
def IsCode (answer : List Char) : Option Nat → Prop
  | some code => ∃ word, (words answer)[1]? = some word ∧ IsNumeral word ∧ numberOf word = code
  | none => ∀ word, (words answer)[1]? = some word → ¬IsNumeral word

variable {peer : Peer} {environment : Variables} {answer : List Char}
  {code? : Option Nat} {failure : Failure}

section Codes

theorem hasUnreadableCode_iff : HasUnreadableCode answer ↔ ∃ word,
    (words answer)[1]? = some word ∧ (∀ c ∈ word, isDigitLike c = true) ∧
      (IsNumeral word → maxDigits < word.length) := by
  simp only [HasUnreadableCode, List.all_eq_true, readDecimal?_eq_none_iff]

theorem IsCode.unique {other? : Option Nat} (h : IsCode answer code?) (h' : IsCode answer other?) :
    code? = other? := by
  match code?, other?, h, h' with
  | none, none, _, _ => rfl
  | none, some _, hnone, ⟨word, hword, hnumeral, _⟩ => exact absurd hnumeral (hnone word hword)
  | some _, none, ⟨word, hword, hnumeral, _⟩, hnone => exact absurd hnumeral (hnone word hword)
  | some _, some _, ⟨word, hword, _, rfl⟩, ⟨word', hword', _, rfl⟩ =>
      rw [Option.some.inj (hword.symm.trans hword')]

theorem isCode_of_refusalCode (h : refusalCode answer = .ok code?) : IsCode answer code? := by
  rw [refusalCode] at h
  split at h
  · rename_i first word others hwords
    have hsecond : (words answer)[1]? = some word := by rw [hwords]; rfl
    split at h
    · split at h
      · rename_i code hread
        obtain ⟨hnumeral, -, hcode⟩ := readDecimal?_eq_some_iff.1 hread
        cases h
        exact ⟨word, hsecond, hnumeral, hcode⟩
      · cases h
    · rename_i hdigits
      cases h
      intro other hother hnumeral
      obtain rfl := Option.some.inj (hsecond.symm.trans hother)
      exact hdigits hnumeral.all_isDigitLike
  · rename_i hshort
    cases h
    intro word hword
    match hwords : words answer with
    | [] => simp [hwords] at hword
    | [_] => simp [hwords] at hword
    | first :: second :: others => exact absurd hwords (hshort first second others)

/-- The code of a refusal is read unless it cannot be read. -/
theorem refusalCode_eq_ok_iff : refusalCode answer = .ok code? ↔
    ¬HasUnreadableCode answer ∧ IsCode answer code? := by
  rcases refusalCode_eq answer with ⟨hunreadable, hread⟩ | ⟨hreadable, other?, hread⟩
  · rw [hread]
    exact ⟨nofun, fun h => absurd hunreadable h.1⟩
  · have hother := isCode_of_refusalCode hread
    rw [hread, Except.ok.injEq]
    refine ⟨?_, fun h => hother.unique h.2⟩
    rintro rfl
    exact ⟨hreadable, hother⟩

end Codes

section Answers

theorem passphraseOf_of_refusalCode (h : isRefusal answer = true)
    (hcode : refusalCode answer = .ok code?) :
    passphraseOf answer = .error (.agent (.refused (String.ofList answer) code?)) := by
  rw [passphraseOf, if_pos h, hcode]
  rfl

theorem passphraseOf_eq_refused_iff {line : String} :
    passphraseOf answer = .error (.agent (.refused line code?)) ↔ isRefusal answer = true ∧
      ¬HasUnreadableCode answer ∧ line = String.ofList answer ∧ IsCode answer code? := by
  constructor
  · intro h
    by_cases hrefusal : isRefusal answer = true
    · rcases refusalCode_eq answer with ⟨hunreadable, -⟩ | ⟨hreadable, other?, hread⟩
      · cases h.symm.trans ((passphraseOf_of_isRefusal hrefusal).1 hunreadable)
      · cases h.symm.trans (passphraseOf_of_refusalCode hrefusal hread)
        exact ⟨hrefusal, hreadable, rfl, isCode_of_refusalCode hread⟩
    · rcases passphraseOf_of_not_isRefusal hrefusal with
        ⟨passphrase, hread⟩ | ⟨fault, hfault, hread⟩
      · cases h.symm.trans hread
      · cases h.symm.trans hread
        exact absurd ⟨_, _, rfl⟩ hfault.not_isRefused
  · rintro ⟨hrefusal, hreadable, rfl, hcode⟩
    exact passphraseOf_of_refusalCode hrefusal (refusalCode_eq_ok_iff.2 ⟨hreadable, hcode⟩)

theorem passphraseOf_eq_invalidValue_iff : passphraseOf answer = .error .invalidValue ↔
    isRefusal answer = true ∧ HasUnreadableCode answer := by
  refine ⟨fun h => ?_, fun h => (passphraseOf_of_isRefusal h.1).1 h.2⟩
  by_cases hrefusal : isRefusal answer = true
  · refine ⟨hrefusal, ?_⟩
    by_contra hreadable
    obtain ⟨fault, -, hread⟩ := (passphraseOf_of_isRefusal hrefusal).2 hreadable
    cases h.symm.trans hread
  · rcases passphraseOf_of_not_isRefusal hrefusal with ⟨passphrase, hread⟩ | ⟨fault, -, hread⟩
    · cases h.symm.trans hread
    · cases h.symm.trans hread

end Answers

section Exchanges

variable (path : String) (request : Request)

/-- The failures that are no faults of an exchange and do not stop one come from the answer to the
request. -/
theorem result_eq_error_iff (hstops : ¬peer.Stops environment failure)
    (hfailure : ∀ fault, IsProtocolFault fault → failure ≠ .agent fault) :
    (converse peer path environment request).result = .error failure ↔
      ∃ answer, peer.Concludes environment answer ∧ passphraseOf answer = .error failure := by
  constructor
  · intro h
    rcases result_cases peer path environment request with
      ⟨other, hother, hresult⟩ | ⟨answer, hconcludes, hresult⟩ | ⟨-, -, fault, hfault, hresult⟩
    · exact absurd (Except.error.inj (h.symm.trans hresult) ▸ hother) hstops
    · exact ⟨answer, hconcludes, hresult.symm.trans h⟩
    · exact absurd (Except.error.inj (h.symm.trans hresult)) (hfailure fault hfault)
  · rintro ⟨answer, hconcludes, hread⟩
    rw [result_of_concludes path request hconcludes, hread]

end Exchanges

/-- An exchange with an agent that goes on reading gives a passphrase, fails by a fault, or is
refused by a refusal with its code, unless this code cannot be read, or else it stops at the first
offer that is no text. -/
theorem refused_iff_answer (replies : Bytes) (path : String) (environment : Variables)
    (request : Request) :
    let peer : Peer := ⟨replies, .close⟩
    let result := (converse peer path environment request).result
    ((∃ passphrase, result = .ok passphrase) ∨
      (∃ fault, IsProtocolFault fault ∧ result = .error (.agent fault)) ∨
      (∃ line code?, result = .error (.agent (.refused line code?))) ∨
      result = .error .invalidValue ∨ ∃ fault, result = .error (.unencodable fault)) ∧
    (∀ line code?, result = .error (.agent (.refused line code?)) ↔ ∃ answer,
      peer.Concludes environment answer ∧ isRefusal answer = true ∧ ¬HasUnreadableCode answer ∧
        line = String.ofList answer ∧ IsCode answer code?) ∧
    (result = .error .invalidValue ↔ ∃ answer, peer.Concludes environment answer ∧
      isRefusal answer = true ∧ ∃ word, (words answer)[1]? = some word ∧
        (∀ c ∈ word, isDigitLike c = true) ∧ (IsNumeral word → maxDigits < word.length)) ∧
    ∀ fault, result = .error (.unencodable fault) ↔ ∃ i line,
      (optionLines environment)[i]? = some line ∧ line.characters = .error fault ∧
        (∀ other ∈ (optionLines environment).take i, other.IsText) ∧
        Clears peer.answers (i + 1) := by
  intro peer result
  have hfailure (failure : Failure) (hobstacle : ¬IsObstacle failure)
      (h : ∀ fault, IsProtocolFault fault → failure ≠ .agent fault) : result = .error failure ↔
        ∃ answer, peer.Concludes environment answer ∧ passphraseOf answer = .error failure :=
    result_eq_error_iff path request (mt Peer.isObstacle_of_stops hobstacle) h
  have htakes : peer.ending.TakesAll := fun _ => rfl
  refine ⟨?_, fun line code? => ?_, ?_, fun fault => ?_⟩
  · rcases peer.gives_or environment with ⟨passphrase, hgives⟩ | hrefuses | ⟨failure, hdisrupts⟩ |
      hfails
    · exact .inl ⟨passphrase, result_of_gives path request hgives⟩
    · obtain ⟨_, ⟨line, code?, rfl⟩, hresult⟩ := result_of_refuses path request hrefuses
      exact .inr (.inr (.inl ⟨line, code?, hresult⟩))
    · have hresult := result_of_disrupts path request hdisrupts
      cases hdisrupts with
      | stops h =>
          obtain ⟨_, _, fault, _, _, rfl, _⟩ := (Peer.stops_iff_of_takesAll htakes).1 h
          exact .inr (.inr (.inr (.inr ⟨fault, hresult⟩)))
      | unreadable => exact .inr (.inr (.inr (.inl hresult)))
    · exact .inr (.inl (result_of_fails path request hfails))
  · rw [hfailure (.agent (.refused line code?)) nofun fun fault hfault heq =>
      hfault.not_isRefused ⟨line, code?, (Failure.agent.inj heq).symm⟩]
    simp only [passphraseOf_eq_refused_iff]
  · rw [hfailure .invalidValue nofun nofun]
    simp only [passphraseOf_eq_invalidValue_iff, hasUnreadableCode_iff]
  · exact result_eq_unencodable_iff path request htakes

/-- A superscript for a code makes a refusal unreadable. -/
theorem superscript_code_is_unreadable :
    (answering "ERR ² cancelled").Concludes noVariables "ERR ² cancelled".toList ∧
      isRefusal "ERR ² cancelled".toList = true ∧
      (converse (answering "ERR ² cancelled") "S.gpg-agent" noVariables
        (.usual "255684D1" false)).result = .error .invalidValue := by
  have hanswers : (answering "ERR ² cancelled").answers =
      ["OK".toList, "ERR ² cancelled".toList] :=
    (answersFrom_repliesOf (by decide)).trans (by decide +kernel)
  have hconcludes :
      (answering "ERR ² cancelled").Concludes noVariables "ERR ² cancelled".toList := by
    refine ⟨sendsAll_noVariables fun _ => rfl, ?_, ?_⟩
    · rw [hanswers]
      exact (le_allowance_iff (by decide)).1 (by decide)
    · rw [hanswers]
      decide
  have hcode : HasUnreadableCode "ERR ² cancelled".toList :=
    ⟨['²'], by decide +kernel, by decide, by decide⟩
  refine ⟨hconcludes, by decide, ?_⟩
  rw [result_of_concludes _ _ hconcludes]
  exact passphraseOf_eq_invalidValue_iff.2 ⟨by decide, hcode⟩

end ArtifactSigning.Agent
