import ArtifactSigning.Proofs.Agent.Exchange

/-!
# What comes of an exchange

Whatever an agent does, an exchange with it gives a passphrase, is refused, fails, or is disrupted.
Which of these it is depends on the answers of the agent, on the values that it is offered and on
how many lines it takes. It is disrupted in two cases: a line that the answers allow cannot be sent,
and a refusal has a word of digits for a code that cannot be read. A line cannot be sent if the
agent does not take it or if the value that it offers has halves of characters.
-/
namespace ArtifactSigning.Agent

open Step Text

variable {peer : Peer} {environment : Variables} {request : Request} {answer : List Char}
  {passphrase : String} {failure : Failure} {line : RawText} {i : Nat}

/-- The second word of a refusal looks like a number, and none can be read from it. -/
def HasUnreadableCode (answer : List Char) : Prop :=
  ∃ word, (words answer)[1]? = some word ∧ word.all isDigitLike = true ∧ readDecimal? word = none

namespace Peer

/-- What keeps a line from being sent, by its number. Behind the offers comes the request. -/
def obstacle? (peer : Peer) (environment : Variables) (i : Nat) : Option Failure :=
  match (optionLines environment)[i]? with
  | some line => Agent.obstacle? peer.ending i line
  | none => peer.ending.sendFailure? i

/-- The answers allow a line to be sent that meets an obstacle, and no line before it does. -/
def Stops (peer : Peer) (environment : Variables) (failure : Failure) : Prop :=
  ∃ i < lineCount environment, Clears peer.answers (i + 1) ∧
    peer.obstacle? environment i = some failure ∧ ∀ j < i, peer.obstacle? environment j = none

/-- Every line that the answers allow can be sent. -/
def SendsAll (peer : Peer) (environment : Variables) : Prop :=
  ∀ failure, ¬peer.Stops environment failure

/-- The exchange comes to the answer to the request. -/
def Concludes (peer : Peer) (environment : Variables) (answer : List Char) : Prop :=
  peer.SendsAll environment ∧ Clears peer.answers (lineCount environment) ∧
    peer.answers[lineCount environment]? = some answer

/-- The answer to the request spells a passphrase. -/
def Gives (peer : Peer) (environment : Variables) (passphrase : String) : Prop :=
  ∃ answer, peer.Concludes environment answer ∧ isOk answer = true ∧
    Hex.Spells (Utf8.encode passphrase.toList) (strip (answer.drop 2))

/-- The answer to the request is a refusal that can be read. -/
def Refuses (peer : Peer) (environment : Variables) : Prop :=
  ∃ answer, peer.Concludes environment answer ∧ isRefusal answer = true ∧
    ¬HasUnreadableCode answer

/-- The exchange ends with a failure that is not one of an agent. -/
inductive Disrupts (peer : Peer) (environment : Variables) : Failure → Prop
  | stops {failure : Failure} (h : peer.Stops environment failure) :
      Disrupts peer environment failure
  | unreadable {answer : List Char} (h : peer.Concludes environment answer)
      (hrefusal : isRefusal answer = true) (hcode : HasUnreadableCode answer) :
      Disrupts peer environment .invalidValue

/-- The exchange comes to nothing. -/
structure Fails (peer : Peer) (environment : Variables) : Prop where
  not_gives : ∀ passphrase, ¬peer.Gives environment passphrase
  not_refuses : ¬peer.Refuses environment
  not_disrupts : ∀ failure, ¬peer.Disrupts environment failure

/-- One of the four comes of every exchange. -/
theorem gives_or (peer : Peer) (environment : Variables) :
    (∃ passphrase, peer.Gives environment passphrase) ∨ peer.Refuses environment ∨
      (∃ failure, peer.Disrupts environment failure) ∨ peer.Fails environment := by
  by_cases hgives : ∃ passphrase, peer.Gives environment passphrase
  · exact .inl hgives
  · by_cases hrefuses : peer.Refuses environment
    · exact .inr (.inl hrefuses)
    · by_cases hdisrupts : ∃ failure, peer.Disrupts environment failure
      · exact .inr (.inr (.inl hdisrupts))
      · exact .inr (.inr (.inr ⟨not_exists.1 hgives, hrefuses, not_exists.1 hdisrupts⟩))

/-- The first line that meets an obstacle is the only one that stops the exchange. -/
theorem Stops.unique {other : Failure} (h : peer.Stops environment failure)
    (h' : peer.Stops environment other) : failure = other := by
  obtain ⟨i, -, -, hline, hbefore⟩ := h
  obtain ⟨j, -, -, hother, hearlier⟩ := h'
  rcases Nat.lt_trichotomy i j with hlt | rfl | hgt
  · cases hline.symm.trans (hearlier i hlt)
  · exact Option.some.inj (hline.symm.trans hother)
  · cases hother.symm.trans (hbefore j hgt)

theorem isObstacle_of_stops (h : peer.Stops environment failure) : IsObstacle failure := by
  obtain ⟨i, -, -, hline, -⟩ := h
  unfold obstacle? at hline
  split at hline
  · exact isObstacle_of_obstacle? hline
  · exact isObstacle_of_sendFailure? hline

/-- Nothing stops an exchange of texts with an agent that takes every line. -/
theorem sendsAll_of_takesAll (htakes : peer.ending.TakesAll)
    (htexts : ∀ line ∈ optionLines environment, line.IsText) : peer.SendsAll environment := by
  rintro failure ⟨i, -, -, hline, -⟩
  unfold obstacle? at hline
  split at hline
  · rename_i line hmem
    obtain ⟨fault, hfault, -⟩ := (obstacle?_eq_some_iff htakes).1 hline
    exact (htexts line (List.mem_of_getElem? hmem)).characters_ne hfault
  · cases hline.symm.trans (htakes i)

/-- Where nothing is offered, only the request is sent. -/
theorem sendsAll_of_optionLines_eq_nil (htakes : peer.ending.TakesAll)
    (h : optionLines environment = []) : peer.SendsAll environment := by
  refine sendsAll_of_takesAll htakes ?_
  rw [h]
  exact List.forall_mem_nil _

/-- With an agent that takes every line, the exchange stops at the first offer that is no text. -/
theorem stops_iff_of_takesAll (htakes : peer.ending.TakesAll) :
    peer.Stops environment failure ↔ ∃ i line fault, (optionLines environment)[i]? = some line ∧
      line.characters = .error fault ∧ failure = .unencodable fault ∧
      (∀ other ∈ (optionLines environment).take i, other.IsText) ∧
      Clears peer.answers (i + 1) := by
  have hoffer {i : Nat} {line : RawText} (h : (optionLines environment)[i]? = some line) :
      peer.obstacle? environment i = Agent.obstacle? peer.ending i line := by
    rw [obstacle?, h]
  constructor
  · rintro ⟨i, -, hclears, hline, hbefore⟩
    cases hmem : (optionLines environment)[i]? with
    | none =>
        rw [obstacle?, hmem] at hline
        cases hline.symm.trans (htakes i)
    | some line =>
        rw [hoffer hmem] at hline
        obtain ⟨fault, hfault, rfl⟩ := (obstacle?_eq_some_iff htakes).1 hline
        refine ⟨i, line, fault, hmem, hfault, rfl, fun other hother => ?_, hclears⟩
        obtain ⟨j, hj⟩ := List.mem_iff_getElem?.1 hother
        rw [List.getElem?_take, Option.ite_none_right_eq_some] at hj
        exact (obstacle?_eq_none_iff htakes).1 ((hoffer hj.2).symm.trans (hbefore j hj.1))
  · rintro ⟨i, line, fault, hmem, hfault, rfl, htexts, hclears⟩
    have hi := (List.getElem?_eq_some_iff.1 hmem).1
    refine ⟨i, Nat.lt_succ_of_lt hi, hclears, ?_, fun j hj => ?_⟩
    · rw [hoffer hmem]
      exact (obstacle?_eq_some_iff htakes).2 ⟨fault, hfault, rfl⟩
    · have hother := List.getElem?_eq_getElem (Nat.lt_trans hj hi)
      rw [hoffer hother]
      refine (obstacle?_eq_none_iff htakes).2 (htexts _ (List.mem_of_getElem? (i := j) ?_))
      rw [List.getElem?_take_of_lt hj, hother]

/-- An exchange that the answers end before the request comes to nothing. -/
theorem fails_of_not_clears (hsends : peer.SendsAll environment)
    (h : ¬Clears peer.answers (lineCount environment)) : peer.Fails environment where
  not_gives := fun _ ⟨_, hconcludes, _⟩ => h hconcludes.2.1
  not_refuses := fun ⟨_, hconcludes, _⟩ => h hconcludes.2.1
  not_disrupts := by
    rintro failure (hstops | ⟨hconcludes, -, -⟩)
    · exact hsends failure hstops
    · exact h hconcludes.2.1

/-- An exchange is disrupted by an obstacle, or by a code that cannot be read. -/
theorem Disrupts.invalidValue_or (h : peer.Disrupts environment failure) :
    failure = .invalidValue ∨ IsObstacle failure := by
  cases h with
  | stops hstops => exact .inr (isObstacle_of_stops hstops)
  | unreadable => exact .inl rfl

/-- What disrupts an exchange is no fault that an agent is passed over for. -/
theorem Disrupts.ne_agent (h : peer.Disrupts environment failure) (fault : AgentFault) :
    failure ≠ .agent fault := by
  rintro rfl
  rcases h.invalidValue_or with h | h <;> cases h

theorem Concludes.unique {other : List Char} (h : peer.Concludes environment answer)
    (h' : peer.Concludes environment other) : answer = other :=
  Option.some.inj (h.2.2.symm.trans h'.2.2)

end Peer

section Answers

theorem refusalCode_eq (answer : List Char) :
    (HasUnreadableCode answer ∧ refusalCode answer = .error .invalidValue) ∨
      (¬HasUnreadableCode answer ∧ ∃ code, refusalCode answer = .ok code) := by
  rw [HasUnreadableCode, refusalCode]
  split
  · rename_i first word others hwords
    rw [hwords]
    by_cases hdigits : word.all isDigitLike = true
    · rw [if_pos hdigits]
      cases hread : readDecimal? word with
      | none => exact .inl ⟨⟨word, rfl, hdigits, hread⟩, rfl⟩
      | some code =>
          refine .inr ⟨?_, some code, rfl⟩
          rintro ⟨other, hother, -, hnone⟩
          rw [← Option.some.inj hother, hread] at hnone
          cases hnone
    · rw [if_neg hdigits]
      refine .inr ⟨?_, none, rfl⟩
      rintro ⟨other, hother, hall, -⟩
      exact hdigits (Option.some.inj hother ▸ hall)
  · rename_i hshort
    refine .inr ⟨?_, none, rfl⟩
    rintro ⟨word, hword, -⟩
    cases hwords : words answer with
    | nil => simp [hwords] at hword
    | cons first others =>
        cases others with
        | nil => simp [hwords] at hword
        | cons second others => exact hshort first second others hwords

/-- A refusal fails as one, if its code can be read. -/
theorem passphraseOf_of_isRefusal (h : isRefusal answer = true) :
    (HasUnreadableCode answer → passphraseOf answer = .error .invalidValue) ∧
      (¬HasUnreadableCode answer →
        ∃ fault, IsRefused fault ∧ passphraseOf answer = .error (.agent fault)) := by
  rw [passphraseOf, if_pos h]
  rcases refusalCode_eq answer with ⟨hcode, heq⟩ | ⟨hcode, code, heq⟩
  · rw [heq]
    exact ⟨fun _ => rfl, fun hnot => absurd hcode hnot⟩
  · rw [heq]
    exact ⟨fun hhas => absurd hhas hcode, fun _ => ⟨_, ⟨_, _, rfl⟩, rfl⟩⟩

/-- Any other answer is a passphrase or a fault. -/
theorem passphraseOf_of_not_isRefusal (h : ¬isRefusal answer = true) :
    (∃ passphrase, passphraseOf answer = .ok passphrase) ∨
      ∃ fault, IsProtocolFault fault ∧ passphraseOf answer = .error (.agent fault) := by
  rw [passphraseOf, if_neg h]
  split
  · split
    · exact .inl ⟨_, rfl⟩
    · exact .inr ⟨.malformedPayload, trivial, rfl⟩
  · exact .inr ⟨.unexpected _, trivial, rfl⟩

end Answers

section Exchanges

theorem Peer.obstacle?_of_getElem? (h : (allLines environment request)[i]? = some line) :
    Agent.obstacle? peer.ending i line = peer.obstacle? environment i := by
  rw [Peer.obstacle?]
  rcases Nat.lt_or_ge i (optionLines environment).length with hlt | hge
  · rw [allLines, List.getElem?_append_left hlt] at h
    rw [h]
  · rw [allLines, List.getElem?_append_right hge] at h
    obtain rfl := List.mem_singleton.1 (List.mem_of_getElem? h)
    rw [List.getElem?_eq_none hge, obstacle?_ofChars]

/-- Among the lines that the answers allow, the one that stops the exchange is the first that meets
an obstacle. -/
theorem Peer.stops_iff (peer : Peer) (environment : Variables) (request : Request)
    (failure : Failure) : peer.Stops environment failure ↔ ∃ i, StopsAt peer.ending 0
      ((allLines environment request).take (allowance peer.answers)) i failure := by
  constructor
  · rintro ⟨i, hi, hclears, hline, hbefore⟩
    have hallowed : i < allowance peer.answers := (le_allowance_iff (Nat.succ_pos i)).2 hclears
    rw [← length_allLines environment request] at hi
    have hmem := List.getElem?_eq_getElem hi
    refine ⟨i, fun j line hj => ?_, (allLines environment request)[i], ?_, ?_⟩
    · rw [List.take_take, List.getElem?_take, Option.ite_none_right_eq_some, Nat.lt_min] at hj
      rw [Nat.zero_add, obstacle?_of_getElem? hj.2]
      exact hbefore j hj.1.1
    · rw [List.getElem?_take_of_lt hallowed, hmem]
    · rw [Nat.zero_add, obstacle?_of_getElem? hmem, hline]
  · rintro ⟨i, hbefore, line, hmem, hline⟩
    rw [List.getElem?_take, Option.ite_none_right_eq_some] at hmem
    obtain ⟨hallowed, hmem⟩ := hmem
    have hi := (List.getElem?_eq_some_iff.1 hmem).1
    rw [Nat.zero_add, obstacle?_of_getElem? hmem] at hline
    rw [length_allLines] at hi
    refine ⟨i, hi, (le_allowance_iff (Nat.succ_pos i)).1 hallowed, hline, fun j hj => ?_⟩
    have hlt : j < (allLines environment request).length := by
      rw [length_allLines]
      omega
    have hother := List.getElem?_eq_getElem hlt
    have hnone := hbefore j _ (by
      rw [List.take_take, List.getElem?_take_of_lt (by omega), hother])
    rwa [Nat.zero_add, obstacle?_of_getElem? hother] at hnone

theorem Peer.sendsAll_of_passes (h : Passes peer.ending 0
    ((allLines environment request).take (allowance peer.answers))) :
    peer.SendsAll environment := by
  intro failure hstops
  obtain ⟨i, -, line, hmem, hline⟩ := (peer.stops_iff environment request failure).1 hstops
  cases hline.symm.trans (h i line hmem)

/-- An exchange is stopped, comes to the answer to the request, or fails before. -/
theorem result_cases (peer : Peer) (path : String) (environment : Variables) (request : Request) :
    let result := (converse peer path environment request).result
    (∃ failure, peer.Stops environment failure ∧ result = .error failure) ∨
      (∃ answer, peer.Concludes environment answer ∧ result = passphraseOf answer) ∨
      (peer.SendsAll environment ∧ (∀ answer, ¬peer.Concludes environment answer) ∧
        ∃ fault, IsProtocolFault fault ∧ result = .error (.agent fault)) := by
  have hclears : lineCount environment ≤ allowance peer.answers ↔
      Clears peer.answers (lineCount environment) := le_allowance_iff (Nat.succ_pos _)
  rcases talk_cases path environment request peer.pending_start with
    ⟨hpasses, hrest⟩ | ⟨i, failure, d, hstops, -, htalk⟩
  · have hsends := Peer.sendsAll_of_passes hpasses
    rcases hrest with ⟨a, d, hall, ha, -, htalk⟩ | ⟨fault, d, hfault, hnone, -, htalk⟩
    · refine .inr (.inl ⟨a, ⟨hsends, hclears.1 hall, ha⟩, ?_⟩)
      cases hread : passphraseOf a with
      | ok passphrase =>
          rw [hread] at htalk
          simp only [converse, EStateM.run, htalk]
      | error failure =>
          rw [hread] at htalk
          simp only [converse, EStateM.run, htalk]
    · refine .inr (.inr ⟨hsends, ?_, fault, hfault, ?_⟩)
      · rintro answer ⟨-, hall, hanswer⟩
        cases (hnone (hclears.2 hall)).symm.trans hanswer
      · simp only [converse, EStateM.run, htalk]
  · refine .inl ⟨failure, (peer.stops_iff environment request failure).2 ⟨i, hstops⟩, ?_⟩
    simp only [converse, EStateM.run, htalk]

variable (path : String) (request : Request)

theorem result_of_concludes (h : peer.Concludes environment answer) :
    (converse peer path environment request).result = passphraseOf answer := by
  rcases result_cases peer path environment request with
    ⟨failure, hstops, -⟩ | ⟨other, hother, hresult⟩ | ⟨-, hnone, -⟩
  · exact absurd hstops (h.1 failure)
  · rw [hresult, h.unique hother]
  · exact absurd h (hnone answer)

theorem result_of_gives (h : peer.Gives environment passphrase) :
    (converse peer path environment request).result = .ok passphrase := by
  obtain ⟨answer, hconcludes, hok, hspells⟩ := h
  rw [result_of_concludes path request hconcludes, passphraseOf_eq_ok_iff]
  exact ⟨hok, hspells⟩

theorem result_of_refuses (h : peer.Refuses environment) :
    ∃ fault, IsRefused fault ∧
      (converse peer path environment request).result = .error (.agent fault) := by
  obtain ⟨answer, hconcludes, hrefusal, hcode⟩ := h
  rw [result_of_concludes path request hconcludes]
  exact (passphraseOf_of_isRefusal hrefusal).2 hcode

theorem result_of_disrupts (h : peer.Disrupts environment failure) :
    (converse peer path environment request).result = .error failure := by
  cases h with
  | stops hstops =>
      rcases result_cases peer path environment request with
        ⟨other, hother, hresult⟩ | ⟨answer, hconcludes, -⟩ | ⟨hsends, -⟩
      · rw [hresult, hother.unique hstops]
      · exact absurd hstops (hconcludes.1 _)
      · exact absurd hstops (hsends _)
  | unreadable hconcludes hrefusal hcode =>
      rw [result_of_concludes path request hconcludes]
      exact (passphraseOf_of_isRefusal hrefusal).1 hcode

/-- An exchange that comes to nothing fails by a fault of the agent. -/
theorem result_of_fails (h : peer.Fails environment) :
    ∃ fault, IsProtocolFault fault ∧
      (converse peer path environment request).result = .error (.agent fault) := by
  rcases result_cases peer path environment request with
    ⟨failure, hstops, -⟩ | ⟨answer, hconcludes, hresult⟩ | ⟨-, -, hfault⟩
  · exact absurd (.stops hstops) (h.not_disrupts failure)
  · rw [hresult]
    by_cases hrefusal : isRefusal answer = true
    · by_cases hcode : HasUnreadableCode answer
      · exact absurd (.unreadable hconcludes hrefusal hcode) (h.not_disrupts _)
      · exact absurd ⟨answer, hconcludes, hrefusal, hcode⟩ h.not_refuses
    · rcases passphraseOf_of_not_isRefusal hrefusal with ⟨passphrase, hread⟩ | hfault
      · have hspells := passphraseOf_eq_ok_iff.1 hread
        exact absurd ⟨answer, hconcludes, hspells⟩ (h.not_gives passphrase)
      · exact hfault
  · exact hfault

/-- Nothing but an obstacle is the failure of an obstacle. -/
theorem result_eq_obstacle_iff (hobstacle : IsObstacle failure) :
    (converse peer path environment request).result = .error failure ↔
      peer.Stops environment failure := by
  refine ⟨fun h => ?_, fun h => result_of_disrupts path request (.stops h)⟩
  rcases peer.gives_or environment with
    ⟨passphrase, hgives⟩ | hrefuses | ⟨other, hdisrupts⟩ | hfails
  · cases h.symm.trans (result_of_gives path request hgives)
  · obtain ⟨fault, -, hresult⟩ := result_of_refuses path request hrefuses
    cases h.symm.trans hresult
    cases hobstacle
  · cases h.symm.trans (result_of_disrupts path request hdisrupts)
    cases hdisrupts with
    | stops hstops => exact hstops
    | unreadable => cases hobstacle
  · obtain ⟨fault, -, hresult⟩ := result_of_fails path request hfails
    cases h.symm.trans hresult
    cases hobstacle

/-- With an agent that takes every line, an exchange fails for want of octets exactly if it comes to
an offer that is no text behind offers that are. -/
theorem result_eq_unencodable_iff (htakes : peer.ending.TakesAll) {fault : EncodingFault} :
    (converse peer path environment request).result = .error (.unencodable fault) ↔
      ∃ i line, (optionLines environment)[i]? = some line ∧ line.characters = .error fault ∧
        (∀ other ∈ (optionLines environment).take i, other.IsText) ∧
        Clears peer.answers (i + 1) := by
  rw [result_eq_obstacle_iff path request (.unencodable fault), Peer.stops_iff_of_takesAll htakes]
  constructor
  · rintro ⟨i, line, _, hmem, hfault, ⟨⟩, h⟩
    exact ⟨i, line, hmem, hfault, h⟩
  · rintro ⟨i, line, hmem, hfault, h⟩
    exact ⟨i, line, fault, hmem, hfault, rfl, h⟩

/-- No other exchange gives a passphrase. -/
theorem result_eq_ok_iff : (converse peer path environment request).result = .ok passphrase ↔
    peer.Gives environment passphrase := by
  refine ⟨fun h => ?_, result_of_gives path request⟩
  rcases peer.gives_or environment with ⟨other, hgives⟩ | hrefuses | ⟨failure, hdisrupts⟩ | hfails
  · cases h.symm.trans (result_of_gives path request hgives)
    exact hgives
  · obtain ⟨fault, -, hresult⟩ := result_of_refuses path request hrefuses
    cases h.symm.trans hresult
  · cases h.symm.trans (result_of_disrupts path request hdisrupts)
  · obtain ⟨fault, -, hresult⟩ := result_of_fails path request hfails
    cases h.symm.trans hresult

/-- No other exchange comes to nothing. -/
theorem protocolFault_iff : (∃ fault, IsProtocolFault fault ∧
      (converse peer path environment request).result = .error (.agent fault)) ↔
    peer.Fails environment := by
  refine ⟨fun ⟨fault, hfault, h⟩ => ⟨?_, ?_, ?_⟩, result_of_fails path request⟩
  · intro passphrase hgives
    cases h.symm.trans (result_of_gives path request hgives)
  · intro hrefuses
    obtain ⟨refusal, hrefused, hresult⟩ := result_of_refuses path request hrefuses
    cases h.symm.trans hresult
    exact hfault.not_isRefused hrefused
  · intro failure hdisrupts
    have hresult := Except.error.inj (h.symm.trans (result_of_disrupts path request hdisrupts))
    exact hdisrupts.ne_agent fault hresult.symm

end Exchanges

end ArtifactSigning.Agent
