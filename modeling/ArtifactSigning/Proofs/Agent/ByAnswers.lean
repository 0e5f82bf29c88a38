import ArtifactSigning.Proofs.Agent.Commands

/-!
# What the answers decide

With an agent that goes on reading, the answers and the offers decide about the whole exchange. A
line is sent if the answers allow it and the offers up to it are texts, and the passphrase is the
one that the answer to the request spells. An offer that is no text ends the exchange, whatever the
agent would answer.
-/
namespace ArtifactSigning.Agent

open Text

variable {peer : Peer} {path : String} {environment : Variables} {request : Request}
  {lines : List Bytes} {count : Nat}

theorem newline_not_mem_commands
    (h : ∀ option ∈ optionVariables, ∀ value, environment option.1 = some value →
      .char '\n' ∉ value) : ∀ command ∈ peer.commands path environment request, '\n' ∉ command := by
  refine (unbroken_iff peer path environment request).1 fun option hoption value hvalue _ => ?_
  exact mt RawText.char_mem_ofChars_iff.2 (h option hoption _ hvalue)

/-- Only an offer can be no text; the request is one. -/
theorem isText_allLines_iff (request : Request) (count : Nat) :
    (∀ line ∈ (allLines environment request).take count, line.IsText) ↔
      ∀ line ∈ (optionLines environment).take count, line.IsText := by
  rw [allLines, List.take_append, List.forall_mem_append, and_iff_left]
  intro line hline
  rw [List.mem_singleton.1 (List.take_subset _ _ hline)]
  exact ⟨request.line, rfl⟩

/-- An agent that takes every line is sent a line if the answers allow it and the offers up to it
are texts. -/
theorem le_length_commands_iff (htakes : peer.ending.TakesAll) (path : String) (request : Request)
    (hpos : 1 ≤ count) (hcount : count ≤ lineCount environment) :
    count ≤ (peer.commands path environment request).length ↔
      Clears peer.answers count ∧ ∀ line ∈ (optionLines environment).take count, line.IsText := by
  have htotal := length_allLines environment request
  rw [← le_allowance_iff hpos, ← isText_allLines_iff request,
    ← List.length_map (f := RawText.ofChars)]
  rcases commands_cases peer path environment request with
    ⟨hpasses, hlines⟩ | ⟨i, failure, hstops, hlines⟩
  · rw [passes_iff htakes] at hpasses
    rw [hlines, List.length_take, htotal, Nat.le_min, and_iff_left hcount, iff_self_and]
    exact fun hle line hline => hpasses line (List.take_subset_take_left _ hle hline)
  · have hlt := hstops.lt_length
    obtain ⟨hbefore, line, hmem, hline⟩ := hstops
    obtain ⟨fault, hfault, -⟩ := (obstacle?_eq_some_iff htakes).1 hline
    rw [List.length_take] at hlt
    rw [passes_iff htakes, List.take_take, Nat.min_eq_left (by omega)] at hbefore
    rw [hlines, List.length_take, List.length_take, Nat.min_eq_left (by omega)]
    constructor
    · intro hle
      exact ⟨by omega, fun line hline => hbefore line (List.take_subset_take_left _ hle hline)⟩
    · -- The line that stops the exchange would be among the first ones, which are texts.
      rintro ⟨-, htexts⟩
      by_contra hlate
      rw [List.getElem?_take_of_lt (by omega)] at hmem
      refine (htexts line (List.mem_of_getElem? (i := i) ?_)).characters_ne hfault
      rw [List.getElem?_take_of_lt (by omega), hmem]

/-- An agent that takes every line gives the passphrase that its answer to the request spells, if
the answers let the exchange come so far and all offers are texts. -/
theorem Peer.gives_iff_of_takesAll (htakes : peer.ending.TakesAll) {passphrase : String} :
    peer.Gives environment passphrase ↔ Clears peer.answers (lineCount environment) ∧
      (∀ line ∈ optionLines environment, line.IsText) ∧
        ∃ answer, peer.answers[lineCount environment]? = some answer ∧ isOk answer = true ∧
          Hex.Spells (Utf8.encode passphrase.toList) (strip (answer.drop 2)) := by
  constructor
  · rintro ⟨answer, hconcludes, hholds⟩
    -- Any request will do, since the offers go before it.
    obtain ⟨texts, hoffers, -⟩ := commands_of_concludes "" (.usual "" false) hconcludes
    refine ⟨hconcludes.2.1, fun line hline => ?_, answer, hconcludes.2.2, hholds⟩
    rw [← hoffers] at hline
    obtain ⟨text, -, rfl⟩ := List.mem_map.1 hline
    exact ⟨text, rfl⟩
  · rintro ⟨hclears, htexts, answer, hanswer, hholds⟩
    exact ⟨answer, ⟨sendsAll_of_takesAll htakes htexts, hclears, hanswer⟩, hholds⟩

/-- The lines that are sent, the passphrase that comes back and the offer that cannot be sent, by
the answers of an agent that goes on reading. -/
theorem exchange_by_answers (hlines : ∀ line ∈ lines, lineEnd ∉ line)
    (henvironment : ∀ option ∈ optionVariables, ∀ value, environment option.1 = some value →
      .char '\n' ∉ value) (path : String) (request : Request) :
    let outcome := converse ⟨repliesOf lines, .close⟩ path environment request
    let answers := answersIn lines
    let offers := optionLines environment
    (∃ sent, outcome.sent = some (sentText sent) ∧ (∀ line ∈ sent, '\n' ∉ line) ∧
        sent.map RawText.ofChars <+: offers ++ [.ofChars request.line] ∧
        ∀ j, 1 ≤ j → j ≤ offers.length + 1 →
          (j ≤ sent.length ↔ Clears answers j ∧ ∀ line ∈ offers.take j, line.IsText)) ∧
      (∀ passphrase, outcome.result = .ok passphrase ↔
        Clears answers (offers.length + 1) ∧ (∀ line ∈ offers, line.IsText) ∧
          ∃ answer, answers[offers.length + 1]? = some answer ∧ isOk answer = true ∧
            Hex.Spells (Utf8.encode passphrase.toList) (strip (answer.drop 2))) ∧
      ∀ fault, outcome.result = .error (.unencodable fault) ↔ ∃ i line,
        offers[i]? = some line ∧ line.characters = .error fault ∧
          (∀ other ∈ offers.take i, other.IsText) ∧ Clears answers (i + 1) := by
  intro outcome answers offers
  let peer : Peer := ⟨repliesOf lines, .close⟩
  have htakes : peer.ending.TakesAll := fun _ => rfl
  have hanswers : peer.answers = answers := answersFrom_repliesOf hlines
  refine ⟨⟨peer.commands path environment request, sent_eq peer path environment request,
    newline_not_mem_commands henvironment, commands_isPrefix peer path environment request,
    fun j hpos hj => ?_⟩, fun passphrase => ?_, fun fault => ?_⟩
  · rw [← hanswers]
    exact le_length_commands_iff htakes path request hpos hj
  · have hgives : outcome.result = .ok passphrase ↔ peer.Gives environment passphrase :=
      result_eq_ok_iff path request
    rw [hgives, ← hanswers]
    exact Peer.gives_iff_of_takesAll htakes
  · rw [← hanswers]
    exact result_eq_unencodable_iff path request htakes

/-- An agent that rejects an option and spells a passphrase in both cases, with remarks in between.
-/
def terseReplies : List Bytes :=
  ["OK", "# note", "ERR 1", "S busy", "OK 7a 7A\r"].map fun line => Utf8.encode line.toList

/-- An environment in which one option has a value and another one an empty value. -/
def plainTerminal (name : String) : Option RawText :=
  if name = "TERM" then some (.ofString "vt100")
  else if name = "DISPLAY" then some [] else none

theorem exchange_with_rejected_option :
    (∀ line ∈ terseReplies, lineEnd ∉ line) ∧
      (∀ option ∈ optionVariables, ∀ value, plainTerminal option.1 = some value →
        .char '\n' ∉ value) ∧
      (converse ⟨repliesOf terseReplies, .close⟩ "S.gpg-agent" plainTerminal
        (.usual "255684D1" true)).result = .ok "zz" := by
  have hlines : ∀ line ∈ terseReplies, lineEnd ∉ line := by decide
  have henvironment : ∀ option ∈ optionVariables, ∀ value ∈ plainTerminal option.1,
      .char '\n' ∉ value := by decide
  have hoffers : optionLines plainTerminal = [.ofString "OPTION ttytype=vt100"] := by decide
  have hanswers : answersIn terseReplies = ["OK".toList, "ERR 1".toList, "OK 7a 7A".toList] := by
    decide +kernel
  have hclears : Clears ["OK".toList, "ERR 1".toList, "OK 7a 7A".toList] 2 :=
    (le_allowance_iff (by decide)).1 (by decide)
  have hspells : Hex.Spells (Utf8.encode "zz".toList) (strip ("OK 7a 7A".toList.drop 2)) :=
    Hex.decode?_eq_some_iff.1 (by decide)
  refine ⟨hlines, henvironment, ?_⟩
  refine ((exchange_by_answers hlines henvironment "S.gpg-agent" _).2.1 "zz").2 ?_
  rw [hanswers, hoffers]
  refine ⟨hclears, fun line hline => ?_, _, rfl, by decide, hspells⟩
  rw [List.mem_singleton.1 hline]
  exact ⟨_, rfl⟩

/-- An environment in which the name of the terminal is an octet that belongs to no character. -/
def undecodedTerminal (name : String) : Option RawText :=
  if name = "TERM" then some [.half ⟨0x4FF, by decide⟩] else none

/-- An agent that accepts an option and spells a passphrase. -/
def willingReplies : List Bytes :=
  ["OK", "OK", "OK 41"].map fun line => Utf8.encode line.toList

/-- The answers allow both lines and the last one spells a passphrase, but nothing is sent and the
exchange fails, since the value of the option has no octets. -/
theorem undecoded_terminal_is_not_offered :
    let outcome := converse ⟨repliesOf willingReplies, .close⟩ "S.gpg-agent" undecodedTerminal
      (.usual "255684D1" false)
    (∀ line ∈ willingReplies, lineEnd ∉ line) ∧
      (∀ option ∈ optionVariables, ∀ value, undecodedTerminal option.1 = some value →
        .char '\n' ∉ value) ∧
      (optionLines undecodedTerminal).length = 1 ∧ Clears (answersIn willingReplies) 2 ∧
      (answersIn willingReplies)[2]? = some "OK 41".toList ∧ isOk "OK 41".toList = true ∧
      Hex.Spells (Utf8.encode "A".toList) (strip ("OK 41".toList.drop 2)) ∧
      outcome.sent = some "" ∧
      outcome.result = .error (.unencodable (.single 15 0x4FF)) := by
  intro outcome
  have hanswers : answersIn willingReplies = ["OK".toList, "OK".toList, "OK 41".toList] := by
    decide +kernel
  have hclears : Clears ["OK".toList, "OK".toList, "OK 41".toList] 2 :=
    (le_allowance_iff (by decide)).1 (by decide)
  have hspells : Hex.Spells (Utf8.encode "A".toList) (strip ("OK 41".toList.drop 2)) :=
    Hex.decode?_eq_some_iff.1 (by decide)
  let peer : Peer := ⟨repliesOf willingReplies, .close⟩
  have htakes : peer.ending.TakesAll := fun _ => rfl
  let line : RawText := RawText.ofString "OPTION ttytype=" ++ [.half 0x4FF]
  have hfault : line.characters = .error (.single 15 0x4FF) := rfl
  have hnothing : peer.commands "S.gpg-agent" undecodedTerminal (.usual "255684D1" false) = [] := by
    refine List.length_eq_zero_iff.1 (Nat.lt_one_iff.1 (Nat.not_le.1 fun hle => ?_))
    obtain ⟨-, htexts⟩ := (le_length_commands_iff htakes "S.gpg-agent" _ (Nat.le_refl 1)
      (by decide)).1 hle
    exact (htexts line (.head _)).characters_ne hfault
  have hgreeted : Clears peer.answers 1 := by
    rw [show peer.answers = _ from answersFrom_repliesOf (by decide), hanswers]
    exact (le_allowance_iff (by decide)).1 (by decide)
  rw [hanswers]
  refine ⟨by decide, by decide, by decide, hclears, rfl, by decide, hspells, ?_, ?_⟩
  · refine (sent_eq peer "S.gpg-agent" undecodedTerminal _).trans ?_
    rw [hnothing]
    rfl
  · exact (result_eq_unencodable_iff "S.gpg-agent" _ htakes).2
      ⟨0, line, rfl, hfault, nofun, hgreeted⟩

end ArtifactSigning.Agent
