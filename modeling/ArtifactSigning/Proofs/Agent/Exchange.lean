import ArtifactSigning.Proofs.Agent.Offers
import ArtifactSigning.Proofs.Step
import ArtifactSigning.Proofs.Text.Hex
import ArtifactSigning.Proofs.Text.Separated
import ArtifactSigning.Proofs.Text.Utf8

/-!
# The exchange of lines with a passphrase agent

Only the answers among the lines of an agent count. `Pending` says which answers are still to come,
and every part of a conversation takes the next of them: the greeting one, each option one and the
request one. So the answers say how many lines are tried; these are sent up to the first that meets
an obstacle, and if there is none, the answer behind them is the one to the request.
-/
namespace ArtifactSigning.Agent

open Step Text

/-- The octets of some lines, each with its end. -/
def repliesOf (lines : List Bytes) : Bytes := lines.flatMap (· ++ [lineEnd])

/-- The answers among some lines. -/
def answersIn (lines : List Bytes) : List (List Char) :=
  (lines.map lineText).filter (!isRemark ·)

/-- Whether an answer lets the conversation go on after an option. -/
def isAccepted (line : List Char) : Bool := isOk line || isRefusal line

/-- The number of lines that can be sent in view of the answers: one after a good greeting and one
for each answer after it that lets the conversation go on. -/
def allowance : List (List Char) → Nat
  | [] => 0
  | greeting :: answers =>
      if isOk greeting then (answers.takeWhile isAccepted).length + 1 else 0

/-- The answers among all that an agent writes. -/
def answersFrom (ending : Ending) (bytes : Bytes) : List (List Char) :=
  match _h : cutAnswer ending bytes with
  | .error _ => []
  | .ok (answer, rest) => answer :: answersFrom ending rest
termination_by bytes.length
decreasing_by exact length_of_cutAnswer _h

/-- All answers of an agent. -/
def Peer.answers (peer : Peer) : List (List Char) := answersFrom peer.ending peer.replies

/-- The lines sent so far, as they were to be sent. -/
def Conversation.lines (c : Conversation) : List RawText := c.sent.map .ofChars

/-- The state of a conversation in which these answers are still to come and these lines were sent.
-/
structure Pending (ending : Ending) (answers : List (List Char)) (sent : List RawText)
    (c : Conversation) : Prop where
  unread : answersFrom ending c.unread = answers
  sent : c.lines = sent
  ending : c.ending = ending

theorem Peer.pending_start (peer : Peer) :
    Pending peer.ending peer.answers [] ⟨peer.replies, peer.ending, [], []⟩ := ⟨rfl, rfl, rfl⟩

/-- A fault that is the refusal of a request. -/
def IsRefused (fault : AgentFault) : Prop := ∃ line code, fault = .refused line code

/-- A fault of the exchange itself: the agent was reached, and it did not refuse the request. -/
def IsProtocolFault : AgentFault → Prop
  | .noSocket _ | .pathTooLong _ | .refused _ _ => False
  | .greeting _ | .unexpected _ | .closed | .timedOut | .malformedPayload => True

variable {lines : List Bytes} {answers : List (List Char)} {sent : List RawText} {a : List Char}
  {line : RawText} {c d : Conversation} {environment : Variables} {option : String × String}
  {ending : Ending} {bytes rest : Bytes} {fault : AgentFault} {failure : Failure}

section Reading

theorem IsProtocolFault.not_isRefused (h : IsProtocolFault fault) : ¬IsRefused fault := by
  rintro ⟨line, code, rfl⟩
  exact h

theorem fault_of_cutLine (h : cutLine ending bytes = .error fault) : IsProtocolFault fault := by
  rw [cutLine.eq_def] at h
  split at h
  · cases h
  · cases h
    trivial
  · split at h
    · cases h
      trivial
    · cases h

theorem fault_of_cutAnswer (h : cutAnswer ending bytes = .error fault) :
    IsProtocolFault fault := by
  fun_induction cutAnswer ending bytes with
  | case1 bytes found hcut => exact fault_of_cutLine (Except.error.inj h ▸ hcut)
  | case2 bytes line rest hcut hremark ih => exact ih h
  | case3 bytes line rest hcut hanswer => cases h

theorem answersFrom_of_error (h : cutAnswer ending bytes = .error fault) :
    answersFrom ending bytes = [] := by
  rw [answersFrom]
  split
  · rfl
  · rename_i heq
    rw [h] at heq
    cases heq

theorem answersFrom_of_ok (h : cutAnswer ending bytes = .ok (a, rest)) :
    answersFrom ending bytes = a :: answersFrom ending rest := by
  rw [answersFrom]
  split
  · rename_i heq
    rw [h] at heq
    cases heq
  · rename_i heq
    rw [h] at heq
    cases heq
    rfl

theorem cutLine_line {line : Bytes} (hline : lineEnd ∉ line) (rest : Bytes) :
    cutLine ending (line ++ lineEnd :: rest) = .ok (line, rest) := by
  have hother := decide_ne_of_not_mem hline
  have hfront : (line ++ lineEnd :: rest).takeWhile (· ≠ lineEnd) = line := by
    rw [List.takeWhile_append_of_pos hother]
    simp
  have hback : (line ++ lineEnd :: rest).dropWhile (· ≠ lineEnd) = lineEnd :: rest := by
    rw [List.dropWhile_append_of_pos hother]
    simp
  simp only [cutLine, hback, hfront]

theorem answersFrom_of_cutLine_error (h : cutLine ending bytes = .error fault) :
    answersFrom ending bytes = [] := by
  have herror : cutAnswer ending bytes = .error fault := by
    rw [cutAnswer]
    split
    · rename_i hcut
      rw [Except.error.inj (h.symm.trans hcut)]
    · rename_i hcut
      cases h.symm.trans hcut
  exact answersFrom_of_error herror

/-- A line that is cut off from some octets is an answer, or it is a remark and does not count. -/
theorem answersFrom_of_cutLine {line : Bytes} (h : cutLine ending bytes = .ok (line, rest)) :
    answersFrom ending bytes =
      if isRemark (lineText line) then answersFrom ending rest
      else lineText line :: answersFrom ending rest := by
  have hanswer : cutAnswer ending bytes =
      if isRemark (lineText line) then cutAnswer ending rest else .ok (lineText line, rest) := by
    rw [cutAnswer]
    split
    · rename_i hcut
      cases h.symm.trans hcut
    · rename_i hcut
      obtain ⟨rfl, rfl⟩ := Prod.mk.inj (Except.ok.inj (h.symm.trans hcut))
      rfl
  by_cases hremark : isRemark (lineText line) = true
  · rw [if_pos hremark] at hanswer ⊢
    rw [answersFrom.eq_def, hanswer, ← answersFrom.eq_def]
  · rw [if_neg hremark] at hanswer ⊢
    exact answersFrom_of_ok hanswer

/-- The text of a line that is written in UTF-8. -/
theorem lineText_encode (text : List Char) : lineText (Utf8.encode text) =
    trimEnd (fun c => c = '\r' || c = '\n') text := by
  rw [lineText, Utf8.decodeLossy_encode]

theorem answersIn_cons (line : Bytes) (lines : List Bytes) :
    answersIn (line :: lines) =
      if isRemark (lineText line) then answersIn lines else lineText line :: answersIn lines := by
  rw [answersIn, List.map_cons, List.filter_cons]
  cases isRemark (lineText line) <;> rfl

theorem repliesOf_cons_append (line : Bytes) (lines : List Bytes) (rest : Bytes) :
    repliesOf (line :: lines) ++ rest = line ++ lineEnd :: (repliesOf lines ++ rest) := by
  simp only [repliesOf, List.flatMap_cons, List.append_assoc, List.cons_append, List.nil_append]

/-- What an agent writes after some lines has its answers behind those among the lines. -/
theorem answersFrom_append (hlines : ∀ line ∈ lines, lineEnd ∉ line) (rest : Bytes) :
    answersFrom ending (repliesOf lines ++ rest) = answersIn lines ++ answersFrom ending rest := by
  induction lines with
  | nil => rfl
  | cons line lines ih =>
      have hrest := ih fun other hother => hlines other (.tail _ hother)
      rw [repliesOf_cons_append,
        answersFrom_of_cutLine (cutLine_line (hlines line List.mem_cons_self) _), hrest,
        answersIn_cons]
      split <;> rfl

/-- Nothing is read from an agent that has written everything. -/
theorem answersFrom_nil (ending : Ending) : answersFrom ending [] = [] := by
  cases ending <;> exact answersFrom_of_cutLine_error rfl

/-- The answers of an agent that writes some lines are those among the lines. -/
theorem answersFrom_repliesOf (hlines : ∀ line ∈ lines, lineEnd ∉ line) :
    answersFrom ending (repliesOf lines) = answersIn lines := by
  have hanswers : answersFrom ending (repliesOf lines ++ []) = _ := answersFrom_append hlines []
  rwa [List.append_nil, answersFrom_nil, List.append_nil] at hanswers

end Reading

section Talking

/-- Without an answer the conversation ends where it is. -/
theorem answer_eq_error (h : Pending ending [] sent c) :
    ∃ fault, IsProtocolFault fault ∧ Talk.answer c = .error (.agent fault) c := by
  rw [Talk.answer, bind_of_ok _ (get_eq_ok c), h.ending]
  cases hcut : cutAnswer ending c.unread with
  | error fault => exact ⟨fault, fault_of_cutAnswer hcut, rfl⟩
  | ok found =>
      have hanswers := h.unread
      rw [answersFrom_of_ok hcut] at hanswers
      cases hanswers

theorem answer_eq_ok (h : Pending ending (a :: answers) sent c) :
    ∃ d, Talk.answer c = .ok a d ∧ Pending ending answers sent d := by
  have hanswers := h.unread
  rw [Talk.answer, bind_of_ok _ (get_eq_ok c), h.ending]
  cases hcut : cutAnswer ending c.unread with
  | error fault =>
      rw [answersFrom_of_error hcut] at hanswers
      cases hanswers
  | ok found =>
      rw [answersFrom_of_ok hcut] at hanswers
      obtain ⟨rfl, hrest⟩ := List.cons.inj hanswers
      exact ⟨⟨found.2, ending, c.sent, c.log⟩, rfl, hrest, h.sent, rfl⟩

theorem Pending.length_sent (h : Pending ending answers sent c) : c.sent.length = sent.length := by
  rw [← h.sent, Conversation.lines, List.length_map]

theorem send_eq_ok (h : Pending ending answers sent c)
    (hline : obstacle? ending sent.length line = none) :
    ∃ d, Talk.send line c = .ok () d ∧ Pending ending answers (sent ++ [line]) d := by
  rcases line.isText_or_fault with ⟨text, rfl⟩ | ⟨fault, hfault⟩
  · rw [obstacle?_ofChars] at hline
    refine ⟨{ c with sent := c.sent ++ [text] }, ?_, h.unread, ?_, h.ending⟩
    · rw [Talk.send, bind_of_ok _ (get_eq_ok c), h.ending, h.length_sent,
        RawText.characters_ofChars, hline]
      rfl
    · rw [← h.sent, Conversation.lines, Conversation.lines, List.map_append, List.map_singleton]
  · rw [obstacle?, hfault] at hline
    cases hline

/-- A line that meets an obstacle breaks the conversation off. -/
theorem send_eq_error (h : Pending ending answers sent c)
    (hline : obstacle? ending sent.length line = some failure) :
    Talk.send line c = .error failure c := by
  rw [Talk.send, bind_of_ok _ (get_eq_ok c), h.ending, h.length_sent]
  unfold obstacle? at hline
  cases hcharacters : line.characters with
  | error fault =>
      rw [hcharacters] at hline
      rw [← Option.some.inj hline]
      rfl
  | ok text =>
      rw [hcharacters] at hline
      rw [show ending.sendFailure? sent.length = some failure from hline]
      rfl

theorem report_eq_ok (level : LogLevel) (message : String) (h : Pending ending answers sent c) :
    ∃ d, Talk.report level message c = .ok () d ∧ Pending ending answers sent d :=
  ⟨_, rfl, h.unread, h.sent, h.ending⟩

/-- The greeting takes the first answer. -/
theorem greet_cases (h : Pending ending answers sent c) :
    (∃ greeting more d, answers = greeting :: more ∧ isOk greeting = true ∧ greet c = .ok () d ∧
        Pending ending more sent d) ∨
      ∃ fault d, IsProtocolFault fault ∧ (∀ a ∈ answers.head?, isOk a = false) ∧
        greet c = .error (.agent fault) d ∧ d.lines = sent := by
  cases answers with
  | nil =>
      obtain ⟨fault, hfault, hanswer⟩ := answer_eq_error h
      exact .inr ⟨fault, c, hfault, by simp, bind_of_error _ hanswer, h.sent⟩
  | cons greeting more =>
      obtain ⟨d, hanswer, hmore⟩ := answer_eq_ok h
      rw [greet, bind_of_ok _ hanswer]
      cases hok : isOk greeting with
      | true => exact .inl ⟨greeting, more, d, rfl, hok, rfl, hmore⟩
      | false => exact .inr ⟨.greeting _, d, trivial, by simpa using hok, rfl, hmore.sent⟩

/-- An option without a value. -/
theorem sendOption_of_none (h : optionLine? environment option = none) :
    sendOption environment option c = .ok () c := by
  unfold optionLine? at h
  split at h
  · rename_i hvariable
    rw [sendOption.eq_def, hvariable]
    rfl
  · rename_i hvariable
    rw [sendOption.eq_def, hvariable]
    rfl
  · cases h

/-- An option with a value is sent. -/
theorem sendOption_of_some (h : optionLine? environment option = some line) :
    sendOption environment option = (do
      Talk.send line
      let answer ← Talk.answer
      if isRefusal answer then
        Talk.report .warning s!"gpg-agent rejected option {option.2}: {String.ofList answer}"
      else
        unless isOk answer do throw (.agent (.unexpected (String.ofList answer)))) := by
  unfold optionLine? at h
  split at h
  · cases h
  · cases h
  · rename_i value hvalue hvariable
    rw [sendOption.eq_def, hvariable, ← Option.some.inj h]
    split
    · rename_i hnone
      cases hnone
    · rename_i hempty
      exact absurd (Option.some.inj hempty) hvalue
    · rename_i found _ hsome
      rw [Option.some.inj hsome]
      rfl

/-- An option whose line can be sent takes the next answer. -/
theorem sendOption_cases (hoption : optionLine? environment option = some line)
    (h : Pending ending answers sent c) (hline : obstacle? ending sent.length line = none) :
    (∃ a more d, answers = a :: more ∧ isAccepted a = true ∧
        sendOption environment option c = .ok () d ∧ Pending ending more (sent ++ [line]) d) ∨
      ∃ fault d, IsProtocolFault fault ∧ (∀ a ∈ answers.head?, isAccepted a = false) ∧
        sendOption environment option c = .error (.agent fault) d ∧
        d.lines = sent ++ [line] := by
  obtain ⟨d, hsend, hpending⟩ := send_eq_ok h hline
  rw [sendOption_of_some hoption, bind_of_ok _ hsend]
  cases answers with
  | nil =>
      obtain ⟨fault, hfault, hanswer⟩ := answer_eq_error hpending
      exact .inr ⟨fault, d, hfault, by simp, bind_of_error _ hanswer, hpending.sent⟩
  | cons a more =>
      obtain ⟨e, hanswer, hmore⟩ := answer_eq_ok hpending
      rw [bind_of_ok _ hanswer]
      cases hrefusal : isRefusal a with
      | true =>
          obtain ⟨f, hreport, hmore⟩ := report_eq_ok .warning
            s!"gpg-agent rejected option {option.2}: {String.ofList a}" hmore
          exact .inl ⟨a, more, f, rfl, by simp [isAccepted, hrefusal], hreport, hmore⟩
      | false =>
          cases hok : isOk a with
          | true => exact .inl ⟨a, more, e, rfl, by simp [isAccepted, hok], rfl, hmore⟩
          | false =>
              exact .inr ⟨.unexpected _, e, trivial, by simp [isAccepted, hok, hrefusal], rfl,
                hmore.sent⟩

/-- Each option with a value takes one answer, up to the first answer that does not let the
conversation go on, unless a line meets an obstacle before. -/
theorem sendOptions_cases {options : List (String × String)} {offers : List RawText}
    (hoffers : options.filterMap (optionLine? environment) = offers)
    (h : Pending ending answers sent c) :
    let accepted := (answers.takeWhile isAccepted).length
    (offers.length ≤ accepted ∧ Passes ending sent.length offers ∧
        ∃ d, options.forM (sendOption environment) c = .ok () d ∧
          Pending ending (answers.drop offers.length) (sent ++ offers) d) ∨
      (accepted < offers.length ∧ Passes ending sent.length (offers.take (accepted + 1)) ∧
        ∃ fault d, IsProtocolFault fault ∧
          options.forM (sendOption environment) c = .error (.agent fault) d ∧
          d.lines = sent ++ offers.take (accepted + 1)) ∨
      ∃ i failure d, StopsAt ending sent.length (offers.take (accepted + 1)) i failure ∧
        options.forM (sendOption environment) c = .error failure d ∧
        d.lines = sent ++ offers.take i := by
  induction options generalizing answers sent c offers with
  | nil =>
      obtain rfl := hoffers
      exact .inl ⟨Nat.zero_le _, passes_nil, c, rfl, by simpa using h⟩
  | cons option options ih =>
      have hrun : (option :: options).forM (sendOption environment) =
        sendOption environment option >>= fun _ => options.forM (sendOption environment) := rfl
      rw [hrun]
      cases hoption : optionLine? environment option with
      | none =>
          rw [List.filterMap_cons_none hoption] at hoffers
          rw [bind_of_ok _ (sendOption_of_none hoption)]
          exact ih hoffers h
      | some line =>
          rw [List.filterMap_cons_some hoption] at hoffers
          obtain rfl := hoffers
          cases hline : obstacle? ending sent.length line with
          | some failure =>
              have hsend := send_eq_error h hline
              rw [sendOption_of_some hoption, bind_of_error _ (bind_of_error _ hsend)]
              refine .inr (.inr ⟨0, failure, c, .here hline, rfl, ?_⟩)
              simpa using h.sent
          | none =>
              rcases sendOption_cases hoption h hline with
                ⟨a, more, d, rfl, haccepted, hsent, hmore⟩ |
                ⟨fault, d, hfault, hrefused, hended, hsent⟩
              · have hlater := ih rfl hmore
                rw [bind_of_ok _ hsent, List.takeWhile_cons_of_pos haccepted]
                simp only [List.length_append, List.length_singleton, List.append_assoc,
                  List.singleton_append] at hlater
                rcases hlater with ⟨hle, hpasses, e, hrest, hpending⟩ |
                  ⟨hlt, hpasses, fault, e, hfault, hrest, hsent⟩ |
                  ⟨i, failure, e, hstops, hrest, hsent⟩
                · exact .inl ⟨Nat.succ_le_succ hle, hpasses.cons hline, e, hrest,
                    by simpa using hpending⟩
                · exact .inr (.inl ⟨Nat.succ_lt_succ hlt, hpasses.cons hline, fault, e, hfault,
                    hrest, hsent⟩)
                · exact .inr (.inr ⟨i + 1, failure, e, hstops.cons hline, hrest, hsent⟩)
              · have hnone : answers.takeWhile isAccepted = [] := by
                  cases answers with
                  | nil => rfl
                  | cons a more => exact List.takeWhile_cons_of_neg (by simpa using hrefused)
                rw [bind_of_error _ hended, hnone]
                refine .inr (.inl ⟨by simp, ?_, fault, d, hfault, rfl, by simpa using hsent⟩)
                simpa using Passes.cons hline passes_nil

/-- The end of a conversation, behind the options: the request and its answer. -/
def ask (path : String) (request : Request) : Talk String := do
  Talk.report .debug s!"Requesting passphrase {request.cacheId} from {path}"
  Talk.send (.ofChars request.line)
  match passphraseOf (← Talk.answer) with
  | .ok passphrase => return passphrase
  | .error failure => throw failure

theorem talk_eq (path : String) (environment : Variables) (request : Request) :
    talk path environment request = (do
      greet
      optionVariables.forM (sendOption environment)
      ask path request) := rfl

/-- The request takes the next answer, unless it meets an obstacle. -/
theorem ask_cases (path : String) (request : Request) (h : Pending ending answers sent c) :
    (obstacle? ending sent.length (.ofChars request.line) = none ∧
      ∃ d, d.lines = sent ++ [.ofChars request.line] ∧
        ((∃ a, answers.head? = some a ∧
            ask path request c =
              match passphraseOf a with
              | .ok passphrase => .ok passphrase d
              | .error failure => .error failure d) ∨
          ∃ fault, IsProtocolFault fault ∧ answers.head? = none ∧
            ask path request c = .error (.agent fault) d)) ∨
      ∃ failure d, obstacle? ending sent.length (.ofChars request.line) = some failure ∧
        d.lines = sent ∧ ask path request c = .error failure d := by
  obtain ⟨d, hreport, hpending⟩ := report_eq_ok .debug
    s!"Requesting passphrase {request.cacheId} from {path}" h
  rw [ask, bind_of_ok _ hreport]
  cases hline : obstacle? ending sent.length (.ofChars request.line) with
  | some failure =>
      rw [bind_of_error _ (send_eq_error hpending hline)]
      exact .inr ⟨failure, d, rfl, hpending.sent, rfl⟩
  | none =>
      obtain ⟨e, hsend, hpending⟩ := send_eq_ok hpending hline
      rw [bind_of_ok _ hsend]
      cases answers with
      | nil =>
          obtain ⟨fault, hfault, hanswer⟩ := answer_eq_error hpending
          rw [bind_of_error _ hanswer]
          exact .inl ⟨rfl, e, hpending.sent, .inr ⟨fault, hfault, rfl, rfl⟩⟩
      | cons a rest =>
          obtain ⟨f, hanswer, hpending⟩ := answer_eq_ok hpending
          rw [bind_of_ok _ hanswer]
          refine .inl ⟨rfl, f, hpending.sent, .inl ⟨a, rfl, ?_⟩⟩
          cases passphraseOf a <;> rfl

/-- All lines of a conversation: the offers and the request. -/
def allLines (environment : Variables) (request : Request) : List RawText :=
  optionLines environment ++ [.ofChars request.line]

theorem length_allLines (environment : Variables) (request : Request) :
    (allLines environment request).length = lineCount environment := by
  rw [allLines, List.length_append, List.length_singleton, lineCount]

/-- A conversation tries to send as many lines as the answers allow. If they can be sent, and they
are all lines, then the answer after them is the one to the request. -/
theorem talk_cases (path : String) (environment : Variables) (request : Request)
    (h : Pending ending answers [] c) :
    let tried := (allLines environment request).take (allowance answers)
    (Passes ending 0 tried ∧
      ((∃ a d, lineCount environment ≤ allowance answers ∧
          answers[lineCount environment]? = some a ∧ d.lines = tried ∧
          talk path environment request c =
            match passphraseOf a with
            | .ok passphrase => .ok passphrase d
            | .error failure => .error failure d) ∨
        ∃ fault d, IsProtocolFault fault ∧
          (lineCount environment ≤ allowance answers → answers[lineCount environment]? = none) ∧
          d.lines = tried ∧ talk path environment request c = .error (.agent fault) d)) ∨
      ∃ i failure d, StopsAt ending 0 tried i failure ∧ d.lines = tried.take i ∧
        talk path environment request c = .error failure d := by
  rw [talk_eq]
  rcases greet_cases h with ⟨greeting, more, d, rfl, hok, hgreet, hmore⟩ |
    ⟨fault, d, hfault, hbad, hgreet, hsent⟩
  · have hallowance : allowance (greeting :: more) = (more.takeWhile isAccepted).length + 1 :=
      if_pos hok
    rw [bind_of_ok _ hgreet, hallowance]
    have hoffers : optionVariables.filterMap (optionLine? environment) = optionLines environment :=
      rfl
    have hoptions := sendOptions_cases hoffers hmore
    simp only [List.length_nil, List.nil_append] at hoptions
    rcases hoptions with ⟨hall, hpasses, e, hoptions, hpending⟩ |
      ⟨hfew, hpasses, fault, e, hfault, hoptions, hsent⟩ | ⟨i, failure, e, hstops, hoptions, hsent⟩
    · have htried : (allLines environment request).take
          ((more.takeWhile isAccepted).length + 1) = allLines environment request := by
        refine List.take_of_length_le ?_
        rw [length_allLines, lineCount]
        omega
      have hnext : (greeting :: more)[lineCount environment]? =
          (more.drop (optionLines environment).length).head? := by
        rw [lineCount, List.getElem?_cons_succ, List.head?_drop]
      rw [bind_of_ok _ hoptions, htried, hnext]
      rcases ask_cases path request hpending with
        ⟨hline, d, hsent, hask⟩ | ⟨failure, d, hline, hsent, hask⟩
      · rw [← Nat.zero_add (optionLines environment).length] at hline
        refine .inl ⟨hpasses.append (passes_nil.cons hline), ?_⟩
        rcases hask with ⟨a, ha, hask⟩ | ⟨fault, hfault, hnone, hask⟩
        · exact .inl ⟨a, d, Nat.succ_le_succ hall, ha, hsent, hask⟩
        · exact .inr ⟨fault, d, hfault, fun _ => hnone, hsent, hask⟩
      · rw [← Nat.zero_add (optionLines environment).length] at hline
        refine .inr ⟨_, failure, d, .behind hpasses (.here hline), ?_, hask⟩
        rw [hsent, allLines, Nat.add_zero, List.take_left]
    · have htried : (allLines environment request).take ((more.takeWhile isAccepted).length + 1) =
          (optionLines environment).take ((more.takeWhile isAccepted).length + 1) :=
        List.take_append_of_le_length hfew
      rw [bind_of_error _ hoptions, htried]
      refine .inl ⟨hpasses, .inr ⟨fault, e, hfault, fun hle => ?_, hsent, rfl⟩⟩
      rw [lineCount] at hle
      omega
    · have hle := Nat.le_of_lt hstops.lt_length
      rw [bind_of_error _ hoptions, allLines, List.take_append]
      refine .inr ⟨i, failure, e, hstops.append, ?_, rfl⟩
      rw [hsent, List.take_append_of_le_length hle, List.take_take]
      rw [List.length_take] at hle
      rw [Nat.min_eq_left (by omega)]
  · have hallowance : allowance answers = 0 := by
      cases answers with
      | nil => rfl
      | cons greeting more => exact if_neg (by simpa using hbad)
    rw [bind_of_error _ hgreet, hallowance]
    exact .inl ⟨passes_nil, .inr ⟨fault, d, hfault, by simp [lineCount], hsent, rfl⟩⟩

end Talking

section Counting

/-- Whether the answers let a client send so many lines: a good greeting came, and an answer that
lets the conversation go on to each of the lines before the last. -/
def Clears (answers : List (List Char)) (count : Nat) : Prop :=
  count ≤ answers.length ∧ (∀ a, answers[0]? = some a → isOk a = true) ∧
    ∀ i a, 1 ≤ i → i < count → answers[i]? = some a → isOk a = true ∨ isRefusal a = true

theorem le_length_takeWhile_iff {items : List (List Char)} {p : List Char → Bool} {count : Nat} :
    count ≤ (items.takeWhile p).length ↔
      count ≤ items.length ∧ ∀ i a, i < count → items[i]? = some a → p a = true := by
  induction items generalizing count with
  | nil => simp
  | cons item items ih =>
      cases count with
      | zero => simp
      | succ count =>
          cases hitem : p item with
          | false =>
              rw [List.takeWhile_cons_of_neg (by simp [hitem])]
              refine ⟨fun h => absurd h (by simp), fun h => ?_⟩
              rw [h.2 0 item (Nat.succ_pos count) rfl] at hitem
              cases hitem
          | true =>
              rw [List.takeWhile_cons_of_pos hitem, List.length_cons, List.length_cons,
                Nat.succ_le_succ_iff, Nat.succ_le_succ_iff, ih]
              refine and_congr_right fun _ => ⟨fun h i a hi ha => ?_, fun h i a hi ha => ?_⟩
              · cases i with
                | zero => exact Option.some.inj ha ▸ hitem
                | succ i => exact h i a (by omega) ha
              · exact h (i + 1) a (by omega) ha

theorem le_allowance_iff {count : Nat} (h : 1 ≤ count) :
    count ≤ allowance answers ↔ Clears answers count := by
  obtain ⟨count, rfl⟩ := Nat.exists_eq_add_of_le' h
  cases answers with
  | nil => simp [allowance, Clears]
  | cons greeting more =>
      cases hok : isOk greeting with
      | false => simp [allowance, Clears, hok]
      | true =>
          have hallowance : allowance (greeting :: more) =
              (more.takeWhile isAccepted).length + 1 := if_pos hok
          rw [hallowance, Nat.add_le_add_iff_right, le_length_takeWhile_iff, Clears,
            List.length_cons, Nat.add_le_add_iff_right]
          refine and_congr_right fun _ =>
            ⟨fun h => ⟨?_, fun i a hone hi ha => ?_⟩, fun h i a hi ha => ?_⟩
          · exact fun a ha => Option.some.inj ha ▸ hok
          · cases i with
            | zero => cases hone
            | succ i => exact Bool.or_eq_true_iff.1 (h i a (by omega) ha)
          · exact Bool.or_eq_true_iff.2 (h.2 (i + 1) a (by omega) (by omega) ha)

end Counting

section Passphrase

theorem not_isOk_of_isRefusal (h : isRefusal a = true) : isOk a = false := by
  obtain ⟨rest, rfl⟩ := List.isPrefixOf_iff_prefix.1 h
  rfl

/-- An answer holds a passphrase if it is good and its rest spells the octets of the passphrase. -/
theorem passphraseOf_eq_ok_iff {passphrase : String} :
    passphraseOf a = .ok passphrase ↔ isOk a = true ∧
      Hex.Spells (Utf8.encode passphrase.toList) (strip (a.drop 2)) := by
  have hread : (Hex.decode? (strip (a.drop 2))).bind Utf8.decode? = some passphrase.toList ↔
      Hex.Spells (Utf8.encode passphrase.toList) (strip (a.drop 2)) := by
    simp only [Option.bind_eq_some_iff, Hex.decode?_eq_some_iff, Utf8.decode?_eq_some_iff]
    constructor
    · rintro ⟨bytes, hbytes, rfl⟩
      exact hbytes
    · exact fun h => ⟨_, h, rfl⟩
  rw [passphraseOf, ← hread]
  by_cases hrefusal : isRefusal a = true
  · rw [if_pos hrefusal, not_isOk_of_isRefusal hrefusal]
    cases refusalCode a <;> simp [bind, Except.bind, throw, throwThe, MonadExceptOf.throw]
  · rw [if_neg hrefusal]
    by_cases hok : isOk a = true
    · rw [if_pos hok]
      cases (Hex.decode? (strip (a.drop 2))).bind Utf8.decode? with
      | none => simp [throw, throwThe, MonadExceptOf.throw]
      | some text =>
          simp only [hok, true_and, Option.some.injEq]
          constructor
          · intro h
            rw [← Except.ok.inj h, String.toList_ofList]
          · rintro rfl
            exact congrArg Except.ok String.ofList_toList
    · rw [if_neg hok]
      simp [hok, throw, throwThe, MonadExceptOf.throw]

end Passphrase

end ArtifactSigning.Agent
