import ArtifactSigning.Proofs.Agent.Verdict
import ArtifactSigning.Proofs.Text.Lines
import Mathlib.Data.List.Infix

/-!
# Answers that are cut off

When an agent has closed its side, its last line counts even if it has not been ended. So an answer
that is cut off is read like a whole one. What has come of a passphrase is taken for all of it if it
spells octets of UTF-8, and then it is the beginning of the passphrase.
-/
namespace ArtifactSigning.Agent

open Text

variable {peer whole : Peer} {path : String} {environment : Variables}
  {request : Request} {answer other : List Char} {passphrase longer : String} {lines : List Bytes}
  {cut line bytes rest : Bytes} {ending : Ending}

/-- An answer holds a passphrase. -/
def HoldsPassphrase (answer : List Char) (passphrase : String) : Prop :=
  isOk answer = true ∧ Hex.Spells (Utf8.encode passphrase.toList) (strip (answer.drop 2))

section Reading

theorem isOk_of_isPrefix (h : isOk answer = true) (hbegins : answer <+: other) :
    isOk other = true :=
  List.isPrefixOf_iff_prefix.2 ((List.isPrefixOf_iff_prefix.1 h).trans hbegins)

theorem not_isRemark_of_isAccepted (h : isAccepted answer = true) : isRemark answer = false := by
  rcases Bool.or_eq_true_iff.1 h with hok | hrefusal
  · obtain ⟨rest, rfl⟩ := List.isPrefixOf_iff_prefix.1 hok
    rfl
  · obtain ⟨rest, rfl⟩ := List.isPrefixOf_iff_prefix.1 hrefusal
    rfl

theorem ne_nil_of_isAccepted (h : isAccepted (lineText cut) = true) : cut ≠ [] := by
  rintro rfl
  rw [show lineText [] = [] from lineText_encode []] at h
  cases h

/-- A last line without an end. -/
theorem cutLine_of_not_mem (hcut : lineEnd ∉ cut) (hne : cut ≠ [])
    (hclosed : ending.closes = true) : cutLine ending cut = .ok (cut, []) := by
  have hdrop : cut.dropWhile (· ≠ lineEnd) = [] :=
    List.dropWhile_eq_nil_iff.2 (decide_ne_of_not_mem hcut)
  simp only [cutLine, hdrop, hclosed, if_neg hne]

/-- An answer that begins so is taken for one, whether or not it has been ended. -/
theorem answersFrom_of_isAccepted (hcut : lineEnd ∉ cut) (hclosed : ending.closes = true)
    (h : isAccepted (lineText cut) = true) : answersFrom ending cut = [lineText cut] := by
  rw [answersFrom_of_cutLine (cutLine_of_not_mem hcut (ne_nil_of_isAccepted h) hclosed),
    not_isRemark_of_isAccepted h, answersFrom_nil]
  rfl

/-- Behind the ended lines there is no other answer. -/
theorem answersFrom_cut (hcut : lineEnd ∉ cut) (hclosed : ending.closes = true) :
    answersFrom ending cut = [] ∨ answersFrom ending cut = [lineText cut] := by
  by_cases hne : cut = []
  · rw [hne]
    exact .inl (answersFrom_nil ending)
  · rw [answersFrom_of_cutLine (cutLine_of_not_mem hcut hne hclosed), answersFrom_nil]
    split
    · exact .inl rfl
    · exact .inr rfl

/-- The next line goes on with what has come of it. -/
theorem isPrefix_of_cutLine (hcut : lineEnd ∉ cut)
    (h : cutLine ending (cut ++ bytes) = .ok (line, rest)) : cut <+: line := by
  rw [cutLine.eq_def, List.takeWhile_append_of_pos (decide_ne_of_not_mem hcut)] at h
  split at h
  · cases h
    exact List.prefix_append _ _
  · cases h
  · split at h
    · cases h
    · cases h
      exact List.prefix_append _ _

/-- A passphrase is held by a line in which nothing had to be replaced. -/
theorem HoldsPassphrase.replacement_not_mem (h : HoldsPassphrase (lineText cut) passphrase) :
    Utf8.replacement ∉ Utf8.decodeLossy cut := by
  -- The replacement character is neither a blank that is removed nor a digit.
  intro hmem
  have hline : Utf8.replacement ∈ lineText cut := mem_trimEnd hmem (by decide)
  obtain ⟨hok, hspells⟩ := h
  obtain ⟨payload, hpayload⟩ := List.isPrefixOf_iff_prefix.1 hok
  rw [← hpayload] at hline hspells
  have hbehind : Utf8.replacement ∈ payload := by
    simpa [Utf8.replacement] using hline
  exact absurd (hspells.toNat_lt (mem_strip hbehind (by decide))) (by decide)

theorem HoldsPassphrase.lineText_isPrefix (h : HoldsPassphrase (lineText cut) passphrase)
    (hbegins : cut <+: line) : lineText cut <+: lineText line :=
  trimEnd_isPrefix_trimEnd (Utf8.decodeLossy_isPrefix hbegins h.replacement_not_mem)

/-- If a line holds a passphrase and so does a longer one, the former holds the beginning of the
latter. -/
theorem HoldsPassphrase.isPrefix_of_isPrefix (h : HoldsPassphrase answer passphrase)
    (hbegins : answer <+: other) (hother : HoldsPassphrase other longer) :
    passphrase.toList <+: longer.toList :=
  Utf8.isPrefix_of_encode
    (h.2.isPrefix_of_isPrefix (strip_isPrefix_strip (List.IsPrefix.drop hbegins 2)) hother.2)

/-- However a line goes on that holds a passphrase, it is the next answer. -/
theorem HoldsPassphrase.exists_line (h : HoldsPassphrase (lineText cut) passphrase)
    (hcut : lineEnd ∉ cut) (hanswer : (answersFrom ending (cut ++ bytes))[0]? = some answer) :
    ∃ line, cut <+: line ∧ answer = lineText line := by
  cases hline : cutLine ending (cut ++ bytes) with
  | error fault =>
      rw [answersFrom_of_cutLine_error hline] at hanswer
      cases hanswer
  | ok found =>
      obtain ⟨line, rest⟩ := found
      -- The whole line begins like an answer too, so it is not passed over as a remark.
      have hbegins := isPrefix_of_cutLine hcut hline
      have hok : isOk (lineText line) = true := isOk_of_isPrefix h.1 (h.lineText_isPrefix hbegins)
      have haccepted : isAccepted (lineText line) = true := Bool.or_eq_true_iff.2 (.inl hok)
      rw [answersFrom_of_cutLine hline, not_isRemark_of_isAccepted haccepted] at hanswer
      exact ⟨line, hbegins, (Option.some.inj hanswer).symm⟩

end Reading

/-- What comes later does not change what the first answers allow. -/
theorem clears_append_iff {answers later : List (List Char)} {count : Nat} (hpos : 1 ≤ count)
    (hle : count ≤ answers.length) : Clears (answers ++ later) count ↔ Clears answers count := by
  have hsame : ∀ i < count, (answers ++ later)[i]? = answers[i]? := by
    intro i hi
    exact List.getElem?_append_left (by omega)
  constructor
  · rintro ⟨-, hgreeting, hlater⟩
    refine ⟨hle, fun a ha => hgreeting a ?_, fun i a hone hi ha => hlater i a hone hi ?_⟩
    · rwa [hsame 0 hpos]
    · rwa [hsame i hi]
  · rintro ⟨-, hgreeting, hlater⟩
    refine ⟨?_, fun a ha => hgreeting a ?_, fun i a hone hi ha => hlater i a hone hi ?_⟩
    · rw [List.length_append]
      omega
    · rwa [← hsame 0 hpos]
    · rwa [← hsame i hi]

/-- An agent closes its side before it has ended the line that answers the request. It has ended
some lines and has begun another one. -/
structure Peer.CutsOff (peer : Peer) (environment : Variables) (lines : List Bytes)
    (cut : Bytes) : Prop where
  replies : peer.replies = repliesOf lines ++ cut
  ended : ∀ line ∈ lines, lineEnd ∉ line
  unended : lineEnd ∉ cut
  closes : peer.ending.closes = true
  early : (answersIn lines).length ≤ lineCount environment

/-- All octets are those of some lines and of one that has not been ended. -/
theorem exists_lines (bytes : Bytes) : ∃ lines cut, bytes = repliesOf lines ++ cut ∧
    (∀ line ∈ lines, lineEnd ∉ line) ∧ lineEnd ∉ cut := by
  by_cases hmem : lineEnd ∈ bytes
  · obtain ⟨line, rest, hbytes, hline⟩ := List.eq_append_cons_of_mem hmem
    have hlength := congrArg List.length hbytes
    obtain ⟨lines, cut, hrest, hlines, hcut⟩ := exists_lines rest
    refine ⟨line :: lines, cut, ?_, List.forall_mem_cons.2 ⟨hline, hlines⟩, hcut⟩
    rw [repliesOf_cons_append, ← hrest, hbytes]
  · exact ⟨[], bytes, rfl, List.forall_mem_nil _, hmem⟩
termination_by bytes.length
decreasing_by
  rw [List.length_append, List.length_cons] at hlength
  omega

/-- An agent that closes its side has ended the line that answers the request, or it cuts it off. -/
theorem Peer.exists_cutsOff (hcloses : peer.ending.closes = true)
    (environment : Variables) :
    ∃ lines cut, peer.replies = repliesOf lines ++ cut ∧
      (lineCount environment < (answersIn lines).length ∨ peer.CutsOff environment lines cut) := by
  obtain ⟨lines, cut, hreplies, hlines, hcut⟩ := exists_lines peer.replies
  refine ⟨lines, cut, hreplies, ?_⟩
  rcases Nat.lt_or_ge (lineCount environment) (answersIn lines).length with hlt | hle
  · exact .inl hlt
  · exact .inr ⟨hreplies, hlines, hcut, hcloses, hle⟩

namespace Peer.CutsOff

theorem answers_eq (h : peer.CutsOff environment lines cut) :
    peer.answers = answersIn lines ++ answersFrom peer.ending cut := by
  rw [Peer.answers, h.replies, answersFrom_append h.ended]

/-- If there is an answer to the request at all, it is the line that was begun. -/
theorem of_concludes (h : peer.CutsOff environment lines cut)
    (hconcludes : peer.Concludes environment answer) :
    Clears (answersIn lines) (lineCount environment) ∧ answer = lineText cut := by
  obtain ⟨-, hclears, hanswer⟩ := hconcludes
  rw [h.answers_eq] at hclears hanswer
  rw [List.getElem?_append_right h.early] at hanswer
  rcases answersFrom_cut h.unended h.closes with hnone | hone
  · rw [hnone] at hanswer
    cases hanswer
  · rw [hone, List.getElem?_singleton] at hanswer
    split at hanswer
    · have hle : lineCount environment ≤ (answersIn lines).length := by omega
      exact ⟨(clears_append_iff (Nat.succ_pos _) hle).1 hclears, (Option.some.inj hanswer).symm⟩
    · cases hanswer

/-- The line that was begun is the answer to the request if it begins like one. -/
theorem concludes (h : peer.CutsOff environment lines cut)
    (hsends : peer.SendsAll environment)
    (hclears : Clears (answersIn lines) (lineCount environment))
    (haccepted : isAccepted (lineText cut) = true) :
    peer.Concludes environment (lineText cut) := by
  have hlength : (answersIn lines).length = lineCount environment := h.early.antisymm hclears.1
  refine ⟨hsends, ?_, ?_⟩
  · rw [h.answers_eq]
    exact (clears_append_iff (Nat.succ_pos _) hclears.1).2 hclears
  · rw [h.answers_eq, answersFrom_of_isAccepted h.unended h.closes haccepted, ← hlength,
      List.getElem?_concat_length]

theorem gives_iff (h : peer.CutsOff environment lines cut) : peer.Gives environment passphrase ↔
    peer.SendsAll environment ∧ Clears (answersIn lines) (lineCount environment) ∧
      HoldsPassphrase (lineText cut) passphrase := by
  constructor
  · rintro ⟨answer, hconcludes, hholds⟩
    obtain ⟨hclears, rfl⟩ := h.of_concludes hconcludes
    exact ⟨hconcludes.1, hclears, hholds⟩
  · rintro ⟨hsends, hclears, hholds⟩
    exact ⟨_, h.concludes hsends hclears (Bool.or_eq_true_iff.2 (.inl hholds.1)), hholds⟩

theorem fails_iff (h : peer.CutsOff environment lines cut) : peer.Fails environment ↔
    peer.SendsAll environment ∧
      ¬(Clears (answersIn lines) (lineCount environment) ∧
        (isRefusal (lineText cut) = true ∨
          ∃ passphrase, HoldsPassphrase (lineText cut) passphrase)) := by
  constructor
  · intro hfails
    have hsends : peer.SendsAll environment :=
      fun failure hstops => hfails.not_disrupts failure (.stops hstops)
    refine ⟨hsends, ?_⟩
    rintro ⟨hclears, hrefusal | ⟨passphrase, hholds⟩⟩
    · have hconcludes := h.concludes hsends hclears (Bool.or_eq_true_iff.2 (.inr hrefusal))
      by_cases hcode : HasUnreadableCode (lineText cut)
      · exact hfails.not_disrupts _ (.unreadable hconcludes hrefusal hcode)
      · exact hfails.not_refuses ⟨_, hconcludes, hrefusal, hcode⟩
    · exact hfails.not_gives passphrase (h.gives_iff.2 ⟨hsends, hclears, hholds⟩)
  · rintro ⟨hsends, hnone⟩
    have hrefusal {answer : List Char} (hconcludes : peer.Concludes environment answer) :
        ¬isRefusal answer = true := by
      obtain ⟨hclears, rfl⟩ := h.of_concludes hconcludes
      exact fun hrefusal => hnone ⟨hclears, .inl hrefusal⟩
    refine ⟨fun passphrase hgives => ?_, ?_, ?_⟩
    · obtain ⟨-, hclears, hholds⟩ := h.gives_iff.1 hgives
      exact hnone ⟨hclears, .inr ⟨passphrase, hholds⟩⟩
    · rintro ⟨answer, hconcludes, hrefuses, -⟩
      exact hrefusal hconcludes hrefuses
    · rintro failure (hstops | ⟨hconcludes, hrefuses, -⟩)
      · exact hsends failure hstops
      · exact hrefusal hconcludes hrefuses

/-- The passphrase of a stream that goes on begins with the one that was read. -/
theorem isPrefix_of_gives (h : peer.CutsOff environment lines cut)
    (hbegins : peer.replies <+: whole.replies) (hgives : peer.Gives environment passphrase)
    (hwhole : whole.Gives environment longer) : passphrase.toList <+: longer.toList := by
  obtain ⟨-, hclears, hholds⟩ := h.gives_iff.1 hgives
  obtain ⟨answer, ⟨-, -, hanswer⟩, hlonger⟩ := hwhole
  obtain ⟨rest, hrest⟩ := hbegins
  have hanswers : whole.answers = answersIn lines ++ answersFrom whole.ending (cut ++ rest) := by
    rw [Peer.answers, ← hrest, h.replies, List.append_assoc, answersFrom_append h.ended]
  rw [hanswers, List.getElem?_append_right h.early, Nat.sub_eq_zero_of_le hclears.1] at hanswer
  obtain ⟨line, hline, rfl⟩ := hholds.exists_line h.unended hanswer
  exact hholds.isPrefix_of_isPrefix (hholds.lineText_isPrefix hline) hlonger

end Peer.CutsOff

/-- An answer that is cut off is read like a whole one: it is a passphrase or a refusal if it reads
as one, and a fault otherwise. What is taken for the passphrase is the beginning of the one that
comes of any longer stream. -/
theorem cut_answer_is_read (h : peer.CutsOff environment lines cut) (path : String)
    (request : Request) :
    let result (peer : Peer) := (converse peer path environment request).result
    let sends := peer.SendsAll environment
    let clears := Clears (answersIn lines) (lineCount environment)
    (∀ passphrase, result peer = .ok passphrase ↔
        sends ∧ clears ∧ HoldsPassphrase (lineText cut) passphrase) ∧
      ((∃ fault, IsProtocolFault fault ∧ result peer = .error (.agent fault)) ↔
        sends ∧ ¬(clears ∧ (isRefusal (lineText cut) = true ∨
          ∃ passphrase, HoldsPassphrase (lineText cut) passphrase))) ∧
      ∀ whole passphrase longer, peer.replies <+: whole.replies → result peer = .ok passphrase →
        result whole = .ok longer → passphrase.toList <+: longer.toList := by
  refine ⟨fun passphrase => (result_eq_ok_iff path request).trans h.gives_iff,
    (protocolFault_iff path request).trans h.fails_iff,
    fun whole passphrase longer hbegins hpeer hwhole => ?_⟩
  exact h.isPrefix_of_gives hbegins ((result_eq_ok_iff path request).1 hpeer)
    ((result_eq_ok_iff path request).1 hwhole)

/-- An agent that greets, begins an answer and closes its side. -/
def breakingOff (begun : String) : Peer :=
  ⟨repliesOf [Utf8.encode "OK".toList] ++ Utf8.encode begun.toList, .close⟩

/-- An environment without variables. -/
def noVariables (_ : String) : Option RawText := none

theorem breakingOff_cutsOff {begun : String} (h : lineEnd ∉ Utf8.encode begun.toList) :
    (breakingOff begun).CutsOff noVariables [Utf8.encode "OK".toList]
      (Utf8.encode begun.toList) where
  replies := rfl
  ended := by decide
  unended := h
  closes := rfl
  early := by decide +kernel

/-- Without variables, nothing stops an exchange with an agent that takes every line. -/
theorem sendsAll_noVariables (h : peer.ending.TakesAll) : peer.SendsAll noVariables :=
  Peer.sendsAll_of_optionLines_eq_nil h rfl

/-- Half of an octet is no passphrase. -/
theorem half_octet_is_fault :
    (breakingOff "OK 544").CutsOff noVariables [Utf8.encode "OK".toList]
        (Utf8.encode "OK 544".toList) ∧
      ∃ fault, IsProtocolFault fault ∧ (converse (breakingOff "OK 544") "S.gpg-agent" noVariables
        (.usual "255684D1" true)).result = .error (.agent fault) := by
  have hcuts : (breakingOff "OK 544").CutsOff noVariables [Utf8.encode "OK".toList]
      (Utf8.encode "OK 544".toList) := breakingOff_cutsOff (by decide)
  have htext : lineText (Utf8.encode "OK 544".toList) = "OK 544".toList := lineText_encode _
  refine ⟨hcuts, (cut_answer_is_read hcuts "S.gpg-agent" _).2.1.2
    ⟨sendsAll_noVariables fun _ => rfl, ?_⟩⟩
  rw [htext]
  rintro ⟨-, hrefusal | ⟨passphrase, -, hspells⟩⟩
  · cases hrefusal
  · have hnone : Hex.decode? (strip ("OK 544".toList.drop 2)) = none := by decide
    cases hnone.symm.trans (Hex.decode?_eq_some_iff.2 hspells)

/-- An agent that greets and answers. -/
def answering (answer : String) : Peer :=
  ⟨repliesOf [Utf8.encode "OK".toList, Utf8.encode answer.toList], .close⟩

/-- Two octets of four are taken for the passphrase. -/
theorem half_passphrase_is_given :
    let result (peer : Peer) :=
      (converse peer "S.gpg-agent" noVariables (.usual "255684D1" true)).result
    (breakingOff "OK 5445").CutsOff noVariables [Utf8.encode "OK".toList]
        (Utf8.encode "OK 5445".toList) ∧
      (breakingOff "OK 5445").replies <+: (answering "OK 54455354").replies ∧
      result (answering "OK 54455354") = .ok "TEST" ∧
      result (breakingOff "OK 5445") = .ok "TE" := by
  have hcuts : (breakingOff "OK 5445").CutsOff noVariables [Utf8.encode "OK".toList]
      (Utf8.encode "OK 5445".toList) := breakingOff_cutsOff (by decide)
  have hclears : Clears (answersIn [Utf8.encode "OK".toList]) (lineCount noVariables) :=
    (le_allowance_iff (by decide)).1 (by decide +kernel)
  have hhalf : HoldsPassphrase (lineText (Utf8.encode "OK 5445".toList)) "TE" := by
    rw [lineText_encode]
    exact ⟨by decide, Hex.decode?_eq_some_iff.1 (by decide)⟩
  have hall : HoldsPassphrase "OK 54455354".toList "TEST" :=
    ⟨by decide, Hex.decode?_eq_some_iff.1 (by decide)⟩
  have hanswers : (answering "OK 54455354").answers = ["OK".toList, "OK 54455354".toList] :=
    (answersFrom_repliesOf (by decide)).trans (by decide +kernel)
  have hconcludes : (answering "OK 54455354").Concludes noVariables "OK 54455354".toList := by
    refine ⟨sendsAll_noVariables fun _ => rfl, ?_, ?_⟩
    · rw [hanswers]
      exact (le_allowance_iff (by decide)).1 (by decide)
    · rw [hanswers]
      decide
  refine ⟨hcuts, by decide, ?_, ?_⟩
  · exact result_of_gives "S.gpg-agent" _ ⟨_, hconcludes, hall⟩
  · exact result_of_gives "S.gpg-agent" _
      (hcuts.gives_iff.2 ⟨sendsAll_noVariables fun _ => rfl, hclears, hhalf⟩)

end ArtifactSigning.Agent
