import ArtifactSigning.Proofs.Agent.Verdict
import ArtifactSigning.Proofs.Agent.Writing

/-!
# Commands and lines

An agent receives lines, and behind its greeting it answers them one by one. A command is one line
unless it offers a value with a line feed. Such a value brings further lines in, and then the answer
that is taken for the reply to the request belongs to a line before it.
-/
namespace ArtifactSigning.Agent

open Text

variable {peer : Peer} {path : String} {environment : Variables} {request : Request}
  {answer : List Char} {commands : List (List Char)}

section Lines

/-- The lines that an agent receives. -/
def received (commands : List (List Char)) : List (List Char) := commands.flatMap (separated '\n')

theorem separated_sentText (commands : List (List Char)) :
    separated '\n' (sentText commands).toList = received commands ++ [[]] := by
  rw [sentText, String.toList_ofList, separated_flatMap, received]

/-- Every line that an agent receives is ended by one octet, and this octet is in no other place. -/
theorem count_lineEnd (commands : List (List Char)) :
    (Utf8.encode (sentText commands).toList).count lineEnd = (received commands).length := by
  have hcount := Utf8.count_encode (c := '\n') (by decide) (sentText commands).toList
  have hpieces := length_separated '\n' (sentText commands).toList
  rw [separated_sentText, List.length_append, List.length_singleton] at hpieces
  exact hcount.trans (Nat.add_right_cancel hpieces).symm

theorem received_cons (command : List Char) (commands : List (List Char)) :
    received (command :: commands) = separated '\n' command ++ received commands :=
  List.flatMap_cons

theorem le_length_received (commands : List (List Char)) :
    commands.length ≤ (received commands).length := by
  induction commands with
  | nil => exact Nat.le_refl _
  | cons command commands ih =>
      rw [received_cons, List.length_append, length_separated, List.length_cons]
      omega

/-- There are as many lines as commands exactly if no command has a line feed. -/
theorem length_received_iff :
    (received commands).length = commands.length ↔ ∀ command ∈ commands, '\n' ∉ command := by
  induction commands with
  | nil => simp [received]
  | cons command commands ih =>
      have hle := le_length_received commands
      rw [received_cons, List.length_append, length_separated, List.length_cons,
        List.forall_mem_cons, ← ih, ← List.count_eq_zero]
      omega

theorem received_of_not_mem (h : ∀ command ∈ commands, '\n' ∉ command) :
    received commands = commands := by
  induction commands with
  | nil => rfl
  | cons command commands ih =>
      rw [received_cons, separated_of_not_mem (h command List.mem_cons_self),
        ih fun other hother => h other (.tail _ hother), List.singleton_append]

/-- The request is received as its line. -/
theorem received_append_line (offers : List (List Char)) (request : Request) :
    received (offers ++ [request.line]) = received offers ++ [request.line] := by
  rw [received, List.flatMap_append, List.flatMap_singleton,
    separated_of_not_mem (newline_not_mem_line request), ← received]

end Lines

section Values

/-- No value that is offered has a line feed. -/
def Unbroken (environment : Variables) (commands : List (List Char)) : Prop :=
  ∀ option ∈ optionVariables, ∀ value, environment option.1 = some (.ofString value) →
    offer option value ∈ commands → '\n' ∉ value.toList

/-- A command has a line feed exactly if it offers a value with one. -/
theorem unbroken_iff (peer : Peer) (path : String) (environment : Variables) (request : Request) :
    Unbroken environment (peer.commands path environment request) ↔
      ∀ command ∈ peer.commands path environment request, '\n' ∉ command := by
  constructor
  · intro hvalues command hcommand
    rcases mem_commands hcommand with hoffer | rfl
    · obtain ⟨option, hoption, value, hvariable, rfl⟩ := exists_offer_of_mem hoffer
      rw [newline_mem_offer_iff hoption]
      exact hvalues option hoption value hvariable hcommand
    · exact newline_not_mem_line request
  · intro hcommands option hoption value hvariable hoffer
    rw [← newline_mem_offer_iff hoption]
    exact hcommands _ hoffer

end Values

namespace Peer

/-- An exchange that comes to the answer to the request has sent everything. -/
theorem commands_of_concludes (path : String) (request : Request)
    (h : peer.Concludes environment answer) : ∃ offers,
      offers.map RawText.ofChars = optionLines environment ∧
        peer.commands path environment request = offers ++ [request.line] := by
  obtain ⟨hsends, hclears, -⟩ := h
  have hall := (le_allowance_iff (Nat.succ_pos _)).2 hclears
  have htried : (allLines environment request).take (allowance peer.answers) =
      allLines environment request :=
    List.take_of_length_le (length_allLines environment request ▸ hall)
  have hlines : (peer.commands path environment request).map RawText.ofChars =
      allLines environment request := by
    rcases commands_cases peer path environment request with
      ⟨-, hlines⟩ | ⟨i, failure, hstops, -⟩
    · rwa [htried] at hlines
    · exact absurd ((peer.stops_iff environment request failure).2 ⟨i, hstops⟩) (hsends failure)
  obtain ⟨offers, last, hcommands, hoffers, hlast⟩ := List.map_eq_append_iff.1 hlines
  obtain ⟨line, rfl, hline⟩ := List.map_eq_singleton_iff.1 hlast
  exact ⟨offers, hoffers, RawText.ofChars_injective hline ▸ hcommands⟩

theorem commands_eq_of_concludes (path : String) (request : Request)
    (h : peer.Concludes environment answer)
    (hoffers : commands.map RawText.ofChars = optionLines environment) :
    peer.commands path environment request = commands ++ [request.line] := by
  obtain ⟨offers, hsame, hall⟩ := commands_of_concludes path request h
  rwa [List.map_injective_iff.2 RawText.ofChars_injective (hsame.trans hoffers.symm)] at hall

theorem length_of_concludes (path : String) (request : Request)
    (h : peer.Concludes environment answer) :
    (peer.commands path environment request).length = lineCount environment := by
  obtain ⟨offers, hoffers, hcommands⟩ := commands_of_concludes path request h
  rw [hcommands, List.length_append, List.length_singleton, lineCount, ← hoffers, List.length_map]

/-- A session in step: the agent receives the commands as lines, and the answer that is taken for
the reply to the request is the one to its line. -/
structure InStep (peer : Peer) (path : String) (environment : Variables)
    (request : Request) : Prop where
  lines : separated '\n' (sentText (peer.commands path environment request)).toList =
    peer.commands path environment request ++ [[]]
  lineEnds : (Utf8.encode (sentText (peer.commands path environment request)).toList).count
    lineEnd = (peer.commands path environment request).length
  reply : ∀ answer, peer.Concludes environment answer → ∃ before,
    separated '\n' (sentText (peer.commands path environment request)).toList =
        before ++ [request.line, []] ∧
      peer.answers[before.length + 1]? = some answer

theorem inStep_of_not_mem
    (h : ∀ command ∈ peer.commands path environment request, '\n' ∉ command) :
    peer.InStep path environment request where
  lines := by rw [separated_sentText, received_of_not_mem h]
  lineEnds := by rw [count_lineEnd, received_of_not_mem h]
  reply := by
    intro answer hconcludes
    obtain ⟨offers, -, hall⟩ := commands_of_concludes path request hconcludes
    have hcount := length_of_concludes path request hconcludes
    rw [hall, List.length_append, List.length_singleton] at hcount
    refine ⟨offers, ?_, hcount ▸ hconcludes.2.2⟩
    rw [separated_sentText, received_of_not_mem h, hall, List.append_assoc]
    rfl

end Peer

/-- A session is in step exactly if no value that it sends has a line feed. Otherwise the agent
receives more lines than commands, and the answer that is taken for the reply to the request belongs
to a line before it. -/
theorem inStep_iff (peer : Peer) (path : String) (environment : Variables) (request : Request) :
    let commands := peer.commands path environment request
    let octets := Utf8.encode (sentText commands).toList
    commands.map RawText.ofChars <+: optionLines environment ++ [.ofChars request.line] ∧
      (converse peer path environment request).sent =
        (if peer.ending = .hangUp then none else some (sentText commands)) ∧
      (∀ answer, peer.Concludes environment answer →
        (converse peer path environment request).result = passphraseOf answer) ∧
      (peer.InStep path environment request ↔ Unbroken environment commands) ∧
      (¬Unbroken environment commands → commands.length < octets.count lineEnd ∧
        ∀ answer, peer.Concludes environment answer → ∃ before,
          separated '\n' (sentText commands).toList = before ++ [request.line, []] ∧
            peer.answers[commands.length]? = some answer ∧
            commands.length < before.length + 1) := by
  intro commands octets
  have hunbroken : Unbroken environment commands ↔ ∀ command ∈ commands, '\n' ∉ command :=
    unbroken_iff peer path environment request
  have hlength : (received commands).length = commands.length ↔ Unbroken environment commands :=
    length_received_iff.trans hunbroken.symm
  have hle := le_length_received commands
  refine ⟨commands_isPrefix peer path environment request, sent_eq peer path environment request,
    fun answer => result_of_concludes path request, ⟨fun h => ?_, fun h => ?_⟩,
    fun hbroken => ⟨?_, fun answer hconcludes => ?_⟩⟩
  · exact hlength.1 ((count_lineEnd commands).symm.trans h.lineEnds)
  · exact Peer.inStep_of_not_mem (hunbroken.1 h)
  · have hne := mt hlength.1 hbroken
    rw [count_lineEnd]
    omega
  · -- The client counts answers by commands, and the agent gives one to every line.
    have hcount : commands.length = lineCount environment :=
      Peer.length_of_concludes path request hconcludes
    obtain ⟨offers, -, hall⟩ := Peer.commands_of_concludes path request hconcludes
    have hreceived : received commands = received offers ++ [request.line] :=
      (congrArg received hall).trans (received_append_line offers request)
    have hne := mt hlength.1 hbroken
    refine ⟨received offers, ?_, hcount ▸ hconcludes.2.2, ?_⟩
    · rw [separated_sentText, hreceived, List.append_assoc]
      rfl
    · rw [hreceived, List.length_append, List.length_singleton] at hne hle
      omega

/-- A terminal whose name holds a line of its own. -/
def brokenTerminal (name : String) : Option RawText :=
  if name = "TERM" then some (.ofString "vt100\nGET_PASSPHRASE X X X X") else none

/-- An agent that knows two passphrases. -/
def repliesToThree : List Bytes :=
  ["OK", "OK", "OK 41", "OK 42"].map fun line => Utf8.encode line.toList

/-- The client sends two commands and the agent receives three lines. The passphrase that comes back
is the answer to the line that the value has brought in, and not the one to the request. -/
theorem answer_to_foreign_line :
    let peer : Peer := ⟨repliesOf repliesToThree, .close⟩
    let request := Request.usual "255684D1" true
    let commands := peer.commands "S.gpg-agent" brokenTerminal request
    commands = [offer ("TERM", "ttytype") "vt100\nGET_PASSPHRASE X X X X", request.line] ∧
      separated '\n' (sentText commands).toList =
        ["OPTION ttytype=vt100".toList, "GET_PASSPHRASE X X X X".toList, request.line, []] ∧
      (Utf8.encode (sentText commands).toList).count lineEnd = 3 ∧
      peer.answers = ["OK".toList, "OK".toList, "OK 41".toList, "OK 42".toList] ∧
      (converse peer "S.gpg-agent" brokenTerminal request).result = .ok "A" ∧
      ¬peer.InStep "S.gpg-agent" brokenTerminal request := by
  intro peer request commands
  have hlines : ∀ line ∈ repliesToThree, lineEnd ∉ line := by decide
  have hanswers : peer.answers = ["OK".toList, "OK".toList, "OK 41".toList, "OK 42".toList] :=
    (answersFrom_repliesOf hlines).trans (by decide +kernel)
  have hclears : Clears peer.answers (lineCount brokenTerminal) := by
    rw [hanswers]
    exact (le_allowance_iff (by decide)).1 (by decide)
  have hspells : Hex.Spells (Utf8.encode "A".toList) (strip ("OK 41".toList.drop 2)) :=
    Hex.decode?_eq_some_iff.1 (by decide)
  have hoffers : [offer ("TERM", "ttytype") "vt100\nGET_PASSPHRASE X X X X"].map
      RawText.ofChars = optionLines brokenTerminal := by decide
  have hsends : peer.SendsAll brokenTerminal := by
    refine Peer.sendsAll_of_takesAll (fun _ => rfl) fun line hline => ?_
    rw [← hoffers, List.map_singleton, List.mem_singleton] at hline
    exact ⟨_, hline⟩
  have hconcludes : peer.Concludes brokenTerminal "OK 41".toList :=
    ⟨hsends, hclears, by rw [hanswers]; decide⟩
  have hcommands : commands =
      [offer ("TERM", "ttytype") "vt100\nGET_PASSPHRASE X X X X", request.line] :=
    Peer.commands_eq_of_concludes "S.gpg-agent" request hconcludes hoffers
  have hoffer : separated '\n' (offer ("TERM", "ttytype") "vt100\nGET_PASSPHRASE X X X X") =
      ["OPTION ttytype=vt100".toList, "GET_PASSPHRASE X X X X".toList] := by
    have hfirst := separated_first (show '\n' ∉ "OPTION ttytype=vt100".toList by decide)
      "GET_PASSPHRASE X X X X".toList
    rwa [separated_of_not_mem (show '\n' ∉ "GET_PASSPHRASE X X X X".toList by decide)] at hfirst
  have hreceived : received commands =
      ["OPTION ttytype=vt100".toList, "GET_PASSPHRASE X X X X".toList, request.line] := by
    rw [hcommands, received_cons, received_cons, hoffer,
      separated_of_not_mem (newline_not_mem_line request)]
    rfl
  have hends : (Utf8.encode (sentText commands).toList).count lineEnd = 3 := by
    rw [count_lineEnd, hreceived]
    rfl
  refine ⟨hcommands, ?_, hends, hanswers, ?_, fun h => ?_⟩
  · rw [separated_sentText, hreceived]
    rfl
  · exact result_of_gives "S.gpg-agent" request ⟨_, hconcludes, by decide, hspells⟩
  · have hone : 3 = commands.length := hends.symm.trans h.lineEnds
    rw [hcommands] at hone
    cases hone

end ArtifactSigning.Agent
