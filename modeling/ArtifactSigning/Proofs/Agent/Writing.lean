import ArtifactSigning.Proofs.Agent.Exchange
import ArtifactSigning.Proofs.Agent.Request
import ArtifactSigning.Proofs.Text.Separated

/-!
# What is written to a passphrase agent

A request is a line of its own, whatever its fields are. The values of environment variables are
offered as they are, so a line feed in a value begins a line that the library has not composed. All
other lines that ask for a passphrase are requests of the library, and if these are to be answered
from the cache alone, they say so.
-/
namespace ArtifactSigning.Agent

open Step Text

variable {peer : Peer} {path text : String} {environment : Variables}
  {request : Request} {line : List Char}

/-- The line stands behind a line feed in the value of a variable that is offered. -/
def BroughtIn (environment : Variables) (line : List Char) : Prop :=
  ∃ option ∈ optionVariables, ∃ value, environment option.1 = some (.ofString value) ∧
    line ∈ (separated '\n' value.toList).tail

/-- Every line that asks for a passphrase asks for a cached one, unless the environment brings it
in. -/
def AsksCacheOnly (environment : Variables) (text : String) : Prop :=
  ∀ line ∈ separated '\n' text.toList, "GET_PASSPHRASE".toList <+: line →
    "GET_PASSPHRASE --no-ask ".toList <+: line ∨ BroughtIn environment line

/-- The commands that are sent to an agent. -/
def Peer.commands (peer : Peer) (path : String) (environment : Variables)
    (request : Request) : List (List Char) :=
  (finalState (talk path environment request) ⟨peer.replies, peer.ending, [], []⟩).sent

/-- The commands are the lines that the answers allow, up to the first that meets an obstacle. -/
theorem commands_cases (peer : Peer) (path : String) (environment : Variables)
    (request : Request) :
    let tried := (allLines environment request).take (allowance peer.answers)
    let lines := (peer.commands path environment request).map RawText.ofChars
    (Passes peer.ending 0 tried ∧ lines = tried) ∨
      ∃ i failure, StopsAt peer.ending 0 tried i failure ∧ lines = tried.take i := by
  intro tried lines
  rcases talk_cases path environment request peer.pending_start with
    ⟨hpasses, ⟨a, d, -, -, hsent, htalk⟩ | ⟨fault, d, -, -, hsent, htalk⟩⟩ |
    ⟨i, failure, d, hstops, hsent, htalk⟩
  · have hend : peer.commands path environment request = d.sent := by
      cases hread : passphraseOf a <;>
        · rw [hread] at htalk
          simp only [Peer.commands, finalState, htalk]
    exact .inl ⟨hpasses, (congrArg (List.map RawText.ofChars) hend).trans hsent⟩
  · have hend : peer.commands path environment request = d.sent :=
      congrArg Conversation.sent (finalState_of_error htalk)
    exact .inl ⟨hpasses, (congrArg (List.map RawText.ofChars) hend).trans hsent⟩
  · have hend : peer.commands path environment request = d.sent :=
      congrArg Conversation.sent (finalState_of_error htalk)
    exact .inr ⟨i, failure, hstops, (congrArg (List.map RawText.ofChars) hend).trans hsent⟩

/-- The commands are the offers of the options and the request, or the first of these. -/
theorem commands_isPrefix (peer : Peer) (path : String) (environment : Variables)
    (request : Request) :
    (peer.commands path environment request).map RawText.ofChars <+:
      allLines environment request := by
  rcases commands_cases peer path environment request with ⟨-, hlines⟩ | ⟨i, failure, -, hlines⟩
  · rw [hlines]
    exact List.take_prefix _ _
  · rw [hlines]
    exact (List.take_prefix _ _).trans (List.take_prefix _ _)

/-- A command offers a value for an option, or it is the request. -/
theorem mem_commands {command : List Char}
    (h : command ∈ peer.commands path environment request) :
    .ofChars command ∈ optionLines environment ∨ command = request.line := by
  have hmem := (commands_isPrefix peer path environment request).subset (List.mem_map_of_mem h)
  rcases List.mem_append.1 hmem with hoffer | hrequest
  · exact .inl hoffer
  · exact .inr (RawText.ofChars_injective (List.mem_singleton.1 hrequest))

/-- What is sent are the commands, each ended by a line feed. -/
theorem sent_eq (peer : Peer) (path : String) (environment : Variables)
    (request : Request) :
    (converse peer path environment request).sent =
      if peer.ending = .hangUp then none
      else some (sentText (peer.commands path environment request)) := by
  cases htalk : talk path environment request ⟨peer.replies, peer.ending, [], []⟩ <;>
    simp only [converse, EStateM.run, Peer.commands, finalState, htalk]

/-- The lines of an offer: the first one names the option, and the others come from the value. -/
theorem lines_of_optionLine {command : List Char} (h : .ofChars command ∈ optionLines environment)
    (hline : line ∈ separated '\n' command) :
    "OPTION ".toList <+: line ∨ BroughtIn environment line := by
  obtain ⟨option, hoption, value, hvariable, rfl⟩ := exists_offer_of_mem h
  obtain ⟨first, others, hlines, hpieces⟩ :=
    separated_behind (newline_not_mem_offerFront hoption) value.toList
  rw [offer, hpieces] at hline
  rcases List.mem_cons.1 hline with rfl | hother
  · have hword : "OPTION ".toList <+: offerFront option := List.prefix_append _ _
    exact .inl (hword.trans (List.prefix_append _ _))
  · refine .inr ⟨option, hoption, value, hvariable, ?_⟩
    rwa [hlines]

/-- A request for cached passphrases alone says so. -/
theorem noAsk_prefix (h : request.noAsk = true) :
    "GET_PASSPHRASE --no-ask ".toList <+: request.line := by
  have hwords : request.words =
      "GET_PASSPHRASE".toList :: "--no-ask".toList :: request.fields.map escapeField := by
    rw [Request.words, if_pos h]
    rfl
  have hfields : request.fields.map escapeField ≠ [] := by simp [Request.fields]
  rw [Request.line, hwords, List.intercalate_cons_of_ne_nil (List.cons_ne_nil _ _),
    List.intercalate_cons_of_ne_nil hfields]
  exact ⟨[' '].intercalate (request.fields.map escapeField), by simp⟩

/-- If a request is to be answered from the cache alone, nothing else is asked for. -/
theorem asksCacheOnly_of_sent (hrequest : request.noAsk = true)
    (h : (converse peer path environment request).sent = some text) :
    AsksCacheOnly environment text := by
  have hsent := sent_eq peer path environment request
  rw [h] at hsent
  split at hsent
  · cases hsent
  · intro line hline hasks
    rw [Option.some.inj hsent, sentText, String.toList_ofList, separated_flatMap,
      List.mem_append, List.mem_flatMap] at hline
    rcases hline with ⟨sent, hmem, hline⟩ | hend
    · rcases mem_commands hmem with hoffer | rfl
      · rcases lines_of_optionLine hoffer hline with hfirst | hbrought
        · rcases List.prefix_or_prefix_of_prefix hasks hfirst with hprefix | hprefix
          · exact absurd hprefix (by decide)
          · exact absurd hprefix (by decide)
        · exact .inr hbrought
      · rw [separated_of_not_mem (newline_not_mem_line request), List.mem_singleton] at hline
        exact .inl (hline ▸ noAsk_prefix hrequest)
    · rw [List.mem_singleton.1 hend] at hasks
      exact absurd (List.prefix_nil.1 hasks) (by decide)

/-- Values without line feeds bring nothing in. -/
theorem noAsk_of_asksCacheOnly (h : AsksCacheOnly environment text)
    (hvalues : ∀ option ∈ optionVariables, ∀ value, environment option.1 = some value →
      .char '\n' ∉ value)
    (hline : line ∈ separated '\n' text.toList) (hasks : "GET_PASSPHRASE".toList <+: line) :
    "GET_PASSPHRASE --no-ask ".toList <+: line := by
  rcases h line hline hasks with hcached | ⟨option, hoption, value, hvariable, hbrought⟩
  · exact hcached
  · have hvalue := mt RawText.char_mem_ofChars_iff.2 (hvalues option hoption _ hvariable)
    rw [separated_of_not_mem hvalue] at hbrought
    exact absurd hbrought List.not_mem_nil

end ArtifactSigning.Agent
