import ArtifactSigning.Agent.Conversation
import ArtifactSigning.Proofs.Text.Raw

/-!
# The lines that a client has to send

There is a line for every option whose variable has a value, and then comes the request. A line can
be sent if it consists of characters and the agent takes it. Of several lines those before the first
obstacle are sent.
-/
namespace ArtifactSigning.Agent

variable {environment : Variables} {option : String × String} {ending : Ending} {line : RawText}
  {lines later : List RawText} {start i : Nat} {failure : Failure}

section Offers

/-- What stands in an offer before its value. -/
def offerFront (option : String × String) : List Char :=
  "OPTION ".toList ++ option.2.toList ++ ['=']

/-- The line that offers an option, if its variable has a value. -/
def optionLine? (environment : Variables) (option : String × String) : Option RawText :=
  match environment option.1 with
  | none | some [] => none
  | some value => some (.ofChars (offerFront option) ++ value)

/-- The lines that offer the options which have a value, in their order. -/
def optionLines (environment : Variables) : List RawText :=
  optionVariables.filterMap (optionLine? environment)

/-- The number of lines of a conversation: one for each option that has a value, and the request. -/
def lineCount (environment : Variables) : Nat := (optionLines environment).length + 1

/-- The command that offers a value for an option. -/
def offer (option : String × String) (value : String) : List Char :=
  offerFront option ++ value.toList

/-- Every offer has an option and the value of its variable. -/
theorem exists_value_of_mem (h : line ∈ optionLines environment) :
    ∃ option ∈ optionVariables, ∃ value,
      environment option.1 = some value ∧ line = .ofChars (offerFront option) ++ value := by
  obtain ⟨option, hoption, hline⟩ := List.mem_filterMap.1 h
  unfold optionLine? at hline
  split at hline
  · cases hline
  · cases hline
  · rename_i value _ hvariable
    exact ⟨option, hoption, value, hvariable, (Option.some.inj hline).symm⟩

/-- Every offer that consists of characters is one of a text. -/
theorem exists_offer_of_mem {command : List Char}
    (h : .ofChars command ∈ optionLines environment) : ∃ option ∈ optionVariables, ∃ value,
      environment option.1 = some (.ofString value) ∧ command = offer option value := by
  obtain ⟨option, hoption, value, hvariable, hline⟩ := exists_value_of_mem h
  obtain ⟨front, back, rfl, hfront, rfl⟩ := RawText.append_eq_ofChars_iff.1 hline.symm
  obtain rfl := RawText.ofChars_injective hfront
  refine ⟨option, hoption, String.ofList back, ?_, ?_⟩
  · rw [hvariable, RawText.ofString, String.toList_ofList]
  · rw [offer, String.toList_ofList]

theorem newline_not_mem_offerFront (hoption : option ∈ optionVariables) :
    '\n' ∉ offerFront option := by
  have hall : ∀ option ∈ optionVariables, '\n' ∉ offerFront option := by decide
  exact hall option hoption

/-- An offer has a line feed exactly if its value has one. -/
theorem newline_mem_offer_iff (hoption : option ∈ optionVariables) {value : String} :
    '\n' ∈ offer option value ↔ '\n' ∈ value.toList := by
  rw [offer, List.mem_append, or_iff_right (newline_not_mem_offerFront hoption)]

end Offers

section Obstacles

/-- What keeps a line from being sent: it has no octets, or the agent does not take it. -/
def obstacle? (ending : Ending) (sent : Nat) (line : RawText) : Option Failure :=
  match line.characters with
  | .error fault => some (.unencodable fault)
  | .ok _ => ending.sendFailure? sent

theorem obstacle?_ofChars (ending : Ending) (sent : Nat) (text : List Char) :
    obstacle? ending sent (.ofChars text) = ending.sendFailure? sent := by
  rw [obstacle?, RawText.characters_ofChars]

/-- What an obstacle can be: the agent has closed its side, it does not read in time, or there are
no octets to send. -/
inductive IsObstacle : Failure → Prop
  | brokenPipe : IsObstacle .brokenPipe
  | sendTimedOut : IsObstacle .sendTimedOut
  | unencodable (fault : EncodingFault) : IsObstacle (.unencodable fault)

theorem isObstacle_of_sendFailure? (h : ending.sendFailure? i = some failure) :
    IsObstacle failure := by
  cases ending with
  | close => cases h
  | silence => cases h
  | deaf lines =>
      rw [Ending.sendFailure?, Option.ite_none_left_eq_some] at h
      exact Option.some.inj h.2 ▸ .brokenPipe
  | stall lines =>
      rw [Ending.sendFailure?, Option.ite_none_left_eq_some] at h
      exact Option.some.inj h.2 ▸ .sendTimedOut

theorem isObstacle_of_obstacle? (h : obstacle? ending i line = some failure) :
    IsObstacle failure := by
  unfold obstacle? at h
  split at h
  · exact Option.some.inj h ▸ .unencodable _
  · exact isObstacle_of_sendFailure? h

/-- The agent takes every line. -/
def Ending.TakesAll (ending : Ending) : Prop := ∀ sent, ending.sendFailure? sent = none

/-- An agent that takes every line leaves one obstacle alone. -/
theorem obstacle?_eq_some_iff (h : ending.TakesAll) : obstacle? ending i line = some failure ↔
    ∃ fault, line.characters = .error fault ∧ failure = .unencodable fault := by
  rw [obstacle?]
  cases line.characters with
  | ok text =>
      rw [h i]
      simp
  | error fault => simp [eq_comm]

theorem obstacle?_eq_none_iff (h : ending.TakesAll) :
    obstacle? ending i line = none ↔ line.IsText := by
  rw [obstacle?]
  rcases line.isText_or_fault with htext | ⟨fault, hfault⟩
  · obtain ⟨text, rfl⟩ := htext
    rw [RawText.characters_ofChars]
    exact iff_of_true (h i) ⟨text, rfl⟩
  · rw [hfault]
    exact iff_of_false nofun fun htext => htext.characters_ne hfault

/-- The lines can be sent behind so many others. -/
def Passes (ending : Ending) (start : Nat) (lines : List RawText) : Prop :=
  ∀ i line, lines[i]? = some line → obstacle? ending (start + i) line = none

/-- Of the lines behind so many others, those before one of them can be sent, and that one meets an
obstacle. -/
structure StopsAt (ending : Ending) (start : Nat) (lines : List RawText) (i : Nat)
    (failure : Failure) : Prop where
  before : Passes ending start (lines.take i)
  obstacle : ∃ line, lines[i]? = some line ∧ obstacle? ending (start + i) line = some failure

theorem passes_nil : Passes ending start [] := nofun

/-- An agent that takes every line lets texts pass and nothing else. -/
theorem passes_iff (h : ending.TakesAll) :
    Passes ending start lines ↔ ∀ line ∈ lines, line.IsText := by
  constructor
  · intro hpasses line hline
    obtain ⟨i, hi⟩ := List.mem_iff_getElem?.1 hline
    exact (obstacle?_eq_none_iff h).1 (hpasses i line hi)
  · intro htexts i line hline
    exact (obstacle?_eq_none_iff h).2 (htexts line (List.mem_of_getElem? hline))

theorem Passes.cons (hline : obstacle? ending start line = none)
    (h : Passes ending (start + 1) lines) : Passes ending start (line :: lines) := by
  intro i other hother
  cases i with
  | zero =>
      rw [← Option.some.inj hother]
      exact hline
  | succ i =>
      rw [← Nat.succ_add_eq_add_succ]
      exact h i other hother

theorem Passes.append (h : Passes ending start lines)
    (hlater : Passes ending (start + lines.length) later) :
    Passes ending start (lines ++ later) := by
  intro i line hline
  rcases Nat.lt_or_ge i lines.length with hlt | hge
  · rw [List.getElem?_append_left hlt] at hline
    exact h i line hline
  · rw [List.getElem?_append_right hge] at hline
    have hlater := hlater _ line hline
    rwa [Nat.add_assoc, Nat.add_sub_of_le hge] at hlater

theorem StopsAt.here (hline : obstacle? ending start line = some failure) :
    StopsAt ending start (line :: lines) 0 failure :=
  ⟨passes_nil, line, rfl, hline⟩

theorem StopsAt.cons (hline : obstacle? ending start line = none)
    (h : StopsAt ending (start + 1) lines i failure) :
    StopsAt ending start (line :: lines) (i + 1) failure := by
  obtain ⟨hbefore, other, hother, hobstacle⟩ := h
  rw [Nat.succ_add_eq_add_succ] at hobstacle
  exact ⟨hbefore.cons hline, other, hother, hobstacle⟩

theorem StopsAt.lt_length (h : StopsAt ending start lines i failure) : i < lines.length := by
  obtain ⟨-, line, hline, -⟩ := h
  exact (List.getElem?_eq_some_iff.1 hline).1

theorem StopsAt.append (h : StopsAt ending start lines i failure) :
    StopsAt ending start (lines ++ later) i failure := by
  have hlt := h.lt_length
  obtain ⟨hbefore, line, hline, hobstacle⟩ := h
  refine ⟨?_, line, ?_, hobstacle⟩
  · rwa [List.take_append_of_le_length (Nat.le_of_lt hlt)]
  · rwa [List.getElem?_append_left hlt]

theorem StopsAt.behind (hlines : Passes ending start lines)
    (h : StopsAt ending (start + lines.length) later i failure) :
    StopsAt ending start (lines ++ later) (lines.length + i) failure := by
  obtain ⟨hbefore, line, hline, hobstacle⟩ := h
  refine ⟨?_, line, ?_, ?_⟩
  · rw [List.take_length_add_append]
    exact hlines.append hbefore
  · rwa [List.getElem?_append_right (Nat.le_add_right _ _), Nat.add_sub_cancel_left]
  · rwa [← Nat.add_assoc]

end Obstacles

end ArtifactSigning.Agent
