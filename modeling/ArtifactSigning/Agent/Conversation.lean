import ArtifactSigning.Agent.Request
import ArtifactSigning.Failure
import ArtifactSigning.Log
import ArtifactSigning.Text.Digit

/-!
# Conversations with a passphrase agent

The agent greets, answers every option with one line and then the request with one line. Lines that
begin with a number sign or with `S` and a space are remarks, not answers. An agent is given by all
that it will ever write, by what it does afterwards and by how many lines it takes. So a
conversation is a function of the agent, the environment and the request; `converse` gives its
result together with everything that was sent. A line that the agent does not take, or that has no
octets, ends the conversation.
-/
namespace ArtifactSigning.Agent

/-- What an agent does when it has written everything. -/
inductive Ending where
  /-- It closes its side and goes on reading. -/
  | close
  /-- It stays silent until the waiting limit has passed. -/
  | silence
  /-- It closes its side, and it reads so many lines and no more. -/
  | deaf (lines : Nat)
  /-- It stays open and silent, and it takes so many lines and no more until the waiting limit has
  passed. -/
  | stall (lines : Nat)
  deriving DecidableEq, Repr

/-- It has stopped reading before anything was sent. -/
@[match_pattern]
abbrev Ending.hangUp : Ending := .deaf 0

/-- What keeps an agent from taking one more line when so many lines have been sent to it. -/
def Ending.sendFailure? (ending : Ending) (sent : Nat) : Option Failure :=
  match ending with
  | .close | .silence => none
  | .deaf lines => if sent < lines then none else some .brokenPipe
  | .stall lines => if sent < lines then none else some .sendTimedOut

/-- Whether an agent closes its side when it has written everything. -/
def Ending.closes : Ending → Bool
  | .close | .deaf _ => true
  | .silence | .stall _ => false

structure Peer where
  replies : Bytes
  ending : Ending
  deriving DecidableEq, Repr

/-- The course of a conversation. -/
structure Conversation where
  /-- What the agent has written and nobody has read yet. -/
  unread : Bytes
  ending : Ending
  /-- The lines sent so far. -/
  sent : List (List Char)
  log : List LogEntry

abbrev Talk := EStateM Failure Conversation

/-- The octet that ends a line. -/
def lineEnd : UInt8 := 10

/-- The next line and what follows it. A last line without an end counts if the agent has closed its
side. -/
def cutLine (ending : Ending) (bytes : Bytes) : Except AgentFault (Bytes × Bytes) :=
  match bytes.dropWhile (· ≠ lineEnd), ending.closes with
  | _ :: rest, _ => .ok (bytes.takeWhile (· ≠ lineEnd), rest)
  | [], false => .error .timedOut
  | [], true => if bytes = [] then .error .closed else .ok (bytes, [])

theorem length_of_cutLine {ending : Ending} {bytes line rest : Bytes}
    (h : cutLine ending bytes = .ok (line, rest)) : rest.length < bytes.length := by
  unfold cutLine at h
  split at h
  · rename_i b after hdrop
    have hle := (List.dropWhile_suffix (· ≠ lineEnd) (l := bytes)).length_le
    simp only [Except.ok.injEq, Prod.mk.injEq] at h
    rw [hdrop, h.2] at hle
    simp only [List.length_cons] at hle
    omega
  · simp at h
  · split at h
    · simp at h
    · rename_i hne
      simp only [Except.ok.injEq, Prod.mk.injEq] at h
      rw [← h.2]
      exact List.length_pos_iff.2 hne

/-- The text of a line, without the carriage returns and line feeds at its end. -/
def lineText (line : Bytes) : List Char :=
  Text.trimEnd (fun c => c = '\r' || c = '\n') (Text.Utf8.decodeLossy line)

/-- Whether a line is a remark. -/
def isRemark (line : List Char) : Bool :=
  ['#'].isPrefixOf line || ['S', ' '].isPrefixOf line

/-- The next answer and what follows it. -/
def cutAnswer (ending : Ending) (bytes : Bytes) : Except AgentFault (List Char × Bytes) :=
  match _h : cutLine ending bytes with
  | .error fault => .error fault
  | .ok (line, rest) =>
      if isRemark (lineText line) then cutAnswer ending rest else .ok (lineText line, rest)
termination_by bytes.length
decreasing_by exact length_of_cutLine _h

theorem length_of_cutAnswer {ending : Ending} {bytes rest : Bytes} {answer : List Char}
    (h : cutAnswer ending bytes = .ok (answer, rest)) : rest.length < bytes.length := by
  fun_induction cutAnswer ending bytes with
  | case1 => cases h
  | case2 bytes line after hcut _ ih => exact Nat.lt_trans (ih h) (length_of_cutLine hcut)
  | case3 bytes line after hcut =>
      cases h
      exact length_of_cutLine hcut

namespace Talk

/-- Reads the next answer. -/
def answer : Talk (List Char) := do
  let c ← get
  match cutAnswer c.ending c.unread with
  | .error fault => throw (.agent fault)
  | .ok (line, rest) =>
      set { c with unread := rest }
      return line

/-- Sends a line. -/
def send (line : RawText) : Talk Unit := do
  let c ← get
  match line.characters, c.ending.sendFailure? c.sent.length with
  | .error fault, _ => throw (.unencodable fault)
  | .ok _, some failure => throw failure
  | .ok text, none => set { c with sent := c.sent ++ [text] }

def report (level : LogLevel) (message : String) : Talk Unit :=
  modify fun c => { c with log := c.log ++ [⟨.agent, level, message⟩] }

end Talk

def isOk (line : List Char) : Bool := ['O', 'K'].isPrefixOf line

def isRefusal (line : List Char) : Bool := ['E', 'R', 'R'].isPrefixOf line

/-- The number of a refusal, which is its second word if that is a number. A word of digits that
form no number cannot be read. -/
def refusalCode (line : List Char) : Except Failure (Option Nat) :=
  match Text.words line with
  | _ :: word :: _ =>
      if word.all Text.isDigitLike then
        match Text.readDecimal? word with
        | some code => .ok (some code)
        | none => .error .invalidValue
      else .ok none
  | _ => .ok none

/-- Waits for the greeting. -/
def greet : Talk Unit := do
  let line ← Talk.answer
  unless isOk line do throw (.agent (.greeting (String.ofList line)))

/-- Sets one option from the environment, if its variable has a value. The agent may reject it. -/
def sendOption (environment : Variables) (option : String × String) : Talk Unit := do
  match environment option.1 with
  | none | some [] => return
  | some value =>
      Talk.send (.ofChars ("OPTION ".toList ++ option.2.toList ++ ['=']) ++ value)
      let line ← Talk.answer
      if isRefusal line then
        Talk.report .warning s!"gpg-agent rejected option {option.2}: {String.ofList line}"
      else
        unless isOk line do throw (.agent (.unexpected (String.ofList line)))

/-- The passphrase in an answer: pairs of digits that spell its octets. -/
def passphraseOf (line : List Char) : Except Failure String := do
  if isRefusal line then
    throw (.agent (.refused (String.ofList line) (← refusalCode line)))
  else if isOk line then
    match (Text.Hex.decode? (Text.strip (line.drop 2))).bind Text.Utf8.decode? with
    | some text => return String.ofList text
    | none => throw (.agent .malformedPayload)
  else throw (.agent (.unexpected (String.ofList line)))

/-- A whole conversation with the agent at a path. -/
def talk (path : String) (environment : Variables) (request : Request) : Talk String := do
  greet
  optionVariables.forM (sendOption environment)
  Talk.report .debug s!"Requesting passphrase {request.cacheId} from {path}"
  Talk.send (.ofChars request.line)
  match passphraseOf (← Talk.answer) with
  | .ok passphrase => return passphrase
  | .error failure => throw failure

/-- How a conversation went. -/
structure Outcome where
  result : Except Failure String
  /-- Everything that was sent; nothing is known of it if the agent has hung up. -/
  sent : Option String
  log : List LogEntry

/-- The lines as the agent receives them. -/
def sentText (lines : List (List Char)) : String :=
  String.ofList (lines.flatMap (· ++ ['\n']))

/-- The outcome of a conversation with an agent. -/
def converse (peer : Peer) (path : String) (environment : Variables) (request : Request) :
    Outcome :=
  let outcome (result : Except Failure String) (c : Conversation) : Outcome :=
    { result
      sent := if peer.ending = .hangUp then none else some (sentText c.sent)
      log := c.log }
  match (talk path environment request).run ⟨peer.replies, peer.ending, [], []⟩ with
  | .ok passphrase c => outcome (.ok passphrase) c
  | .error failure c => outcome (.error failure) c

/-- The longest path of a socket, in octets. -/
def maxPathLength : Nat := 107

/-- Whether an agent can be reached at a path at all. -/
def reach (peer? : Option Peer) (path : String) : Except Failure Peer :=
  if maxPathLength < (Text.Utf8.encode path.toList).length then
    .error (.agent (.pathTooLong path))
  else
    match peer? with
    | some peer => .ok peer
    | none => .error (.agent (.noSocket path))

end ArtifactSigning.Agent
