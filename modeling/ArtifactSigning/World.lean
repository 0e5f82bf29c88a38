import ArtifactSigning.Agent.Conversation
import ArtifactSigning.File.Tree
import ArtifactSigning.Gpg.Version
import ArtifactSigning.Key.Unlock
import ArtifactSigning.Text.Plain

/-!
# The surroundings of a signing run

A run reads and writes files, looks at the clock, talks to passphrase agents, runs the external
tool and may ask a human. All of this is one value, and an action is a step on it that returns a
result or fails; what it has done before the failure stays done.
-/
namespace ArtifactSigning

/-- What a run of the external tool does. -/
structure ToolRun where
  /-- Why it does not come to its end, if so. -/
  fault? : Option RunFault
  output : Bytes
  errorOutput : Bytes
  exitCode : Int
  /-- What it writes to the file that it was told to write. -/
  written? : Option Bytes

/-- The run of a tool that is not there. -/
def ToolRun.absent : ToolRun where
  fault? := some .missing
  output := []
  errorOutput := []
  exitCode := 0
  written? := none

/-- A run of the tool as the library asked for it. -/
structure ToolCall where
  command : List String
  input? : Option String
  limit? : Option Time.Seconds

/-- The external tool: how it answers when asked for its version, and what its other runs do. The
last of these repeats. -/
structure Tool where
  versionRun : ToolRun
  runs : List ToolRun

/-- What a loader of credentials can be asked for. -/
inductive Question where
  | material
  | fingerprint
  /-- The passphrase of the key with a fingerprint. -/
  | passphrase (fingerprint : String)
  deriving DecidableEq, Repr

/-- A selected secret key and the private key that it unlocked to. -/
structure ResolvedKey where
  key : SecretKey
  privateKey : PrivateKey
  unlocked : ∃ passphrase?, key.unlock passphrase? = .ok privateKey

structure World where
  files : FileTree
  workingDirectory : Place
  /-- A working directory is spelled without double dots, as systems report it. -/
  workingDirectory_resolved : ".." ∉ workingDirectory
  /-- The clock, in seconds. -/
  now : Rat
  /-- The agents that can be reached, by the paths of their sockets. -/
  agents : List (String × Agent.Peer)
  tool : Tool
  /-- Whether details of the work are reported. -/
  detailed : Bool
  /-- Lines that a human will type. -/
  typed : List String
  /-- The version of the tool, as far as it was asked for. -/
  version? : Option Version
  /-- The signing key, as far as it was resolved. -/
  resolved? : Option ResolvedKey
  log : List LogEntry
  toolCalls : List ToolCall
  /-- The temporary files used so far. -/
  temporaries : List Path
  /-- What was sent to which agent; nothing is known of what was sent to one that had hung up. -/
  agentSent : List (String × Option String)
  /-- The loaders that were asked, and what for. -/
  consulted : List (Nat × Question)
  /-- How often a human was asked. -/
  prompts : Nat
  /-- What was written for the user to read. -/
  shown : String

/-- The surroundings in which nothing has been done yet. Double dots in the working directory are
resolved by their spelling. -/
def World.start (files : FileTree) (workingDirectory : Place) (now : Rat) (tool : Tool) :
    World where
  files := files
  workingDirectory := Place.along [] workingDirectory
  workingDirectory_resolved := Place.not_mem_along List.not_mem_nil
  now := now
  agents := []
  tool := tool
  detailed := false
  typed := []
  version? := none
  resolved? := none
  log := []
  toolCalls := []
  temporaries := []
  agentSent := []
  consulted := []
  prompts := 0
  shown := ""

abbrev Act := EStateM Failure World

namespace Act

/-- A result that is already known. -/
def ofExcept : Except Failure α → Act α
  | .ok a => pure a
  | .error failure => throw failure

def report (source : LogSource) (level : LogLevel) (message : String) : Act Unit :=
  modify fun w => { w with log := w.log ++ [⟨source, level, message⟩] }

def debug (source : LogSource) (message : String) : Act Unit := report source .debug message

/-- Shows a text to the user. -/
def display (text : String) : Act Unit :=
  modify fun w => { w with shown := w.shown ++ Text.plainText text }

/-- The broken rule of a file operation as a failure that names the path. -/
def onPath (p : Path) : Except FileRule α → Act α
  | .ok a => pure a
  | .error rule => throw (.file ⟨rule, p.text, none⟩)

/-- What a path leads to. -/
def find? (p : Path) : Act (Option FileEntry) := do
  let w ← get
  return w.files.find? w.workingDirectory p

def isFile (p : Path) : Act Bool := do
  match ← find? p with
  | some (.file _) => return true
  | _ => return false

def isDirectory (p : Path) : Act Bool := do return (← find? p) = some .directory

def pathExists (p : Path) : Act Bool := do return (← find? p).isSome

def readFile (p : Path) : Act Bytes := do
  let w ← get
  onPath p (w.files.read w.workingDirectory p)

/-- Changes the files, if the change breaks no rule. -/
def changeFiles (p : Path) (change : FileTree → Place → Except FileRule FileTree) : Act Unit := do
  let w ← get
  let files ← onPath p (change w.files w.workingDirectory)
  set { w with files }

def writeFile (p : Path) (content : Bytes) : Act Unit :=
  changeFiles p fun files place => files.write place p content

def removeFile (p : Path) : Act Unit := changeFiles p fun files place => files.remove place p

/-- Moves a file; a failure names both paths. -/
def moveFile (source target : Path) : Act Unit := do
  let w ← get
  match w.files.move w.workingDirectory source target with
  | .ok files => set { w with files }
  | .error rule => throw (.file ⟨rule, source.text, some target.text⟩)

/-- Whether a failed step is made good by a directory that is already there. -/
def orDirectory (p : Path) (rule : FileRule) : Act Unit := do
  unless ← isDirectory p do throw (.file ⟨rule, p.text, none⟩)

/-- Makes a directory and the directories above it, as far as they are missing. -/
def makeDirectories (p : Path) : Act Unit := do
  let w ← get
  match w.files.makeDirectory w.workingDirectory p with
  | .ok files => set { w with files }
  | .error .missing =>
      if _h : p.names = [] then throw (.file ⟨.missing, p.text, none⟩)
      else
        makeDirectories p.parent
        let w ← get
        match w.files.makeDirectory w.workingDirectory p with
        | .ok files => set { w with files }
        | .error .missing => throw (.file ⟨.missing, p.text, none⟩)
        | .error rule => orDirectory p rule
  | .error rule => orDirectory p rule
termination_by p.names.length
decreasing_by
  have := List.length_pos_iff.2 _h
  simp only [Path.parent, List.length_dropLast]
  omega

/-- The working directory as a path. -/
def workingPath : Act Path := do return ⟨.slash, (← get).workingDirectory⟩

/-- The absolute path that a path stands for by its spelling. -/
def absolute (p : Path) : Act Path := do return Path.absolute (← workingPath) p

/-- The name of the temporary file with a number. -/
def temporaryName (name : String) (number : Nat) : String :=
  let digits := Nat.toDigits 10 number
  name ++ String.ofList (List.replicate (8 - digits.length) '0' ++ digits) ++ ".tmp"

/-- A path beside another one at which there is nothing. -/
def temporaryFor (p : Path) : Act Path := do
  let directory ← absolute p.parent
  let w ← get
  let candidate (number : Nat) := directory.join ⟨.relative, [temporaryName p.name number]⟩
  let free (number : Nat) : Bool :=
    (w.files.find? w.workingDirectory (candidate number)).isNone
  let number := ((List.range (w.files.entries.length + 1)).find? free).getD 0
  return candidate number

/-- Does something and then something else, whether or not the first has failed. -/
def andFinally (first : Act α) (last : Act Unit) : Act α := fun w =>
  match first w with
  | .ok a w =>
      match last w with
      | .ok _ w => .ok a w
      | .error failure w => .error failure w
  | .error failure w =>
      match last w with
      | .ok _ w => .error failure w
      | .error failure w => .error failure w

/-- Removes a file that may be missing. -/
def removeIfPresent (p : Path) : Act Unit := do
  let w ← get
  match w.files.remove w.workingDirectory p with
  | .ok files => set { w with files }
  | .error .missing => return
  | .error rule => throw (.file ⟨rule, p.text, none⟩)

/-- Lets `work` fill a temporary file that then takes the place of `p`. If anything fails, there is
no temporary file left and `p` is as it was. -/
def replaceBy (p : Path) (work : Path → Act α) : Act α := do
  makeDirectories p.parent
  let temporary ← temporaryFor p
  modify fun w => { w with temporaries := w.temporaries ++ [temporary] }
  andFinally
    (do
      let result ← work temporary
      moveFile temporary p
      return result)
    (removeIfPresent temporary)

/-- The octets of a text that has to be ASCII. -/
def asciiOctets (text : String) : Except Failure Bytes :=
  if text.toList.all fun c => c.toNat < 0x80 then
    .ok (text.toList.map fun c => UInt8.ofNat c.toNat)
  else .error .notAscii

/-- Replaces the file at `p` by an ASCII text, whose octets `write` brings into a file. -/
def writeTextBy (write : Path → Bytes → Act Unit) (p : Path) (text : String) : Act Unit :=
  replaceBy p fun temporary => do write temporary (← ofExcept (asciiOctets text))

/-- Replaces the file at `p` by an ASCII text. -/
def writeText : Path → String → Act Unit := writeTextBy writeFile

/-- Runs the tool to ask for its version. -/
def runForVersion (call : ToolCall) : Act ToolRun := do
  let w ← get
  set { w with toolCalls := w.toolCalls ++ [call] }
  return w.tool.versionRun

/-- Runs the tool to write a file. -/
def runTool (call : ToolCall) (target : Path) : Act ToolRun := do
  let w ← get
  let (run, later) : ToolRun × List ToolRun := match w.tool.runs with
    | [] => (.absent, [])
    | [last] => (last, [last])
    | run :: later => (run, later)
  set { w with toolCalls := w.toolCalls ++ [call], tool := { w.tool with runs := later } }
  match run.written?, run.fault? with
  | some content, none | some content, some .timedOut => writeFile target content
  | _, _ => pure ()
  return run

/-- Asks the agent at a path for a passphrase. -/
def askAgent (path : String) (environment : Variables) (request : Agent.Request) : Act String := do
  let w ← get
  let peer ← ofExcept (Agent.reach (w.agents.lookup path) path)
  let outcome := Agent.converse peer path environment request
  set { w with
    agentSent := w.agentSent ++ [(path, outcome.sent)]
    log := w.log ++ outcome.log }
  ofExcept outcome.result

end Act

end ArtifactSigning
