import ArtifactSigning.Proofs.Signing.Steps
import ArtifactSigning.Proofs.Signing.ToolInputs
import ArtifactSigning.Proofs.Text.Raw

/-!
# The passphrase reaches nothing but the input of the tool

The signer that runs a tool is compared under two passphrases, with any child process in the place
of the tool that does not let what is written to it decide about anything. Both command lines are
the same. If both passphrases have octets, both runs end alike: with the same result or failure, the
same files and the same log. A passphrase without octets makes signing fail before the tool is run,
and the failure tells which of its code points is to blame.
-/
namespace ArtifactSigning

open Act Step

/-- A child process: what it does when it is called to write to a path. -/
abbrev ChildProcess := ToolCall → Path → Act ToolRun

/-- Nothing of what the child process does depends on what is written to it. -/
def ChildProcess.IgnoresInput (child : ChildProcess) : Prop :=
  ∀ call call' target, call.withoutInput = call'.withoutInput →
    Alike (child call target) (child call' target)

theorem World.SameButInputs.addCall {w w' : World} {call call' : ToolCall}
    (h : w.SameButInputs w') (hcall : call.withoutInput = call'.withoutInput) :
    SameButInputs { w with toolCalls := w.toolCalls ++ [call] }
      { w' with toolCalls := w'.toolCalls ++ [call'] } := by
  have hadded := congrArg
    (fun v : World => { v with toolCalls := v.toolCalls ++ [call.withoutInput] }) h
  rw [SameButInputs, withoutInputs, withoutInputs, List.map_append, List.map_append,
    List.map_singleton, List.map_singleton, ← hcall]
  exact hadded

namespace Act

theorem alike_endRun (target : Path) (run : ToolRun) :
    Alike (endRun target run) (endRun target run) := by
  rw [endRun]
  split
  · exact (alike_changeFiles target _).bind fun _ => alike_pure run
  · exact (alike_changeFiles target _).bind fun _ => alike_pure run
  · exact alike_pure run

/-- The tool of the surroundings ignores its input. -/
theorem ignoresInput_runTool : ChildProcess.IgnoresInput runTool := by
  intro call call' target hcall
  refine Alike.get_bind fun w w' h => ?_
  have hset (tool : Tool) : World.SameButInputs
      { w with toolCalls := w.toolCalls ++ [call], tool := tool }
      { w' with toolCalls := w'.toolCalls ++ [call'], tool := tool } :=
    (h.addCall hcall).change fun v => { v with tool := tool }
  rw [h.view_eq World.tool]
  split
  exact (alike_set (hset _)).bind fun _ => alike_endRun target _

theorem alike_runForVersion (call : ToolCall) :
    Alike (runForVersion call) (runForVersion call) := by
  refine Alike.get_bind fun w w' h => ?_
  have htool := h.view_eq World.tool
  exact (alike_set (h.addCall rfl)).bind fun _ => alike_pure_of_eq (congrArg Tool.versionRun htool)

end Act

namespace Gpg

/-- The options with a passphrase. -/
def Options.withPassphrase (options : Options) (passphrase : RawText) : Options :=
  { options with passphrase? := some passphrase }

/-- Both passphrases have octets, or both have none because of the same fault. -/
def SameFault (passphrase passphrase' : RawText) : Prop :=
  ∀ fault, passphrase.characters = .error fault ↔ passphrase'.characters = .error fault

/-- Runs a command of a child process that writes to a file. -/
def runWith (child : ChildProcess) (options : Options) (command : List String) (target : Path) :
    Act Unit := do
  let line := String.ofList (Text.shellLine (command.map String.toList))
  Act.debug .toolSigner s!"CMD: {line}"
  let input? ← Act.ofExcept (inputFor options)
  let run ← child ⟨command, input?, options.limit?⟩ target
  if run.fault?.isNone ∧ run.output ≠ [] then
    let text := String.ofList (Text.trimEnd Text.isBlank (Text.Utf8.decodeLossy run.output))
    Act.debug .toolSigner s!"gpg: {text}"
  Act.ofExcept (checkRun options.limit? command run)

/-- Lets a child process sign a file into a temporary one. -/
def fillWith (child : ChildProcess) (options : Options) (source temporary : Path) : Act Unit := do
  runWith child options (← commandFor options source temporary) temporary
  unless ← Act.pathExists temporary do throw (.process (.noSignature source.text))

/-- Writes the signature of a file by a child process. -/
def signWith (child : ChildProcess) (options : Options) (source : Path)
    (destination? : Option Path) : Act Path := do
  if (← get).version?.isNone then prepare options
  let destination ← Act.ofExcept (Layout.destination source destination?)
  Act.replaceBy destination (fillWith child options source)
  Act.debug .toolSigner s!"Signed {source.text} -> {destination.text}"
  return destination

/-- Writes the signature of a file with the version of the tool known. -/
def signNowWith (child : ChildProcess) (options : Options) (source : Path)
    (destination? : Option Path) : Act Path := do
  let destination ← Act.ofExcept (Layout.destination source destination?)
  Act.replaceBy destination (fillWith child options source)
  Act.debug .toolSigner s!"Signed {source.text} -> {destination.text}"
  return destination

theorem signWith_eq (child : ChildProcess) (options : Options) (source : Path)
    (destination? : Option Path) :
    signWith child options source destination? = (do
      if (← get).version?.isNone then prepare options
      signNowWith child options source destination?) := rfl

/-- Signing runs the tool of the surroundings. -/
theorem sign_eq_signWith (options : Options) (source : Path) (destination? : Option Path) :
    sign options source destination? = signWith Act.runTool options source destination? := rfl

section Passphrases

variable {child : ChildProcess} (options : Options) (passphrase passphrase' : RawText)
  (source : Path) {fault : EncodingFault}

theorem command_withPassphrase (version : Version) (detailed : Bool) (destination : Path) :
    command (options.withPassphrase passphrase) version detailed source destination =
      command (options.withPassphrase passphrase') version detailed source destination := rfl

theorem characters_asLine_of_fault (h : passphrase.characters = .error fault) :
    (asLine passphrase).characters = .error fault := by
  rw [asLine]
  split
  · exact h
  · rw [RawText.characters_append_char, h]
    rfl

theorem inputFor_withPassphrase : inputFor (options.withPassphrase passphrase) =
    match (asLine passphrase).characters with
    | .ok line => .ok (some (String.ofList line))
    | .error fault => .error (.unencodable fault) := rfl

/-- A passphrase without octets has no line to write. -/
theorem inputFor_of_fault (h : passphrase.characters = .error fault) :
    inputFor (options.withPassphrase passphrase) = .error (.unencodable fault) := by
  rw [inputFor_withPassphrase, characters_asLine_of_fault passphrase h]

/-- Something is written to the tool under every passphrase that has octets. -/
theorem inputFor_of_isText (h : passphrase.IsText) :
    ∃ line, inputFor (options.withPassphrase passphrase) = .ok (some line) := by
  obtain ⟨chars, rfl⟩ := h
  have hline : ∃ line, (asLine (.ofChars chars)).characters = .ok line := by
    rw [asLine]
    split
    · exact ⟨chars, RawText.characters_ofChars chars⟩
    · rw [RawText.characters_append_char, RawText.characters_ofChars]
      exact ⟨chars ++ ['\n'], rfl⟩
  obtain ⟨line, hline⟩ := hline
  exact ⟨String.ofList line, by rw [inputFor_withPassphrase, hline]⟩

theorem alike_probe (executable : String) (limit? : Option Time.Seconds) :
    Alike (probe executable limit?) (probe executable limit?) := by
  refine (alike_runForVersion _).bind fun run => ?_
  split
  · exact alike_throw _
  · exact (alike_ofExcept _).bind fun version => (alike_report _ _ _).bind fun _ => alike_pure _

theorem alike_prepare : Alike (prepare options) (prepare options) := by
  refine (alike_probe _ _).bind fun version => ?_
  exact Alike.bind (alike_modify fun w => { w with version? := some version })
    fun _ => alike_report _ _ _

theorem alike_commandFor (destination : Path) :
    Alike (commandFor (options.withPassphrase passphrase) source destination)
      (commandFor (options.withPassphrase passphrase') source destination) := by
  refine Alike.get_bind fun w w' h => ?_
  rw [h.view_eq World.version?, h.view_eq World.detailed]
  split
  · exact alike_throw _
  · rename_i version _
    rw [command_withPassphrase options passphrase passphrase']
    change Alike (do
      if ignoresSecretKeyring options version then
        Act.report .toolSigner .warning ignoredKeyringText
      pure _) (do
      if ignoresSecretKeyring options version then
        Act.report .toolSigner .warning ignoredKeyringText
      pure _)
    split
    · exact (alike_report _ _ _).bind fun _ => alike_pure _
    · exact alike_pure _

variable (child) in
/-- A passphrase without octets makes the run fail before the child process is called. -/
theorem runWith_of_fault (h : passphrase.characters = .error fault) (command : List String)
    (target : Path) (w : World) :
    ∃ d, runWith child (options.withPassphrase passphrase) command target w =
        .error (.unencodable fault) d ∧ d.toolCalls = w.toolCalls ∧ d.files = w.files := by
  let line := String.ofList (Text.shellLine (command.map String.toList))
  let logged : World := { w with log := w.log ++ [⟨.toolSigner, .debug, s!"CMD: {line}"⟩] }
  have hlogged : Act.debug .toolSigner s!"CMD: {line}" w = .ok () logged := rfl
  refine ⟨logged, ?_, rfl, rfl⟩
  rw [runWith, bind_of_ok _ hlogged, inputFor_of_fault options passphrase h]
  rfl

theorem signNowWith_ne_ok_of_fault (h : passphrase.characters = .error fault)
    (destination? : Option Path) {path : Path} {w d : World} :
    signNowWith child (options.withPassphrase passphrase) source destination? w ≠ .ok path d := by
  intro hsigned
  obtain ⟨_, _, -, hsigned⟩ := bind_eq_ok.1 hsigned
  obtain ⟨_, _, hreplaced, -⟩ := bind_eq_ok.1 hsigned
  obtain ⟨_, _, temporary, _, _, -, hfilled, -⟩ := replaceBy_eq_ok hreplaced
  obtain ⟨command, commanded, -, hfilled⟩ := bind_eq_ok.1 hfilled
  obtain ⟨_, _, hrun, -⟩ := bind_eq_ok.1 hfilled
  obtain ⟨_, hfailed, -⟩ := runWith_of_fault child options passphrase h command temporary commanded
  cases hrun.symm.trans hfailed

/-- Nothing is signed with such a passphrase. -/
theorem signWith_ne_ok_of_fault (h : passphrase.characters = .error fault)
    (destination? : Option Path) {path : Path} {w d : World} :
    signWith child (options.withPassphrase passphrase) source destination? w ≠ .ok path d := by
  rw [signWith_eq]
  intro hsigned
  obtain ⟨_, _, -, hsigned⟩ := bind_eq_ok.1 hsigned
  split at hsigned
  · obtain ⟨_, _, -, hsigned⟩ := bind_eq_ok.1 hsigned
    exact signNowWith_ne_ok_of_fault options passphrase source h destination? hsigned
  · exact signNowWith_ne_ok_of_fault options passphrase source h destination? hsigned

variable {passphrase passphrase'} (hsame : SameFault passphrase passphrase')
include hsame

theorem SameFault.isText (h : passphrase.IsText) : passphrase'.IsText := by
  refine passphrase'.isText_or_fault.resolve_right ?_
  rintro ⟨fault, hfault⟩
  exact h.characters_ne ((hsame fault).2 hfault)

theorem alike_runWith (hchild : child.IgnoresInput) (command : List String) (target : Path) :
    Alike (runWith child (options.withPassphrase passphrase) command target)
      (runWith child (options.withPassphrase passphrase') command target) := by
  refine (alike_report _ _ _).bind fun _ => ?_
  rcases passphrase.isText_or_fault with htext | ⟨fault, hfault⟩
  · obtain ⟨line, hline⟩ := inputFor_of_isText options passphrase htext
    obtain ⟨line', hline'⟩ := inputFor_of_isText options passphrase' (hsame.isText htext)
    have hcall : ToolCall.withoutInput ⟨command, some line, options.limit?⟩ =
        ToolCall.withoutInput ⟨command, some line', options.limit?⟩ := rfl
    rw [hline, hline']
    refine (hchild _ _ target hcall).bind fun run => ?_
    split
    · exact (alike_report _ _ _).bind fun _ => alike_ofExcept _
    · exact alike_ofExcept _
  · rw [inputFor_of_fault options passphrase hfault,
      inputFor_of_fault options passphrase' ((hsame fault).1 hfault)]
    exact alike_throw _

theorem alike_fillWith (hchild : child.IgnoresInput) (temporary : Path) :
    Alike (fillWith child (options.withPassphrase passphrase) source temporary)
      (fillWith child (options.withPassphrase passphrase') source temporary) := by
  refine (alike_commandFor options passphrase passphrase' source temporary).bind fun command => ?_
  refine (alike_runWith options hsame hchild command temporary).bind fun _ => ?_
  refine (alike_pathExists temporary).bind fun found => ?_
  split
  · exact alike_pure ()
  · exact alike_throw _

theorem alike_signNowWith (hchild : child.IgnoresInput) (destination? : Option Path) :
    Alike (signNowWith child (options.withPassphrase passphrase) source destination?)
      (signNowWith child (options.withPassphrase passphrase') source destination?) := by
  refine (alike_ofExcept _).bind fun destination => ?_
  refine (Alike.replaceBy destination fun temporary =>
    alike_fillWith options source hsame hchild temporary).bind fun _ => ?_
  exact (alike_report _ _ _).bind fun _ => alike_pure destination

theorem alike_signWith (hchild : child.IgnoresInput) (destination? : Option Path) :
    Alike (signWith child (options.withPassphrase passphrase) source destination?)
      (signWith child (options.withPassphrase passphrase') source destination?) := by
  have hsign := alike_signNowWith options source hsame hchild destination?
  rw [signWith_eq, signWith_eq]
  refine Alike.get_bind fun w w' h => ?_
  rw [h.view_eq World.version?]
  split
  · exact (alike_prepare options).bind fun _ => hsign
  · exact hsign

end Passphrases

/-- Passphrases that have octets decide about nothing but what is written to the tool. The command
line is the same under any two passphrases. With every child process that ignores its input, the
tool of the surroundings among them, signing ends alike if both have octets, or if both have none
because of the same fault. A passphrase without octets makes a run fail with its fault; the child
process is not called then, and nothing is signed. -/
theorem passphrase_secrecy (options : Options) (passphrase passphrase' : RawText) :
    (∀ version detailed source destination,
      command (options.withPassphrase passphrase) version detailed source destination =
        command (options.withPassphrase passphrase') version detailed source destination) ∧
      (SameFault passphrase passphrase' →
        (∀ child : ChildProcess, child.IgnoresInput → ∀ source destination?,
          Alike (signWith child (options.withPassphrase passphrase) source destination?)
            (signWith child (options.withPassphrase passphrase') source destination?)) ∧
        ∀ source destination?,
          Alike ((signer (options.withPassphrase passphrase)).sign source destination?)
            ((signer (options.withPassphrase passphrase')).sign source destination?)) ∧
      ∀ fault, passphrase.characters = .error fault → ∀ child : ChildProcess,
        (∀ command target w, ∃ d,
          runWith child (options.withPassphrase passphrase) command target w =
            .error (.unencodable fault) d ∧ d.toolCalls = w.toolCalls ∧ d.files = w.files) ∧
        ∀ source destination? w path d,
          signWith child (options.withPassphrase passphrase) source destination? w ≠
            .ok path d := by
  refine ⟨?_, fun hsame => ⟨?_, ?_⟩, fun fault hfault child => ⟨?_, ?_⟩⟩
  · intro version detailed source destination
    exact command_withPassphrase options passphrase passphrase' source version detailed destination
  · intro child hchild source destination?
    exact alike_signWith options source hsame hchild destination?
  · intro source destination?
    change Alike (sign (options.withPassphrase passphrase) source destination?)
      (sign (options.withPassphrase passphrase') source destination?)
    rw [sign_eq_signWith, sign_eq_signWith]
    exact alike_signWith options source hsame ignoresInput_runTool destination?
  · intro command target w
    exact runWith_of_fault child options passphrase hfault command target w
  · intro source destination? w path d
    exact signWith_ne_ok_of_fault options passphrase source hfault destination?

/-- Options that leave everything to the tool. -/
def plainOptions : Options where
  executable := "gpg"
  home? := none
  keyName? := none
  passphrase? := none
  useAgent := false
  interactive := false
  defaultKeyring := true
  secretKeyring? := none
  publicKeyring? := none
  lockMode? := none
  arguments := []
  limit? := none

/-- A document beside which a tool of version 2.2 writes a signature. -/
def documentWorld : World :=
  { World.start (FileTree.empty.withFile ["document"] [1, 2, 3]) [] 0
      ⟨.absent, [⟨none, [], [], 0, some [4, 5, 6]⟩]⟩ with
    version? := some ⟨[2, 2]⟩ }

/-- Signs the document with a passphrase. -/
def signDocument (passphrase : RawText) : Act Path :=
  (signer (plainOptions.withPassphrase passphrase)).sign (.ofText "document") none

/-- The signature is written under both passphrases, which the tool reads. -/
theorem passphrase_secrecy_beside_document :
    SameFault (.ofString "first") (.ofString "second") ∧
      ∃ path w w', signDocument (.ofString "first") documentWorld = .ok path w ∧
        signDocument (.ofString "second") documentWorld = .ok path w' ∧ w.SameButInputs w' ∧
        w.files.at? ["document.asc"] = some (.file [4, 5, 6]) ∧
        w.toolCalls.map ToolCall.input? = [some "first\n"] ∧
        w'.toolCalls.map ToolCall.input? = [some "second\n"] := by
  have hsame : SameFault (.ofString "first") (.ofString "second") := by
    intro fault
    rw [RawText.ofString, RawText.ofString, RawText.characters_ofChars, RawText.characters_ofChars]
    exact iff_of_false nofun nofun
  have hruns : result? (signDocument (.ofString "first")) documentWorld =
        some (.ofText "document.asc") ∧
      result? (signDocument (.ofString "second")) documentWorld = some (.ofText "document.asc") ∧
      (finalState (signDocument (.ofString "first")) documentWorld).files.at? ["document.asc"] =
        some (.file [4, 5, 6]) ∧
      (finalState (signDocument (.ofString "first")) documentWorld).toolCalls.map
        ToolCall.input? = [some "first\n"] ∧
      (finalState (signDocument (.ofString "second")) documentWorld).toolCalls.map
        ToolCall.input? = [some "second\n"] := by decide +kernel
  obtain ⟨hfirst, hsecond, hobserved⟩ := hruns
  replace hfirst := eq_ok_of_result? hfirst
  replace hsecond := eq_ok_of_result? hsecond
  have hends : EndsAlike (signDocument (.ofString "first") documentWorld)
      (signDocument (.ofString "second") documentWorld) :=
    ((passphrase_secrecy plainOptions _ _).2.1 hsame).1 runTool ignoresInput_runTool
      (.ofText "document") none documentWorld documentWorld rfl
  rw [hfirst, hsecond] at hends
  cases hends with | ok hends =>
  exact ⟨hsame, _, _, _, hfirst, hsecond, hends, hobserved⟩

/-- Of two passphrases one has octets and the other one has none. Only the first one leads to a
signature, although the tool does not look at either, and the message about the second one shows a
part of it. -/
theorem undecoded_passphrase_shows :
    outcome (signDocument (.ofString "geheim")) documentWorld = .ok (.ofText "document.asc") ∧
      (outcome (signDocument (RawText.ofString "geheim" ++ [.half 0x4E4])) documentWorld).mapError
        Failure.message? = .error (some ("'utf-8' codec can't encode character '\\udce4' in " ++
          "position 6: surrogates not allowed")) := by
  have hsigned : result? (signDocument (.ofString "geheim")) documentWorld =
      some (.ofText "document.asc") := by decide +kernel
  exact ⟨outcome_of_ok (eq_ok_of_result? hsigned), by decide +kernel⟩

end Gpg

end ArtifactSigning
