import ArtifactSigning.Gpg.Signer
import ArtifactSigning.Proofs.Credential.Asking
import ArtifactSigning.Signing.Embedded

/-!
# What the steps of signing lead to

Both signers are made of a few steps: one resolves its key and writes a signature, the other asks
the tool for its version and lets it write one. A relation between worlds that holds across each of
these steps holds across every call, however the call ends.
-/
namespace ArtifactSigning

open Step

variable {r : World → World → Prop} [IsPreorder World r] {source : Path}
  {destination? : Option Path}

section Embedded

variable {resolver : Resolver} (h : resolver.Respects r)
  (hnote : ∀ w resolved, r w { w with resolved? := some resolved })
include h hnote

theorem Embedded.respects_prepare : Respects r (prepare resolver) := by
  refine h.resolve.bind fun resolved => ?_
  have hresolved : Respects r
      (modify fun w : World => { w with resolved? := some resolved } : Act Unit) :=
    fun w => hnote w resolved
  exact hresolved.bind fun _ => Act.respects_report_of h.log _ _ _

theorem Embedded.respects_resolvedKey : Respects r (resolvedKey resolver) := by
  refine respects_get.bind fun w => ?_
  split
  · exact respects_pure _
  · refine (respects_prepare h hnote).bind fun _ => respects_get.bind fun w => ?_
    split
    · exact respects_pure _
    · exact respects_throw _

/-- Besides resolving its key, the embedded signer writes one text. -/
theorem Embedded.respects_sign
    (hwrite : ∀ path text, Layout.destination source destination? = .ok path →
      Respects r (Act.writeText path text)) :
    Respects r (sign resolver source destination?) := by
  refine (respects_resolvedKey h hnote).bind fun resolved => ?_
  refine (Act.respects_ofExcept _).bind_of_ok fun c path d hpath => ?_
  have hsign : Respects r (do
      let document ← Act.readFile source
      let signature ← Act.ofExcept (signatureOf resolved (← get).now document)
      Act.writeText path signature.armored
      Act.debug .embeddedSigner s!"Signed {source.text} -> {path.text}"
      return path) := by
    refine (Act.respects_readFile _).bind fun document => respects_get.bind fun w => ?_
    refine (Act.respects_ofExcept _).bind fun signature => ?_
    refine (hwrite path _ (Act.ofExcept_eq_ok.1 hpath).1).bind fun _ => ?_
    exact (Act.respects_report_of h.log _ _ _).bind fun _ => respects_pure _
  dsimp only
  split
  · exact hsign
  · exact (respects_throw _).bind fun _ => hsign

end Embedded

section Gpg

variable (options : Gpg.Options) {temporary : Path}

/-- What a run of the tool does to the file that it is told to write. -/
def Act.endRun (target : Path) (run : ToolRun) : Act ToolRun := do
  match run.written?, run.fault? with
  | some content, none | some content, some .timedOut => writeFile target content
  | _, _ => pure ()
  return run

theorem Act.runTool_eq (call : ToolCall) (target : Path) (w : World) :
    ∃ later, runTool call target w = endRun target (w.tool.runs.head?.getD .absent)
      { w with toolCalls := w.toolCalls ++ [call], tool := { w.tool with runs := later } } := by
  rcases hruns : w.tool.runs with _ | ⟨next, _ | ⟨second, later⟩⟩
  · refine ⟨[], ?_⟩
    rw [runTool, bind_of_ok _ (get_eq_ok w), hruns]
    rfl
  · refine ⟨[next], ?_⟩
    rw [runTool, bind_of_ok _ (get_eq_ok w), hruns]
    rfl
  · refine ⟨second :: later, ?_⟩
    rw [runTool, bind_of_ok _ (get_eq_ok w), hruns]
    rfl

/-- The tool writes nothing but the file that it is told to write. -/
theorem Act.respects_runTool {call : ToolCall} {target : Path}
    (hwrite : ∀ content, Respects r (Act.writeFile target content))
    (hcall : ∀ w tool, r w { w with toolCalls := w.toolCalls ++ [call], tool := tool }) :
    Respects r (runTool call target) := by
  intro w
  obtain ⟨later, hrun⟩ := runTool_eq call target w
  rw [finalState, hrun]
  refine trans_of r (hcall w { w.tool with runs := later }) ?_
  generalize w.tool.runs.head?.getD .absent = run
  generalize ({ w with toolCalls := _, tool := _ } : World) = noted
  change r noted (finalState (endRun target run) noted)
  rw [endRun]
  split
  · exact ((hwrite _).bind fun _ => respects_pure run) noted
  · exact ((hwrite _).bind fun _ => respects_pure run) noted
  · exact respects_pure run noted

/-- Lets the tool sign a file into a temporary one. -/
def Gpg.fill (options : Options) (source temporary : Path) : Act Unit := do
  run options (← commandFor options source temporary) temporary
  unless ← Act.pathExists temporary do throw (.process (.noSignature source.text))

/-- Signs with the version that is known. -/
def Gpg.signNow (options : Options) (source : Path) (destination? : Option Path) : Act Path := do
  let destination ← Act.ofExcept (Layout.destination source destination?)
  Act.replaceBy destination (fill options source)
  Act.debug .toolSigner s!"Signed {source.text} -> {destination.text}"
  return destination

/-- The tool is made ready unless its version is known. -/
theorem Gpg.sign_eq (source : Path) (destination? : Option Path) :
    sign options source destination? = (do
      if (← get).version?.isNone then prepare options
      signNow options source destination?) := rfl

/-- After a run only the temporary file is looked for. -/
theorem Gpg.respects_checkWritten (source temporary : Path) : Respects r (do
    unless ← Act.pathExists temporary do
      throw (.process (.noSignature source.text)) : Act Unit) := by
  refine (Act.respects_pathExists _).bind fun found => ?_
  split
  · exact respects_pure _
  · exact respects_throw _

variable (hlog : ∀ w entry, r w { w with log := w.log ++ [entry] })
include hlog

/-- Making the tool ready asks it for its version and keeps that. -/
theorem Gpg.respects_prepare
    (hcall : ∀ w, r w { w with
      toolCalls := w.toolCalls ++ [⟨[options.executable, "--version"], none, options.limit?⟩] })
    (hversion : ∀ w version, r w { w with version? := some version }) :
    Respects r (prepare options) := by
  have hprobe : Respects r (probe options.executable options.limit?) := by
    have hrun : Respects r
        (Act.runForVersion ⟨[options.executable, "--version"], none, options.limit?⟩) := hcall
    refine hrun.bind fun run => ?_
    split
    · exact respects_throw _
    · refine (Act.respects_ofExcept _).bind fun version => ?_
      exact (Act.respects_report_of hlog _ _ _).bind fun _ => respects_pure _
  refine hprobe.bind fun version => ?_
  have hnote : Respects r
      (modify fun w : World => { w with version? := some version } : Act Unit) :=
    fun w => hversion w version
  exact hnote.bind fun _ => Act.respects_report_of hlog _ _ _

theorem Gpg.respects_commandFor (source destination : Path) :
    Respects r (commandFor options source destination) := by
  refine respects_get.bind fun w => ?_
  split
  · exact respects_throw _
  · split
    · exact (Act.respects_report_of hlog _ _ _).bind fun _ => respects_pure _
    · exact respects_pure _

theorem Gpg.respects_run {command : List String}
    (hwrite : ∀ content, Respects r (Act.writeFile temporary content))
    (hcall : ∀ w tool input?, r w { w with
      toolCalls := w.toolCalls ++ [⟨command, input?, options.limit?⟩], tool := tool }) :
    Respects r (run options command temporary) := by
  refine (Act.respects_report_of hlog _ _ _).bind fun _ => ?_
  refine (Act.respects_ofExcept _).bind fun input? => ?_
  refine (Act.respects_runTool hwrite fun w tool => hcall w tool input?).bind fun run => ?_
  split
  · exact (Act.respects_report_of hlog _ _ _).bind fun _ => Act.respects_ofExcept _
  · exact Act.respects_ofExcept _

theorem Gpg.respects_fill (source : Path)
    (hwrite : ∀ content, Respects r (Act.writeFile temporary content))
    (hcall : ∀ w call tool, r w { w with toolCalls := w.toolCalls ++ [call], tool := tool }) :
    Respects r (fill options source temporary) := by
  refine (respects_commandFor options hlog source temporary).bind fun command => ?_
  refine (respects_run options hlog hwrite fun w tool _ => hcall w _ tool).bind fun _ => ?_
  exact respects_checkWritten source temporary

theorem Gpg.respects_signNow
    (h : ∀ path, Layout.destination source destination? = .ok path →
      Respects r (Act.replaceBy path (fill options source))) :
    Respects r (signNow options source destination?) := by
  refine (Act.respects_ofExcept _).bind_of_ok fun c path d hpath => ?_
  refine (h path (Act.ofExcept_eq_ok.1 hpath).1).bind fun _ => ?_
  exact (Act.respects_report_of hlog _ _ _).bind fun _ => respects_pure _

omit hlog

theorem Gpg.respects_sign (hprepare : Respects r (prepare options))
    (h : Respects r (signNow options source destination?)) :
    Respects r (sign options source destination?) := by
  rw [sign_eq]
  refine respects_get.bind fun w => ?_
  split
  · exact hprepare.bind fun _ => h
  · exact h

end Gpg

end ArtifactSigning
