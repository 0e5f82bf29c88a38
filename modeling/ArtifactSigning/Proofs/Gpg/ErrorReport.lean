import ArtifactSigning.Proofs.Signing.PassphraseSecrecy
import ArtifactSigning.Proofs.Signing.Steps
import ArtifactSigning.Proofs.Text.Stripping
import ArtifactSigning.Proofs.Text.Utf8

/-!
# What is reported of a tool that fails

A tool that ends with an exit code other than zero makes the run fail with that code. Of what the
tool has written as its report, the last line that is not blank is told (`run_reports_exit`).
-/
namespace ArtifactSigning

open Step

/-- The tool comes to its end in its next run, and what it writes on the way has a place. -/
structure World.NextRun (w : World) (target : Path) (next : ToolRun) : Prop where
  head_eq : w.tool.runs.head? = some next
  ended : next.fault? = none
  writable : ∀ content ∈ next.written?,
    ∃ files, w.files.write w.workingDirectory target content = .ok files

variable {w : World} {target : Path} {next : ToolRun} {input? : Option String}

theorem Act.runTool_of_nextRun (h : w.NextRun target next) (call : ToolCall) :
    ∃ d, runTool call target w = .ok next d := by
  obtain ⟨later, heq⟩ := runTool_eq call target w
  obtain ⟨fault?, output, errorOutput, exitCode, written?⟩ := next
  have hended : fault? = none := h.ended
  subst hended
  rw [heq, h.head_eq]
  cases written? with
  | none => exact ⟨_, rfl⟩
  | some content =>
      obtain ⟨files, hwrite⟩ := h.writable content rfl
      exact ⟨_, bind_of_ok _ (changeFiles_of_ok hwrite)⟩

theorem Act.outcome_debug_bind {α : Type} (source : LogSource) (message : String)
    (rest : Unit → Act α) (w : World) :
    outcome (debug source message >>= rest) w =
      outcome (rest ()) { w with log := w.log ++ [⟨source, .debug, message⟩] } := rfl

theorem Act.outcome_ofExcept {α : Type} (result : Except Failure α) (w : World) :
    outcome (ofExcept result) w = result := by
  cases result <;> rfl

namespace Gpg

open Text

/-- A run fails or succeeds by what the tool comes to. -/
theorem outcome_run (h : w.NextRun target next) {options : Options}
    (hinput : inputFor options = .ok input?) (command : List String) :
    outcome (run options command target) w = checkRun options.limit? command next := by
  have hlogged (entry : LogEntry) : World.NextRun { w with log := w.log ++ [entry] } target next :=
    ⟨h.head_eq, h.ended, h.writable⟩
  rw [run, Act.outcome_debug_bind, hinput]
  obtain ⟨d, hrun⟩ := Act.runTool_of_nextRun (hlogged _) ⟨command, input?, options.limit?⟩
  have hread (v : World) : Act.ofExcept (.ok input?) v = .ok input? v := rfl
  rw [outcome_bind_of_ok (hread _), outcome_bind_of_ok hrun]
  -- What the tool has put out may be reported before the run is checked.
  dsimp only
  split
  · rw [Act.outcome_debug_bind, Act.outcome_ofExcept]
  · rw [Act.outcome_ofExcept]

theorem checkRun_of_exit (hended : next.fault? = none) (hexit : next.exitCode ≠ 0)
    (limit? : Option Time.Seconds) (command : List String) :
    checkRun limit? command next =
      .error (.process (.exit next.exitCode (lastLine? next.errorOutput))) := by
  rw [checkRun, hended]
  exact if_neg hexit

theorem lastLine?_of_blank {report : Bytes} (h : IsBlankText (Utf8.decodeLossy report)) :
    lastLine? report = none := by
  rw [lastLine?, strip_of_isBlankText h, splitLines]
  rfl

theorem lastLine?_of_not_blank {report : Bytes} (h : ¬IsBlankText (Utf8.decodeLossy report)) :
    ∃ earlier line later, IsLastLine (Utf8.decodeLossy report) earlier line later ∧
      lastLine? report = some (String.ofList (lastLineStripped earlier line)) := by
  obtain ⟨earlier, line, later, hlast, hstripped⟩ := exists_last_line_strip h
  exact ⟨earlier, line, later, hlast, by rw [lastLine?, hstripped, Option.map_some]⟩

example : lastLine? (Utf8.encode "key\r\n  failed \x1c\n\u2028\t".toList) = some "  failed" := by
  decide +kernel

/-- A tool that is run and ends with an exit code other than zero makes the run fail with that code.
Nothing more is said if its report is blank. Otherwise the message tells the last line of the report
that is not blank; without the blanks around it such a report still has a line. -/
theorem run_reports_exit (hnext : w.NextRun target next) (hexit : next.exitCode ≠ 0)
    {options : Options} (hinput : inputFor options = .ok input?) (command : List String) :
    let report := Utf8.decodeLossy next.errorOutput
    (strip report ≠ [] → splitLines (strip report) ≠ []) ∧
    ∃ fault, outcome (run options command target) w = .error (.process fault) ∧
      fault.exitCode? = some next.exitCode ∧
      (IsBlankText report → fault.message = s!"Exit code: {next.exitCode}") ∧
      (¬IsBlankText report → ∃ earlier line later, IsLastLine report earlier line later ∧
        fault.message =
          s!"Exit code: {next.exitCode}: {String.ofList (lastLineStripped earlier line)}") := by
  intro report
  refine ⟨fun hne => ?_, .exit next.exitCode (lastLine? next.errorOutput), ?_, rfl, ?_, ?_⟩
  · rw [splitLines_eq hne]
    exact List.cons_ne_nil _ _
  · rw [outcome_run hnext hinput, checkRun_of_exit hnext.ended hexit]
  · intro hblank
    rw [lastLine?_of_blank hblank]
    rfl
  · intro hblank
    obtain ⟨earlier, line, later, hlast, hline⟩ := lastLine?_of_not_blank hblank
    refine ⟨earlier, line, later, hlast, ?_⟩
    rw [hline]
    rfl

/-- A tool that has begun to write a signature and fails. Its report has an octet that belongs to no
character, and ends with separators and blanks. -/
def failedRun : ToolRun where
  fault? := none
  output := []
  errorOutput := Utf8.encode "key\r\n  failed".toList ++ 0xFF ::
    Utf8.encode " \x1c\n\u2028\t".toList
  exitCode := 2
  written? := some [4, 5]

/-- A document that this tool is to sign. -/
def failedWorld : World :=
  World.start (FileTree.empty.withFile ["document"] [1, 2, 3]) [] 0 ⟨.absent, [failedRun]⟩

theorem nextRun_failedWorld : failedWorld.NextRun ⟨.relative, ["document.tmp"]⟩ failedRun where
  head_eq := rfl
  ended := rfl
  writable := by
    rintro content ⟨⟩
    exact ⟨_, rfl⟩

theorem run_reports_exit_behind_separators :
    failedWorld.NextRun ⟨.relative, ["document.tmp"]⟩ failedRun ∧ failedRun.exitCode ≠ 0 ∧
      inputFor plainOptions = .ok none ∧
      let report := Utf8.decodeLossy failedRun.errorOutput
      ¬IsBlankText report ∧
      ∃ fault, outcome (run plainOptions ["gpg"] ⟨.relative, ["document.tmp"]⟩) failedWorld =
          .error (.process fault) ∧
        fault.exitCode? = some 2 ∧
        ∃ earlier line later, IsLastLine report earlier line later ∧ fault.message =
          s!"Exit code: {failedRun.exitCode}: {String.ofList (lastLineStripped earlier line)}" := by
  have hexit : failedRun.exitCode ≠ 0 := by decide
  have hletter : 'k' ∈ Utf8.decodeLossy failedRun.errorOutput := by
    rw [failedRun, Utf8.decodeLossy_append]
    exact List.mem_append_left _ (by decide)
  have hblank : ¬IsBlankText (Utf8.decodeLossy failedRun.errorOutput) := fun hblank =>
    absurd (hblank 'k' hletter) (by decide)
  obtain ⟨-, fault, houtcome, hcode, -, hline⟩ :=
    run_reports_exit nextRun_failedWorld hexit (show inputFor plainOptions = .ok none from rfl)
      ["gpg"]
  exact ⟨nextRun_failedWorld, hexit, rfl, hblank, fault, houtcome, hcode, hline hblank⟩

end Gpg

end ArtifactSigning
