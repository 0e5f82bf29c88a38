import ArtifactSigning.Proofs.File.Atomicity
import ArtifactSigning.Proofs.Signing.Confinement

/-!
# Signing is all or nothing

Whatever the tool does, and however reading, signing or writing fails, a signer leaves a whole new
signature at the destination or no trace but directories above it. Both signers fill a temporary
file and let it take the place of the signature, so this follows from what replacing does.
-/
namespace ArtifactSigning

open Step World

/-- A way to read and to write files. Reading changes no file; writing changes at most the file that
it is to write, however it ends, and a file that has been written holds what it is to hold. -/
structure Storage where
  read : Path → Act Bytes
  write : Path → Bytes → Act Unit
  read_same : ∀ p, Respects SameFiles (read p)
  write_fills : ∀ p content, Respects (Fills p) (write p content)
  read_of_write : ∀ ⦃p content w w'⦄, write p content w = .ok () w' →
    w'.files.read w'.workingDirectory p = .ok content

/-- Files are written at once. -/
def Storage.plain : Storage where
  read := Act.readFile
  write := Act.writeFile
  read_same := Act.respects_readFile
  write_fills := Act.fills_writeFile
  read_of_write _ _ _ _ h := by
    obtain ⟨files, hwrite, rfl⟩ := Act.writeFile_eq_ok.1 h
    exact FileTree.read_of_write hwrite

/-- If a call has returned, it has returned the destination, whose file holds a new signature, and
no other file has changed. If it has failed, no file has changed at all. So no temporary file is
left; only directories above the destination may have come. -/
def AllOrNothing (source : Path) (destination? : Option Path) (w : World)
    (IsNew : Bytes → Prop) : EStateM.Result Failure World Path → Prop
  | .ok path w' => Layout.destination source destination? = .ok path ∧
      w.Gains path.parent {path.placeIn w.workingDirectory} w' ∧
      ∃ content, IsNew content ∧ w'.files.read w'.workingDirectory path = .ok content
  | .error _ w' => w.SameFiles w' ∨
      ∃ path, Layout.destination source destination? = .ok path ∧ w.Gains path.parent ∅ w'

namespace AllOrNothing

variable {source path : Path} {destination? : Option Path} {w d : World} {IsNew : Bytes → Prop}
  {α : Type}

/-- Steps before the replacement change no files. -/
theorem bind {step : Act α} {next : α → Act Path} (hsame : w.SameFiles d)
    (hstep : Respects SameFiles step)
    (hnext : ∀ a e, step d = .ok a e → w.SameFiles e →
      AllOrNothing source destination? w IsNew (next a e)) :
    AllOrNothing source destination? w IsNew ((step >>= next) d) := by
  cases hrun : step d with
  | error failure e =>
      rw [bind_of_error _ hrun]
      exact .inl (trans_of SameFiles hsame (hstep.of_error hrun))
  | ok a e =>
      rw [bind_of_ok _ hrun]
      exact hnext a e hrun (trans_of SameFiles hsame (hstep.of_ok hrun))

/-- The replacement comes last. -/
theorem replaceBy {work : Path → Act Unit} (hsame : w.SameFiles d)
    (hpath : Layout.destination source destination? = .ok path)
    (hwork : ∀ temporary, Respects (Fills temporary) (work temporary))
    (hnew : ∀ files temporary filled content,
      FileTree.find? files d.workingDirectory temporary = none →
      work temporary { d with files, temporaries := d.temporaries ++ [temporary] } = .ok () filled →
      filled.files.read filled.workingDirectory temporary = .ok content → IsNew content)
    (origin : LogSource) (text : String) :
    AllOrNothing source destination? w IsNew ((do
      Act.replaceBy path work
      Act.debug origin text
      return path : Act Path) d) := by
  rcases Act.replaceBy_cases hwork path d with ⟨failure, e, hfailed, hgains⟩ |
    ⟨_, e, files, temporary, filled, content, hend, hfree, hfill, hcontent, hgains, hread⟩
  · rw [bind_of_error _ hfailed]
    exact .inr ⟨path, hpath, trans_of (Gains path.parent ∅) hsame.gains hgains⟩
  · rw [bind_of_ok _ hend]
    rw [hsame.workingDirectory] at hgains
    have hlogged : ∀ entry : LogEntry, e.SameFiles { e with log := e.log ++ [entry] } :=
      fun _ => ⟨rfl, rfl⟩
    exact ⟨hpath, trans_of (Gains path.parent _) hsame.gains
      (trans_of (Gains path.parent _) hgains (hlogged _).gains), content,
      hnew files temporary filled content hfree hfill hcontent, hread⟩

end AllOrNothing

section Embedded

variable {source : Path} {destination? : Option Path} {w : World}

/-- The octets are the armored signature of what has been read, made with the resolved key. -/
def Embedded.Signs (operations : PrivateOperations) (storage : Storage) (resolver : Resolver)
    (source : Path) (w : World) (content : Bytes) : Prop :=
  ∃ resolved ready document reached signature,
    resolvedKey resolver w = .ok resolved ready ∧
    storage.read source ready = .ok document reached ∧
    signatureBy operations resolved reached.now document = .ok signature ∧
    Act.asciiOctets signature.armored = .ok content

theorem Embedded.signBy_allOrNothing (operations : PrivateOperations) (storage : Storage)
    {resolver : Resolver} (h : resolver.KeepsFiles) (source : Path) (destination? : Option Path)
    (w : World) :
    AllOrNothing source destination? w (Signs operations storage resolver source w)
      (signBy operations storage.read storage.write resolver source destination? w) := by
  refine AllOrNothing.bind (refl_of SameFiles w) (sameFiles_resolvedKey h) ?_
  intro resolved ready hresolved hready
  refine AllOrNothing.bind hready (Act.respects_ofExcept _) ?_
  intro path d hdestination hd
  obtain ⟨hpath, rfl⟩ := Act.ofExcept_eq_ok.1 hdestination
  have hsign : AllOrNothing source destination? w (Signs operations storage resolver source w) ((do
      let document ← storage.read source
      let signature ← Act.ofExcept (signatureBy operations resolved (← get).now document)
      Act.writeTextBy storage.write path signature.armored
      Act.debug .embeddedSigner s!"Signed {source.text} -> {path.text}"
      return path : Act Path) ready) := by
    refine AllOrNothing.bind hready (storage.read_same source) ?_
    intro document reached hread hreached
    rw [bind_of_ok _ (get_eq_ok reached)]
    refine AllOrNothing.bind hreached (Act.respects_ofExcept _) ?_
    intro signature d hcomputed hd
    obtain ⟨hsignature, rfl⟩ := Act.ofExcept_eq_ok.1 hcomputed
    refine AllOrNothing.replaceBy hd hpath (fun temporary => ?_) ?_ _ _
    · exact (Act.respects_ofExcept _).bind fun octets => storage.write_fills temporary octets
    · intro files temporary filled content _ hfill hcontent
      obtain ⟨octets, _, hencoded, hwrite⟩ := bind_eq_ok.1 hfill
      obtain ⟨hoctets, rfl⟩ := Act.ofExcept_eq_ok.1 hencoded
      obtain rfl : octets = content :=
        Except.ok.inj ((storage.read_of_write hwrite).symm.trans hcontent)
      exact ⟨resolved, ready, document, reached, signature, hresolved, hread, hsignature, hoctets⟩
  dsimp only
  split
  · exact hsign
  · exact AllOrNothing.bind hready (respects_throw _) fun _ _ hthrow => absurd hthrow throw_ne_ok

end Embedded

section Gpg

variable {options : Gpg.Options} {source path : Path} {destination? : Option Path} {w d e : World}
  {content : Bytes}

/-- The octets that the next run of the tool writes, if it ends well. -/
def Gpg.Wrote (w : World) (content : Bytes) : Prop :=
  ∃ run, w.tool.runs.head? = some run ∧ run.fault? = none ∧ run.exitCode = 0 ∧
    run.written? = some content

/-- The result of a run is the run itself. One that comes to its end has written what it writes, or
changed no files. -/
theorem Act.endRun_eq_ok {target : Path} {next run : ToolRun}
    (h : endRun target next w = .ok run d) :
    run = next ∧ (next.fault? = none → w.SameFiles d ∨ ∃ content, next.written? = some content ∧
      d.files.read d.workingDirectory target = .ok content) := by
  obtain ⟨fault?, output, errorOutput, exitCode, written?⟩ := next
  rcases written? with _ | content
  · obtain ⟨rfl, rfl⟩ := pure_eq_ok.1 h
    exact ⟨rfl, fun _ => .inl ⟨rfl, rfl⟩⟩
  · rcases fault? with _ | fault
    · obtain ⟨_, e, hwrite, hrun⟩ := bind_eq_ok.1 h
      obtain ⟨rfl, rfl⟩ := pure_eq_ok.1 hrun
      exact ⟨rfl, fun _ => .inr ⟨content, rfl, Storage.plain.read_of_write hwrite⟩⟩
    · refine ⟨?_, nofun⟩
      cases fault with
      | timedOut =>
          obtain ⟨_, e, hwrite, hrun⟩ := bind_eq_ok.1 h
          exact (pure_eq_ok.1 hrun).1.symm
      | missing => exact (pure_eq_ok.1 h).1.symm
      | denied => exact (pure_eq_ok.1 h).1.symm

/-- A run of the tool that comes to its end is the next one. -/
theorem Act.runTool_eq_ok {call : ToolCall} {target : Path} {run : ToolRun}
    (h : runTool call target w = .ok run d) (hfault : run.fault? = none) :
    w.tool.runs.head? = some run ∧ (w.SameFiles d ∨ ∃ content, run.written? = some content ∧
      d.files.read d.workingDirectory target = .ok content) := by
  obtain ⟨later, heq⟩ := runTool_eq call target w
  rw [heq] at h
  obtain ⟨hrun, hended⟩ := endRun_eq_ok h
  subst hrun
  refine ⟨?_, (hended hfault).imp_left fun hsame => ⟨hsame.files, hsame.workingDirectory⟩⟩
  cases hruns : w.tool.runs.head? with
  | none =>
      rw [hruns] at hfault
      cases hfault
  | some next => rfl

/-- The tool is the same, with all the runs that are still to come. -/
def World.SameTool (before after : World) : Prop := after.tool = before.tool

instance : IsPreorder World SameTool where
  refl _ := rfl
  trans _ _ _ h h' := Eq.trans h' h

theorem Gpg.sameTool_prepare (options : Options) : Respects SameTool (prepare options) :=
  respects_prepare options (fun _ _ => rfl) (fun _ => rfl) fun _ _ => rfl

theorem Gpg.sameTool_commandFor (options : Options) (source temporary : Path) :
    Respects SameTool (commandFor options source temporary) :=
  respects_commandFor options (fun _ _ => rfl) source temporary

theorem Gpg.checkRun_eq_ok {limit? : Option Time.Seconds} {command : List String} {run : ToolRun}
    (h : checkRun limit? command run = .ok ()) : run.fault? = none ∧ run.exitCode = 0 := by
  rw [checkRun.eq_def] at h
  split at h
  · cases h
  · cases h
  · rename_i hnone
    split at h
    · rename_i hzero
      exact ⟨hnone, hzero⟩
    · cases h

/-- If a run ends well, it is the next run of the tool. -/
theorem Gpg.run_eq_ok {options : Options} {command : List String} {target : Path}
    (h : run options command target w = .ok () d) :
    ∃ next, w.tool.runs.head? = some next ∧ next.fault? = none ∧ next.exitCode = 0 ∧
      (w.SameFiles d ∨ ∃ content, next.written? = some content ∧
        d.files.read d.workingDirectory target = .ok content) := by
  obtain ⟨_, e, hnamed, hrest⟩ := bind_eq_ok.1 h
  cases hnamed
  obtain ⟨input?, _, hinput, hrest⟩ := bind_eq_ok.1 hrest
  obtain ⟨-, rfl⟩ := Act.ofExcept_eq_ok.1 hinput
  obtain ⟨next, ended, hrun, hrest⟩ := bind_eq_ok.1 hrest
  have hreport (text : String) : Respects SameFiles (Act.debug .toolSigner text) :=
    Act.respects_report _ _ _
  -- Reports are all that comes between the run and its check.
  obtain ⟨hlogged, hchecked⟩ : ended.SameFiles d ∧
      checkRun options.limit? command next = .ok () := by
    split at hrest
    · obtain ⟨_, logged, hdebug, hrest⟩ := bind_eq_ok.1 hrest
      obtain ⟨hchecked, rfl⟩ := Act.ofExcept_eq_ok.1 hrest
      exact ⟨(hreport _).of_ok hdebug, hchecked⟩
    · obtain ⟨hchecked, rfl⟩ := Act.ofExcept_eq_ok.1 hrest
      exact ⟨refl_of SameFiles _, hchecked⟩
  obtain ⟨hfault, hexit⟩ := checkRun_eq_ok hchecked
  obtain ⟨hnext, hwritten⟩ := Act.runTool_eq_ok hrun hfault
  refine ⟨next, hnext, hfault, hexit, ?_⟩
  rcases hwritten with hsame | ⟨content, hcontent, hread⟩
  · exact .inl ⟨hlogged.files.trans hsame.files,
      hlogged.workingDirectory.trans hsame.workingDirectory⟩
  · refine .inr ⟨content, hcontent, ?_⟩
    rw [hlogged.files, hlogged.workingDirectory]
    exact hread

theorem Gpg.fill_eq_ok {temporary : Path} {filled : World}
    (hfree : w.files.find? w.workingDirectory temporary = none)
    (h : fill options source temporary w = .ok () filled)
    (hcontent : filled.files.read filled.workingDirectory temporary = .ok content) :
    Wrote w content := by
  obtain ⟨command, d, hcommand, h⟩ := bind_eq_ok.1 h
  obtain ⟨_, e, hrun, h⟩ := bind_eq_ok.1 h
  have hlog : Respects SameFiles (commandFor options source temporary) :=
    respects_commandFor options (fun _ _ => ⟨rfl, rfl⟩) source temporary
  have hsame := hlog.of_ok hcommand
  have htool := (sameTool_commandFor options source temporary).of_ok hcommand
  have hend : e.SameFiles filled := (respects_checkWritten source temporary).of_ok h
  obtain ⟨next, hnext, hfault, hexit, hwritten⟩ := run_eq_ok hrun
  rw [htool] at hnext
  rw [hend.files, hend.workingDirectory] at hcontent
  refine ⟨next, hnext, hfault, hexit, ?_⟩
  rcases hwritten with hunchanged | ⟨octets, hoctets, hread⟩
  · have hall := trans_of SameFiles hsame hunchanged
    rw [hall.files, hall.workingDirectory] at hcontent
    obtain ⟨place, hplace, hat⟩ := FileTree.read_eq_ok.1 hcontent
    rw [FileTree.find?, hplace] at hfree
    cases hfree.symm.trans hat
  · rw [hoctets, Except.ok.inj (hread.symm.trans hcontent)]

theorem Gpg.signNow_allOrNothing (hsame : w.SameFiles d) (htool : w.SameTool d) :
    AllOrNothing source destination? w (Wrote w) (signNow options source destination? d) := by
  refine AllOrNothing.bind hsame (Act.respects_ofExcept _) ?_
  intro path e hdestination he
  obtain ⟨hpath, rfl⟩ := Act.ofExcept_eq_ok.1 hdestination
  refine AllOrNothing.replaceBy he hpath (fun temporary => ?_) ?_ _ _
  · exact respects_fill options (fun _ _ => SameFiles.fills ⟨rfl, rfl⟩) source
      (Act.fills_writeFile temporary) fun _ _ _ => SameFiles.fills ⟨rfl, rfl⟩
  · intro files temporary filled content hfree hfill hcontent
    obtain ⟨next, hnext, hended⟩ := fill_eq_ok hfree hfill hcontent
    exact ⟨next, (congrArg (·.runs.head?) htool).symm.trans hnext, hended⟩

theorem Gpg.sign_allOrNothing (options : Options) (source : Path) (destination? : Option Path)
    (w : World) :
    AllOrNothing source destination? w (Wrote w) (sign options source destination? w) := by
  rw [sign_eq, bind_of_ok _ (get_eq_ok w)]
  split
  · exact AllOrNothing.bind (refl_of SameFiles w) (sameFiles_prepare options) fun _ d hprepare hd =>
      signNow_allOrNothing hd ((sameTool_prepare options).of_ok hprepare)
  · exact signNow_allOrNothing (refl_of SameFiles w) (refl_of SameTool w)

end Gpg

/-- Both signers leave a whole new signature or nothing: the one that runs a tool, whatever the runs
of the tool do, and the embedded one, however reading and writing may fail and whatever the private
operations are. `Embedded.sign` is the latter with `Storage.plain` and the operations of this
library. -/
theorem sign_all_or_nothing (source : Path) (destination? : Option Path) (w : World) :
    (∀ options : Gpg.Options, AllOrNothing source destination? w (Gpg.Wrote w)
      ((Gpg.signer options).sign source destination? w)) ∧
    ∀ (operations : PrivateOperations) (storage : Storage) (resolver : Resolver),
      resolver.KeepsFiles →
        AllOrNothing source destination? w (Embedded.Signs operations storage resolver source w)
          (Embedded.signBy operations storage.read storage.write resolver source destination? w) :=
  ⟨fun options => Gpg.sign_allOrNothing options source destination? w, fun operations storage _ h =>
    Embedded.signBy_allOrNothing operations storage h source destination? w⟩

/-- A storage that breaks down after the first octet of a file. -/
def Storage.torn : Storage where
  read := Act.readFile
  write p content := do
    Act.writeFile p (content.take 1)
    throw .brokenPipe
  read_same := Act.respects_readFile
  write_fills p content := (Act.fills_writeFile p _).bind fun _ => respects_throw _
  read_of_write _ _ _ _ h := by
    obtain ⟨_, _, -, hthrow⟩ := bind_eq_ok.1 h
    exact absurd hthrow throw_ne_ok

/-- A world with a resolved key, a file and an old signature of the file. -/
def signedWorld : World :=
  { Embedded.keptWorld with
    files := ⟨[(["artifact"], .file [1, 2, 3]), (["artifact.asc"], .file [9])]⟩ }

theorem writeTextBy_torn_ne_ok {p : Path} {text : String} {w w' : World} :
    Act.writeTextBy Storage.torn.write p text w ≠ .ok () w' := by
  intro h
  obtain ⟨_, _, _, _, _, -, hfill, -⟩ := Act.replaceBy_eq_ok h
  obtain ⟨_, _, -, hwrite⟩ := bind_eq_ok.1 hfill
  obtain ⟨_, _, -, hthrow⟩ := bind_eq_ok.1 hwrite
  exact throw_ne_ok hthrow

theorem signBy_torn_ne_ok {operations : PrivateOperations} {resolver : Resolver}
    {source path : Path} {destination? : Option Path} {w w' : World} :
    Embedded.signBy operations Storage.torn.read Storage.torn.write resolver source destination? w ≠
      .ok path w' := by
  intro h
  obtain ⟨resolved, _, -, h⟩ := bind_eq_ok.1 h
  obtain ⟨target, _, -, h⟩ := bind_eq_ok.1 h
  dsimp only at h
  split at h
  · obtain ⟨document, _, -, h⟩ := bind_eq_ok.1 h
    obtain ⟨reached, _, -, h⟩ := bind_eq_ok.1 h
    obtain ⟨signature, _, -, h⟩ := bind_eq_ok.1 h
    obtain ⟨_, _, hwrite, -⟩ := bind_eq_ok.1 h
    exact writeTextBy_torn_ne_ok hwrite
  · obtain ⟨_, _, hthrow, -⟩ := bind_eq_ok.1 h
    exact throw_ne_ok hthrow

/-- The old signature survives the breakdown. -/
theorem old_signature_kept : ∃ failure w',
    Embedded.signBy .standard Storage.torn.read Storage.torn.write ⟨[], false, none⟩
      ⟨.relative, ["artifact"]⟩ none signedWorld = .error failure w' ∧
      w'.files.read w'.workingDirectory ⟨.relative, ["artifact.asc"]⟩ = .ok [9] := by
  have hall := (sign_all_or_nothing ⟨.relative, ["artifact"]⟩ none signedWorld).2 .standard
    Storage.torn ⟨[], false, none⟩ (fun loader hloader => nomatch hloader)
  cases hsign : Embedded.signBy .standard Storage.torn.read Storage.torn.write ⟨[], false, none⟩
      ⟨.relative, ["artifact"]⟩ none signedWorld with
  | ok path w' => exact absurd hsign signBy_torn_ne_ok
  | error failure w' =>
      refine ⟨failure, w', rfl, ?_⟩
      rw [hsign] at hall
      rcases hall with hsame | ⟨path, -, hgains⟩
      · rw [hsame.files, hsame.workingDirectory]
        rfl
      · have hkept : w'.files.at? ["artifact.asc"] = some (.file [9]) := by
          rcases hgains.files ["artifact.asc"] (Set.notMem_empty _) with hunchanged | ⟨hnone, -⟩
          · exact hunchanged
          · cases hnone
        rw [hgains.workingDirectory]
        exact FileTree.read_eq_ok.2 ⟨["artifact.asc"], rfl, hkept⟩

end ArtifactSigning
