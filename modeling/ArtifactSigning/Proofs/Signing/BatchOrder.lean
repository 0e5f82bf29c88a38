import ArtifactSigning.Proofs.Credential.Resolution
import ArtifactSigning.Proofs.Signing.BatchEffects

/-!
# The order of a batch

Nothing is done for a batch unless all its files are there and the signer can be made ready. Then
the entries have their turns in order: the place of a signature is cleared and the signer is called.
The first turn that fails is the last one. A run is described by its turns, which hold the worlds in
which the signer was called, so that a run is the same for all signers that agree on those calls.
-/
namespace ArtifactSigning

open Step World

/-- At the path there is a file. -/
def World.IsFile (w : World) (path : Path) : Prop :=
  ∃ content, w.files.find? w.workingDirectory path = some (.file content)

section Sources

variable {w : World} {path : Path}

theorem Act.isFile_of_isFile (h : w.IsFile path) : isFile path w = .ok true w := by
  obtain ⟨content, hfind⟩ := h
  have hfound : find? path w = .ok (w.files.find? w.workingDirectory path) w := rfl
  rw [isFile, bind_of_ok _ hfound, hfind]
  rfl

theorem Act.isFile_of_not_isFile (h : ¬w.IsFile path) : isFile path w = .ok false w := by
  have hfound : find? path w = .ok (w.files.find? w.workingDirectory path) w := rfl
  rw [isFile, bind_of_ok _ hfound]
  cases hfind : w.files.find? w.workingDirectory path with
  | none => rfl
  | some entry =>
    cases entry with
    | directory => rfl
    | file content => exact absurd ⟨content, hfind⟩ h

end Sources

namespace Batch

/-- A call of the signer, and the world in which it is called. -/
structure Call where
  source : Path
  destination : Path
  called : World

/-- What comes of a call. -/
def Call.result (signer : Signer) (call : Call) : EStateM.Result Failure World Path :=
  signer.sign call.source (some call.destination) call.called

/-- The signer is about to be called: the destination is the path that the layout gives to the
signature, nothing is at it, and nothing but what was at it has been removed. -/
structure Call.Cleared (layout : Layout) (begun : World) (call : Call) : Prop where
  cleared : clearDestination layout call.source begun = .ok call.destination call.called
  destination_eq : ∃ directory?,
    layout.place (Path.absolute ⟨.slash, begun.workingDirectory⟩ call.source) =
      .ok ⟨call.destination, directory?⟩
  free : call.called.files.find? call.called.workingDirectory call.destination = none
  kept : begun.KeepsBut call.destination call.called

/-- A call that succeeds, its result and the world that it leads to. -/
structure Turn extends Call where
  signature : Path
  signed : World

/-- The world after a turn, which has been reported. -/
def Turn.next (turn : Turn) : World :=
  { turn.signed with
    log := turn.signed.log ++
      [⟨.batch, .info, s!"Signed {turn.source.text} -> {turn.signature.text}"⟩] }

def Turn.artifact (signer : Signer) (turn : Turn) : SignedArtifact where
  source := turn.source
  signature := turn.signature
  signer := signer.name

/-- The calls of a run, the last of which may be refused. -/
def callsOf (turns : List Turn) (refused? : Option Call) : List Call :=
  turns.map Turn.toCall ++ refused?.toList

/-- Turns that follow one another. -/
inductive Turns (signer : Signer) (layout : Layout) : World → List Turn → World → Prop
  | nil (w : World) : Turns signer layout w [] w
  | cons {begun after : World} {turn : Turn} {turns : List Turn}
      (hcleared : turn.Cleared layout begun)
      (hsigned : turn.result signer = .ok turn.signature turn.signed)
      (hlater : Turns signer layout turn.next turns after) :
      Turns signer layout begun (turn :: turns) after

/-- A run over paths: its turns, the call that is refused, if there is one, the result of the run
and the world that it leads to. -/
inductive Run (signer : Signer) (layout : Layout) (paths : List Path) (w : World) :
    List Turn → Option Call → Except Failure (List SignedArtifact) → World → Prop
  | finished {turns : List Turn} {after : World} (hturns : Turns signer layout w turns after)
      (hpaths : paths = turns.map fun turn => turn.source) :
      Run signer layout paths w turns none (.ok (turns.map (Turn.artifact signer))) after
  /-- The signer is not called if the place of the signature cannot be cleared. -/
  | blocked {turns : List Turn} {begun after : World} {path : Path} {later : List Path}
      {failure : Failure} (hturns : Turns signer layout w turns begun)
      (hpaths : paths = (turns.map fun turn => turn.source) ++ path :: later)
      (hblocked : clearDestination layout path begun = .error failure after) :
      Run signer layout paths w turns none (.error failure) after
  | refused {turns : List Turn} {begun after : World} {call : Call} {later : List Path}
      {failure : Failure} (hturns : Turns signer layout w turns begun)
      (hpaths : paths = (turns.map fun turn => turn.source) ++ call.source :: later)
      (hcleared : call.Cleared layout begun)
      (hrefused : call.result signer = .error failure after) :
      Run signer layout paths w turns (some call) (.error failure) after

/-- The world in which the turns begin: the signer is ready, which has been reported. -/
def announced (signer : Signer) (paths : List Path) (prepared : World) : World :=
  { prepared with
    log := prepared.log ++
      [⟨.batch, .debug, s!"Signing {paths.length} file(s) with {signer.name}"⟩] }

variable {signer other : Signer} {layout : Layout} {path file : Path} {paths : List Path}
  {w begun prepared after : World} {call : Call} {turn : Turn} {turns front later : List Turn}
  {refused? : Option Call} {result : Except Failure (List SignedArtifact)} {failure : Failure}
  {content : Bytes}

section Checking

/-- All paths lead to files, or the first one that does not is named. -/
theorem checkSources_cases (paths : List Path) (w : World) :
    ((∀ path ∈ paths, w.IsFile path) ∧ checkSources paths w = .ok () w) ∨
      ∃ path, IsFirst (fun path => ¬w.IsFile path) paths path ∧
        checkSources paths w = .error (.sourceMissing path.text) w := by
  induction paths with
  | nil =>
    left
    exact ⟨fun path hmem => absurd hmem List.not_mem_nil, rfl⟩
  | cons first paths ih =>
    by_cases hfirst : w.IsFile first
    · have hcheck : checkSources (first :: paths) w = checkSources paths w := by
        rw [checkSources, bind_of_ok _ (Act.isFile_of_isFile hfirst)]
        rfl
      rw [hcheck]
      cases ih with
      | inl h =>
        left
        exact ⟨List.forall_mem_cons.2 ⟨hfirst, h.1⟩, h.2⟩
      | inr h =>
        obtain ⟨path, ⟨before, rest, hpaths, hmissing, hbefore⟩, herror⟩ := h
        right
        refine ⟨path, ⟨first :: before, rest, ?_, hmissing, ?_⟩, herror⟩
        · rw [hpaths, List.cons_append]
        · exact List.forall_mem_cons.2 ⟨not_not_intro hfirst, hbefore⟩
    · right
      refine ⟨first, ⟨[], paths, rfl, hfirst, ?_⟩, ?_⟩
      · intro other hmem
        exact absurd hmem List.not_mem_nil
      · rw [checkSources, bind_of_ok _ (Act.isFile_of_not_isFile hfirst)]
        rfl

theorem checkSources_of_isFile (h : ∀ path ∈ paths, w.IsFile path) :
    checkSources paths w = .ok () w := by
  cases checkSources_cases paths w with
  | inl hchecked => exact hchecked.2
  | inr hfirst =>
    obtain ⟨path, ⟨before, rest, hpaths, hmissing, -⟩, -⟩ := hfirst
    have hmem : path ∈ paths := by simp [hpaths]
    exact absurd (h path hmem) hmissing

end Checking

section Clearing

/-- What is removed is gone. -/
theorem find?_of_removeFile (h : Act.removeFile path w = .ok () after) :
    after.files.find? after.workingDirectory path = none := by
  obtain ⟨files, hremove, rfl⟩ := Act.removeFile_eq_ok.1 h
  obtain ⟨place, hlocate, ⟨content, hat⟩, rfl⟩ := FileTree.remove_eq_ok.1 hremove
  have hfile : w.files.at? place ≠ some .directory := by simp [hat]
  have hkept := (FileTree.Keeps.erase hfile).locate hlocate
  change (w.files.erase place).find? w.workingDirectory path = none
  rw [FileTree.find?, hkept]
  exact FileTree.at?_erase_self (FileTree.ne_nil_of_not_directory hfile)

/-- The second half of the clearing: what is at the destination is removed. -/
theorem free_of_removed {target destination : Path} (h : (do
      if ← Act.pathExists target then Act.removeFile target
      return target : Act Path) w = .ok destination after) :
    target = destination ∧ after.files.find? after.workingDirectory destination = none := by
  have hexists : Act.pathExists target w =
      .ok (w.files.find? w.workingDirectory target).isSome w := rfl
  rw [bind_of_ok _ hexists] at h
  cases hfind : w.files.find? w.workingDirectory target with
  | none =>
    rw [hfind] at h
    cases h
    exact ⟨rfl, hfind⟩
  | some entry =>
    rw [hfind] at h
    obtain ⟨_, removed, hremove, hreturn⟩ := bind_eq_ok.1 h
    cases hreturn
    exact ⟨rfl, find?_of_removeFile hremove⟩

theorem Call.Cleared.of_ok
    (h : clearDestination layout call.source begun = .ok call.destination call.called) :
    call.Cleared layout begun := by
  obtain ⟨target, made, hdestination, hremove⟩ := bind_eq_ok.1 h
  obtain ⟨heq, hfree⟩ := free_of_removed hremove
  subst heq
  have hkept := keeps_clearDestination layout call.source begun
  rw [finalState_of_ok h] at hkept
  refine ⟨h, placement_of_destinationOf hdestination, hfree, hkept.mono ?_⟩
  intro place hplace
  exact Option.some.inj ((clearDestination_eq_ok h).symm.trans hplace).symm

/-- A removal that fails has changed nothing. -/
theorem eq_of_removeFile_error (h : Act.removeFile path w = .error failure after) : w = after := by
  cases hremove : w.files.remove w.workingDirectory path with
  | ok files =>
    have hremoved : Act.removeFile path w = .ok () { w with files } :=
      Act.removeFile_eq_ok.2 ⟨files, hremove, rfl⟩
    cases h.symm.trans hremoved
  | error rule =>
    have hfailed : Act.removeFile path w = .error (.file ⟨rule, path.text, none⟩) w :=
      Act.changeFiles_of_error hremove
    cases h.symm.trans hfailed
    rfl

/-- If the place cannot be cleared, no file has been removed. -/
theorem keeps_of_blocked (h : clearDestination layout path begun = .error failure after) :
    begun.Keeps ∅ after := by
  have hmake := respects_destinationOf Act.keeps_makeDirectories layout path
  cases bind_eq_error.1 h with
  | inl hfailed => exact hmake.of_error hfailed
  | inr hrest =>
    obtain ⟨target, made, hdestination, hremove⟩ := hrest
    have hexists : Act.pathExists target made =
        .ok (made.files.find? made.workingDirectory target).isSome made := rfl
    rw [bind_of_ok _ hexists] at hremove
    cases hfind : (made.files.find? made.workingDirectory target).isSome with
    | false =>
      rw [hfind] at hremove
      cases hremove
    | true =>
      rw [hfind, if_pos rfl] at hremove
      cases bind_eq_error.1 hremove with
      | inl hfailed =>
        rw [← eq_of_removeFile_error hfailed]
        exact hmake.of_ok hdestination
      | inr hreturn =>
        obtain ⟨_, _, -, hreturn⟩ := hreturn
        cases hreturn

end Clearing

section Running

theorem signOne_of_turn (hcleared : turn.Cleared layout begun)
    (hsigned : turn.result signer = .ok turn.signature turn.signed) :
    signOne signer layout turn.source begun = .ok (turn.artifact signer) turn.next := by
  rw [signOne, bind_of_ok _ hcleared.cleared]
  exact bind_of_ok _ hsigned

/-- A run that begins with some turns goes on with the other entries. -/
theorem Turns.signAll_append (h : Turns signer layout w turns begun) (later : List Path) :
    signAll signer layout ((turns.map fun turn => turn.source) ++ later) w =
      (signAll signer layout later >>= fun rest =>
        pure (turns.map (Turn.artifact signer) ++ rest)) begun := by
  induction h with
  | nil w =>
    simp
  | @cons begun after turn turns hcleared hsigned hlater ih =>
    rw [List.map_cons, List.cons_append, signAll, bind_of_ok _ (signOne_of_turn hcleared hsigned)]
    -- The artifact of the first turn is put in front of the others only if these come back.
    cases hrest : signAll signer layout later after with
    | ok rest finished =>
      rw [bind_of_ok _ hrest] at ih ⊢
      rw [bind_of_ok _ ih]
      rfl
    | error failure finished =>
      rw [bind_of_error _ hrest] at ih ⊢
      rw [bind_of_error _ ih]

theorem Turns.signAll_eq (h : Turns signer layout w turns after) :
    signAll signer layout (turns.map fun turn => turn.source) w =
      .ok (turns.map (Turn.artifact signer)) after := by
  have hrun := h.signAll_append []
  rw [List.append_nil] at hrun
  have hnone : signAll signer layout [] after = .ok [] after := rfl
  rw [hrun, bind_of_ok _ hnone, List.append_nil]
  rfl

/-- A turn that fails ends the run. -/
theorem Turns.signAll_of_error (h : Turns signer layout w turns begun)
    (hturn : signOne signer layout path begun = .error failure after) (later : List Path) :
    signAll signer layout ((turns.map fun turn => turn.source) ++ path :: later) w =
      .error failure after := by
  have hrest : signAll signer layout (path :: later) begun = .error failure after := by
    rw [signAll, bind_of_error _ hturn]
  rw [h.signAll_append, bind_of_error _ hrest]

/-- A run does what its description says. -/
theorem Run.signAll_eq (h : Run signer layout paths w turns refused? result after) :
    outcome (signAll signer layout paths) w = result ∧
      finalState (signAll signer layout paths) w = after := by
  cases h with
  | finished hturns hpaths =>
    have hrun := hturns.signAll_eq
    rw [hpaths]
    exact ⟨outcome_of_ok hrun, finalState_of_ok hrun⟩
  | @blocked begun _ path later failure hturns hpaths hblocked =>
    have hturn : signOne signer layout path begun = .error failure after :=
      bind_of_error _ hblocked
    have hrun := hturns.signAll_of_error hturn later
    rw [hpaths]
    exact ⟨outcome_of_error hrun, finalState_of_error hrun⟩
  | @refused begun _ call later failure hturns hpaths hcleared hrefused =>
    have hturn : signOne signer layout call.source begun = .error failure after := by
      rw [signOne, bind_of_ok _ hcleared.cleared]
      exact bind_of_error _ hrefused
    have hrun := hturns.signAll_of_error hturn later
    rw [hpaths]
    exact ⟨outcome_of_error hrun, finalState_of_error hrun⟩

/-- A turn before a run makes a run. -/
theorem Run.cons (hcleared : turn.Cleared layout begun)
    (hsigned : turn.result signer = .ok turn.signature turn.signed)
    (h : Run signer layout paths turn.next turns refused? result after) :
    ∃ result,
      Run signer layout (turn.source :: paths) begun (turn :: turns) refused? result after := by
  cases h with
  | finished hturns hpaths =>
    exact ⟨_, .finished (.cons hcleared hsigned hturns) (by rw [hpaths, List.map_cons])⟩
  | blocked hturns hpaths hblocked =>
    exact ⟨_, .blocked (.cons hcleared hsigned hturns)
      (by rw [hpaths, List.map_cons, List.cons_append]) hblocked⟩
  | refused hturns hpaths hrefusedCleared hrefused =>
    exact ⟨_, .refused (.cons hcleared hsigned hturns)
      (by rw [hpaths, List.map_cons, List.cons_append]) hrefusedCleared hrefused⟩

theorem exists_run (signer : Signer) (layout : Layout) (paths : List Path) (w : World) :
    ∃ turns refused? result after, Run signer layout paths w turns refused? result after := by
  induction paths generalizing w with
  | nil => exact ⟨[], none, _, w, .finished (.nil w) rfl⟩
  | cons path paths ih =>
    cases hclear : clearDestination layout path w with
    | error failure after => exact ⟨[], none, _, after, .blocked (.nil w) rfl hclear⟩
    | ok destination called =>
      have hcleared : Call.Cleared layout w ⟨path, destination, called⟩ := .of_ok hclear
      cases hsign : signer.sign path (some destination) called with
      | error failure after =>
        exact ⟨[], _, _, after, .refused (.nil w) rfl hcleared hsign⟩
      | ok signature signed =>
        let turn : Turn := ⟨⟨path, destination, called⟩, signature, signed⟩
        have hsigned : turn.result signer = .ok turn.signature turn.signed := hsign
        obtain ⟨turns, refused?, result, after, hrun⟩ := ih turn.next
        obtain ⟨result, hrun⟩ := hrun.cons hcleared hsigned
        exact ⟨turn :: turns, refused?, result, after, hrun⟩

end Running

section Agreeing

theorem Turns.of_agree (h : Turns signer layout w turns after)
    (hagree : ∀ turn ∈ turns, turn.result other = turn.result signer) :
    Turns other layout w turns after := by
  induction h with
  | nil w => exact .nil w
  | cons hcleared hsigned hlater ih =>
    have hsame := List.forall_mem_cons.1 hagree
    exact .cons hcleared (hsame.1.trans hsigned) (ih hsame.2)

/-- A run is the same for every signer that agrees on the calls. -/
theorem Run.of_agree (h : Run signer layout paths w turns refused? result after)
    (hname : other.name = signer.name)
    (hagree : ∀ call ∈ callsOf turns refused?, call.result other = call.result signer) :
    Run other layout paths w turns refused? result after := by
  have hturnsAgree : ∀ turn ∈ turns, turn.result other = turn.result signer := by
    intro turn hmem
    apply hagree
    exact List.mem_append_left _ (List.mem_map_of_mem hmem)
  have hartifacts : turns.map (Turn.artifact signer) = turns.map (Turn.artifact other) := by
    simp [Turn.artifact, hname]
  cases h with
  | finished hturns hpaths =>
    rw [hartifacts]
    exact .finished (hturns.of_agree hturnsAgree) hpaths
  | blocked hturns hpaths hblocked =>
    exact .blocked (hturns.of_agree hturnsAgree) hpaths hblocked
  | @refused begun _ call later failure hturns hpaths hcleared hrefused =>
    have hmem : call ∈ callsOf turns (some call) := by simp [callsOf]
    exact .refused (hturns.of_agree hturnsAgree) hpaths hcleared ((hagree call hmem).trans hrefused)

end Agreeing

section Keeping

/-- The places that the signer is told to write. -/
def destinationsOf (workingDirectory : Place) (calls : List Call) : Set Place :=
  {place | ∃ call ∈ calls, call.destination.placeIn workingDirectory = place}

theorem Call.keeps (hsigner : signer.Confined) (hcleared : call.Cleared layout begun) :
    begun.KeepsBut call.destination
      (finalState (signer.sign call.source (some call.destination)) call.called) :=
  trans_of (KeepsBut call.destination) hcleared.kept
    (hsigner.sign call.source call.destination call.called)

theorem Turn.keeps_next (hsigner : signer.Confined) (hcleared : turn.Cleared layout begun)
    (hsigned : turn.result signer = .ok turn.signature turn.signed) :
    begun.KeepsBut turn.destination turn.next := by
  have hcall := Call.keeps hsigner hcleared
  rw [finalState_of_ok hsigned] at hcall
  exact ⟨hcall.files, hcall.workingDirectory⟩

theorem Turns.keeps (hsigner : signer.Confined) (h : Turns signer layout w turns after) :
    w.Keeps (destinationsOf w.workingDirectory (callsOf turns none)) after := by
  induction h with
  | nil w => exact refl_of (Keeps _) w
  | @cons begun after turn turns hcleared hsigned hlater ih =>
    have hnext := Turn.keeps_next hsigner hcleared hsigned
    rw [hnext.workingDirectory] at ih
    apply trans_of (Keeps _) (hnext.mono _) (ih.mono _)
    · intro place hplace
      exact ⟨turn.toCall, by simp [callsOf], hplace.symm⟩
    · intro place hplace
      obtain ⟨call, hmem, hdestination⟩ := hplace
      exact ⟨call, List.mem_cons_of_mem _ hmem, hdestination⟩

/-- However it ends, a run keeps every file but those at the destinations of its calls. -/
theorem Run.keeps (hsigner : signer.Confined)
    (h : Run signer layout paths w turns refused? result after) :
    w.Keeps (destinationsOf w.workingDirectory (callsOf turns refused?)) after := by
  cases h with
  | finished hturns hpaths => exact hturns.keeps hsigner
  | blocked hturns hpaths hblocked =>
    apply trans_of (Keeps _) (hturns.keeps hsigner)
    exact (keeps_of_blocked hblocked).mono (Set.empty_subset _)
  | @refused begun _ call later failure hturns hpaths hcleared hrefused =>
    have hbefore := hturns.keeps hsigner
    have hcall := Call.keeps hsigner hcleared
    rw [finalState_of_error hrefused, KeepsBut, hbefore.workingDirectory] at hcall
    apply trans_of (Keeps _) (hbefore.mono _) (hcall.mono _)
    · intro place hplace
      obtain ⟨other, hmem, hdestination⟩ := hplace
      refine ⟨other, ?_, hdestination⟩
      simp only [callsOf, Option.toList_none, List.append_nil] at hmem
      exact List.mem_append_left _ hmem
    · intro place hplace
      exact ⟨call, by simp [callsOf], hplace.symm⟩

/-- What follows the first turn of a run is a run. -/
theorem Run.tail (h : Run signer layout paths w (turn :: turns) refused? result after) :
    turn.Cleared layout w ∧ turn.result signer = .ok turn.signature turn.signed ∧
      ∃ result, Run signer layout paths.tail turn.next turns refused? result after := by
  cases h with
  | finished hturns hpaths =>
    cases hturns with
    | cons hcleared hsigned hlater =>
      exact ⟨hcleared, hsigned, _, .finished hlater (congrArg List.tail hpaths)⟩
  | blocked hturns hpaths hblocked =>
    cases hturns with
    | cons hcleared hsigned hlater =>
      exact ⟨hcleared, hsigned, _, .blocked hlater (congrArg List.tail hpaths) hblocked⟩
  | refused hturns hpaths hrefusedCleared hrefused =>
    cases hturns with
    | cons hcleared hsigned hlater =>
      exact ⟨hcleared, hsigned, _,
        .refused hlater (congrArg List.tail hpaths) hrefusedCleared hrefused⟩

/-- What can be read after a call is there in the end, unless a later call had it for its
destination. -/
theorem Run.read (hsigner : signer.Confined)
    (h : Run signer layout paths w (front ++ turn :: later) refused? result after)
    (hread : turn.signed.files.read turn.signed.workingDirectory file = .ok content)
    (hothers : ∀ call ∈ callsOf later refused?,
      call.destination.placeIn w.workingDirectory ≠ file.placeIn w.workingDirectory) :
    after.files.read after.workingDirectory file = .ok content := by
  -- The turns before the call leave the working directory alone, so the places stay the same.
  induction front generalizing paths w result with
  | nil =>
    obtain ⟨hcleared, hsigned, _, hrun⟩ := h.tail
    have hnext := Turn.keeps_next hsigner hcleared hsigned
    apply (hrun.keeps hsigner).read _ hread
    intro hplace
    obtain ⟨call, hmem, hdestination⟩ := hplace
    rw [hnext.workingDirectory] at hdestination
    exact hothers call hmem hdestination
  | cons first front ih =>
    obtain ⟨hcleared, hsigned, _, hrun⟩ := h.tail
    have hnext := Turn.keeps_next hsigner hcleared hsigned
    apply ih hrun
    rw [hnext.workingDirectory]
    exact hothers

end Keeping

section Whole

theorem signFiles_of_missing (h : ∃ path ∈ paths, ¬w.IsFile path) :
    ∃ path, IsFirst (fun path => ¬w.IsFile path) paths path ∧
      signFiles signer layout paths w = .error (.sourceMissing path.text) w := by
  cases checkSources_cases paths w with
  | inl hfiles =>
    obtain ⟨path, hmem, hmissing⟩ := h
    exact absurd (hfiles.1 path hmem) hmissing
  | inr hfirst =>
    obtain ⟨path, hfirst, herror⟩ := hfirst
    have hstart : start signer paths w = .error (.sourceMissing path.text) w :=
      bind_of_error _ herror
    exact ⟨path, hfirst, bind_of_error _ hstart⟩

variable (hfiles : ∀ path ∈ paths, w.IsFile path)
include hfiles

theorem signFiles_of_prepare_error (h : signer.prepare w = .error failure after) :
    signFiles signer layout paths w = .error failure after := by
  have hstart : start signer paths w = .error failure after := by
    rw [start, bind_of_ok _ (checkSources_of_isFile hfiles), bind_of_error _ h]
  rw [signFiles, bind_of_error _ hstart]

theorem signFiles_of_prepare_ok (h : signer.prepare w = .ok () prepared) :
    signFiles signer layout paths w =
      signAll signer layout paths (announced signer paths prepared) := by
  have hstart : start signer paths w = .ok () (announced signer paths prepared) := by
    rw [start, bind_of_ok _ (checkSources_of_isFile hfiles), bind_of_ok _ h]
    rfl
  rw [signFiles, bind_of_ok _ hstart]

theorem Run.signFiles_eq (hprepare : signer.prepare w = .ok () prepared)
    (h : Run signer layout paths (announced signer paths prepared) turns refused? result after) :
    outcome (signFiles signer layout paths) w = result ∧
      finalState (signFiles signer layout paths) w = after := by
  obtain ⟨hresult, hafter⟩ := h.signAll_eq
  have hrun : signFiles signer layout paths w =
      signAll signer layout paths (announced signer paths prepared) :=
    signFiles_of_prepare_ok hfiles hprepare
  constructor
  · rw [outcome, hrun]
    exact hresult
  · rw [finalState, hrun]
    exact hafter

end Whole

end Batch

end ArtifactSigning
