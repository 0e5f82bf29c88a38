import ArtifactSigning.Proofs.Signing.Confinement
import ArtifactSigning.Proofs.Signing.Placement

/-!
# The turns of a run

A run comes to its entries one after the other. The turn of an entry removes what is at the place of
its signature and then calls the signer, so no file is changed but those at the places of the
signatures of entries that the run comes to, and every file that has come has been put there by a
call.
-/
namespace ArtifactSigning

open Step World

theorem Path.Resolved.locate {p : Path} {tree : FileTree} (h : p.Resolved)
    (hopens : tree.Opens p.names) (workingDirectory : Place) :
    tree.locate workingDirectory p = .ok p.names := by
  rw [FileTree.locate, if_pos h.isAbsolute]
  exact FileTree.follow_of_opens h.dots hopens

namespace Batch

variable {signer : Signer} {layout : Layout} {path destination : Path} {w w' : World}
  {place : Place} {content : Bytes}

section Clearing

theorem respects_destinationOf {r : World → World → Prop} [IsPreorder World r]
    (h : ∀ directory, Respects r (Act.makeDirectories directory)) (layout : Layout) (path : Path) :
    Respects r (destinationOf layout path) := by
  have habsolute : Respects r (Act.absolute path) := fun w => refl_of r w
  refine habsolute.bind fun file => (Act.respects_ofExcept _).bind fun placement => ?_
  split
  · exact (h _).bind fun _ => respects_pure _
  · exact respects_pure _

/-- The destination is the path that the layout gives to the signature. -/
theorem placement_of_destinationOf (h : destinationOf layout path w = .ok destination w') :
    ∃ directory?, layout.place (Path.absolute ⟨.slash, w.workingDirectory⟩ path) =
      .ok ⟨destination, directory?⟩ := by
  obtain ⟨file, _, habsolute, h⟩ := bind_eq_ok.1 h
  cases habsolute
  obtain ⟨placement, _, hgiven, h⟩ := bind_eq_ok.1 h
  obtain ⟨hplace, rfl⟩ := Act.ofExcept_eq_ok.1 hgiven
  obtain rfl : placement.signature = destination := by
    cases hdirectory : placement.directory? with
    | none =>
        rw [hdirectory] at h
        exact (pure_eq_ok.1 h).1
    | some directory =>
        rw [hdirectory] at h
        obtain ⟨_, _, -, h⟩ := bind_eq_ok.1 h
        exact (pure_eq_ok.1 h).1
  exact ⟨placement.directory?, hplace⟩

/-- The destination is where the layout has the signature. -/
theorem destinationOf_eq_ok (h : destinationOf layout path w = .ok destination w') :
    layout.signaturePlace? w.workingDirectory path =
      some (destination.placeIn w.workingDirectory) := by
  obtain ⟨directory?, hplace⟩ := placement_of_destinationOf h
  rw [Layout.signaturePlace?, hplace]
  rfl

/-- What is at the destination, and nothing else, is removed. -/
theorem keeps_clearDestination (layout : Layout) (path : Path) (w : World) :
    w.Keeps {place | layout.signaturePlace? w.workingDirectory path = some place}
      (finalState (clearDestination layout path) w) := by
  have hmake := respects_destinationOf Act.keeps_makeDirectories layout path
  rw [clearDestination]
  cases hdestination : destinationOf layout path w with
  | error failure d =>
      rw [finalState_bind_of_error hdestination]
      exact (hmake.of_error hdestination).mono (Set.empty_subset _)
  | ok destination d =>
      rw [finalState_bind_of_ok hdestination]
      have hmade := hmake.of_ok hdestination
      have hremove : Respects (KeepsBut destination) (do
          if ← Act.pathExists destination then Act.removeFile destination
          return destination) := by
        refine (Act.respects_pathExists _).bind fun found => ?_
        split
        · exact (Act.respects_removeFile _).bind fun _ => respects_pure _
        · exact respects_pure _
      refine trans_of (Keeps _) (hmade.mono (Set.empty_subset _)) ((hremove d).mono ?_)
      rw [hmade.workingDirectory, Set.singleton_subset_iff]
      exact destinationOf_eq_ok hdestination

theorem noNewFiles_clearDestination (layout : Layout) (path : Path) :
    Respects NoNewFiles (clearDestination layout path) := by
  refine (respects_destinationOf Act.noNewFiles_makeDirectories layout path).bind
    fun destination => (Act.respects_pathExists _).bind fun found => ?_
  split
  · exact (Act.noNewFiles_removeFile _).bind fun _ => respects_pure _
  · exact respects_pure _

theorem clearDestination_eq_ok (h : clearDestination layout path w = .ok destination w') :
    layout.signaturePlace? w.workingDirectory path =
      some (destination.placeIn w.workingDirectory) := by
  obtain ⟨target, d, hdestination, h⟩ := bind_eq_ok.1 h
  obtain ⟨found, e, -, h⟩ := bind_eq_ok.1 h
  obtain rfl : target = destination := by
    split at h
    · obtain ⟨_, _, -, h⟩ := bind_eq_ok.1 h
      exact (pure_eq_ok.1 h).1
    · exact (pure_eq_ok.1 h).1
  exact destinationOf_eq_ok hdestination

/-- Where all directories are there, none has to be made. -/
theorem destinationOf_of_opens (hlayout : layout.Resolved)
    (hplace : layout.signaturePlace? w.workingDirectory path = some place)
    (hopens : w.files.Opens place) : ∃ destination : Path,
      destinationOf layout path w = .ok destination w ∧ destination.Resolved ∧
        destination.names = place := by
  have hdots := w.workingDirectory_resolved
  obtain ⟨front, name, hname⟩ := Layout.exists_name_of_signaturePlace? hdots hplace
  obtain ⟨placement, hfound, hsignature, hnames, hdirectory⟩ :=
    Layout.exists_placement hlayout hdots hname
  rw [Layout.signaturePlace?_eq hlayout hdots hname, Option.some.injEq, ← hnames] at hplace
  subst hplace
  refine ⟨placement.signature, ?_, hsignature, rfl⟩
  have habsolute : Act.absolute path w =
      .ok (Path.absolute ⟨.slash, w.workingDirectory⟩ path) w := rfl
  refine bind_eq_ok.2 ⟨_, w, habsolute, bind_eq_ok.2 ⟨placement, w, ?_, ?_⟩⟩
  · exact Act.ofExcept_eq_ok.2 ⟨hfound, rfl⟩
  · rw [hnames] at hopens
    cases hgiven : placement.directory? with
    | none => rfl
    | some directory =>
        obtain ⟨hresolved, hdirectoryNames⟩ := hdirectory directory hgiven
        rw [← hdirectoryNames] at hopens
        obtain ⟨hway, hat⟩ := FileTree.opens_concat_iff.1 hopens
        have hmake := Act.makeDirectories_of_directory
          (hresolved.locate hway w.workingDirectory) hat
        exact bind_eq_ok.2 ⟨(), w, hmake, rfl⟩

/-- Whether or not the clearing fails, there is no file at the place of the signature afterwards. -/
theorem cleared_of_opens (hlayout : layout.Resolved)
    (hplace : layout.signaturePlace? w.workingDirectory path = some place)
    (hopens : w.files.Opens place) (content : Bytes) :
    (finalState (clearDestination layout path) w).files.at? place ≠ some (.file content) := by
  obtain ⟨destination, hdestination, hresolved, rfl⟩ := destinationOf_of_opens hlayout hplace hopens
  have hlocate := hresolved.locate hopens w.workingDirectory
  have hexists : Act.pathExists destination w =
      .ok (w.files.at? destination.names).isSome w := by
    have hfind : w.files.find? w.workingDirectory destination =
        w.files.at? destination.names := by
      rw [FileTree.find?, hlocate]
    rw [← hfind]
    rfl
  rw [clearDestination, finalState_bind_of_ok hdestination, finalState_bind_of_ok hexists]
  cases hat : w.files.at? destination.names with
  | none =>
      change w.files.at? destination.names ≠ _
      simp [hat]
  | some entry =>
      rw [Option.isSome_some, if_pos rfl]
      cases entry with
      | directory =>
          have hrule : w.files.remove w.workingDirectory destination = .error .isDirectory := by
            rw [FileTree.remove, hlocate]
            simp only [bind, Except.bind, hat]
            rfl
          have hremove : Act.removeFile destination w =
              .error (.file ⟨.isDirectory, destination.text, none⟩) w :=
            Act.changeFiles_of_error hrule
          rw [finalState_bind_of_error hremove, hat]
          simp
      | file stale =>
          have hremove : Act.removeFile destination w =
              .ok () { w with files := w.files.erase destination.names } :=
            Act.changeFiles_of_ok (FileTree.remove_eq_ok.2 ⟨_, hlocate, ⟨stale, hat⟩, rfl⟩)
          rw [finalState_bind_of_ok hremove]
          have hfile : w.files.at? destination.names ≠ some .directory := by simp [hat]
          have hne : destination.names ≠ [] := FileTree.ne_nil_of_not_directory hfile
          change (w.files.erase destination.names).at? destination.names ≠ _
          simp [FileTree.at?_erase_self hne]

end Clearing

section Turns

variable {artifact : SignedArtifact} {failure : Failure} {next begun : World} {first : Path}
  {paths : List Path}

/-- A turn ends with the clearing, if that fails, and otherwise the call leaves the files as they
are at the end. -/
theorem turn_cases (signer : Signer) (layout : Layout) (path : Path) (w : World) :
    (∃ failure d, clearDestination layout path w = .error failure d ∧
      signOne signer layout path w = .error failure d) ∨
    ∃ destination cleared, clearDestination layout path w = .ok destination cleared ∧
      (finalState (signer.sign path (some destination)) cleared).SameFiles
        (finalState (signOne signer layout path) w) := by
  cases hclear : clearDestination layout path w with
  | error failure d => exact .inl ⟨failure, d, rfl, bind_eq_error.2 (.inl hclear)⟩
  | ok destination cleared =>
      refine .inr ⟨destination, cleared, rfl, ?_⟩
      rw [signOne, finalState_bind_of_ok hclear]
      cases hsign : signer.sign path (some destination) cleared with
      | error failure d =>
          rw [finalState_of_error hsign, finalState_bind_of_error hsign]
          exact refl_of SameFiles d
      | ok signature d =>
          rw [finalState_of_ok hsign, finalState_bind_of_ok hsign]
          exact ⟨rfl, rfl⟩

theorem signOne_eq_ok (h : signOne signer layout path w = .ok artifact w') :
    ∃ destination cleared signed,
      clearDestination layout path w = .ok destination cleared ∧
      signer.sign path (some destination) cleared = .ok artifact.signature signed ∧
      artifact = ⟨path, artifact.signature, signer.name⟩ ∧ signed.SameFiles w' := by
  obtain ⟨destination, cleared, hclear, h⟩ := bind_eq_ok.1 h
  obtain ⟨signature, signed, hsign, h⟩ := bind_eq_ok.1 h
  obtain ⟨_, _, hreport, h⟩ := bind_eq_ok.1 h
  cases hreport
  obtain ⟨rfl, rfl⟩ := pure_eq_ok.1 h
  exact ⟨destination, cleared, signed, hclear, hsign, rfl, rfl, rfl⟩

/-- A turn changes no file but the one at the place of the signature. -/
theorem keeps_signOne (hsigner : signer.Confined) (layout : Layout) (path : Path) (w : World) :
    w.Keeps {place | layout.signaturePlace? w.workingDirectory path = some place}
      (finalState (signOne signer layout path) w) := by
  have hclearing := keeps_clearDestination layout path w
  rcases turn_cases signer layout path w with
    ⟨failure, d, hclear, hturn⟩ | ⟨destination, cleared, hclear, hturn⟩
  · rw [finalState_of_error hclear] at hclearing
    rwa [finalState_of_error hturn]
  · rw [finalState_of_ok hclear] at hclearing
    have hdestination : {destination.placeIn cleared.workingDirectory} ⊆
        {place | layout.signaturePlace? w.workingDirectory path = some place} := by
      rw [hclearing.workingDirectory, Set.singleton_subset_iff]
      exact clearDestination_eq_ok hclear
    have hcall : cleared.Keeps _ (finalState (signer.sign path (some destination)) cleared) :=
      (hsigner.sign path destination cleared).mono hdestination
    exact trans_of (Keeps _) hclearing (trans_of (Keeps _) hcall hturn.keeps)

theorem finalState_signAll_of_ok (h : signOne signer layout first w = .ok artifact next) :
    finalState (signAll signer layout (first :: paths)) w =
      finalState (signAll signer layout paths) next := by
  rw [signAll, finalState_bind_of_ok h]
  cases hrest : signAll signer layout paths next with
  | ok artifacts d =>
      rw [finalState_bind_of_ok hrest, finalState_of_ok hrest]
      rfl
  | error failure d => rw [finalState_bind_of_error hrest, finalState_of_error hrest]

theorem finalState_signAll_of_error (h : signOne signer layout first w = .error failure next) :
    finalState (signAll signer layout (first :: paths)) w = next := by
  rw [signAll, finalState_bind_of_error h]

/-- A run from one world comes to the turn of an entry in another. -/
inductive Reaches (signer : Signer) (layout : Layout) : World → List Path → Path → World → Prop
  | turn (w : World) (path : Path) (later : List Path) :
      Reaches signer layout w (path :: later) path w
  | later {w next begun : World} {first path : Path} {paths : List Path}
      {artifact : SignedArtifact} :
      signOne signer layout first w = .ok artifact next →
      Reaches signer layout next paths path begun →
      Reaches signer layout w (first :: paths) path begun

theorem Reaches.mem (h : Reaches signer layout w paths path begun) : path ∈ paths := by
  induction h with
  | turn w path later => exact List.mem_cons_self
  | later _ _ ih => exact .tail _ ih

/-- The places of the signatures of the entries that a run comes to. -/
def reachedPlaces (signer : Signer) (layout : Layout) (w : World) (paths : List Path) :
    Set Place :=
  {place | ∃ path begun, Reaches signer layout w paths path begun ∧
    layout.signaturePlace? w.workingDirectory path = some place}

theorem reachedPlaces_later (hsigner : signer.Confined)
    (h : signOne signer layout first w = .ok artifact next) :
    reachedPlaces signer layout next paths ⊆ reachedPlaces signer layout w (first :: paths) := by
  rintro place ⟨path, begun, hreach, hplace⟩
  have hkeeps := keeps_signOne hsigner layout first w
  rw [finalState_of_ok h] at hkeeps
  rw [hkeeps.workingDirectory] at hplace
  exact ⟨path, begun, .later h hreach, hplace⟩

theorem keeps_turn (hsigner : signer.Confined)
    (h : signOne signer layout first w = .ok artifact next) :
    w.Keeps (reachedPlaces signer layout w (first :: paths)) next := by
  rw [← finalState_of_ok h]
  exact (keeps_signOne hsigner layout first w).mono fun place hplace => ⟨first, w, .turn .., hplace⟩

/-- However it ends, a run changes no file but those at the places of the signatures of entries that
it comes to. -/
theorem keeps_signAll (hsigner : signer.Confined) (layout : Layout) (paths : List Path)
    (w : World) : w.Keeps (reachedPlaces signer layout w paths)
      (finalState (signAll signer layout paths) w) := by
  induction paths generalizing w with
  | nil => exact refl_of (Keeps _) w
  | cons first paths ih =>
      cases hturn : signOne signer layout first w with
      | error failure d =>
          rw [finalState_signAll_of_error hturn, ← finalState_of_error hturn]
          exact (keeps_signOne hsigner layout first w).mono
            fun place hplace => ⟨first, w, .turn .., hplace⟩
      | ok artifact next =>
          rw [finalState_signAll_of_ok hturn]
          exact trans_of (Keeps _) (keeps_turn hsigner hturn)
            ((ih next).mono (reachedPlaces_later hsigner hturn))

/-- The same holds up to every turn. -/
theorem Reaches.keeps (hsigner : signer.Confined)
    (h : Reaches signer layout w paths path begun) :
    w.Keeps (reachedPlaces signer layout w paths) begun := by
  induction h with
  | turn w path later => exact refl_of (Keeps _) w
  | later hturn _ ih =>
      exact trans_of (Keeps _) (keeps_turn hsigner hturn)
        (ih.mono (reachedPlaces_later hsigner hturn))

/-- In a run the signer is called in a world without a file, and the file is there afterwards. -/
def Puts (signer : Signer) (layout : Layout) (w : World) (paths : List Path) (place : Place)
    (content : Bytes) : Prop :=
  ∃ path destination begun before, Reaches signer layout w paths path begun ∧
    clearDestination layout path begun = .ok destination before ∧
    before.files.at? place ≠ some (.file content) ∧
    (finalState (signer.sign path (some destination)) before).files.at? place =
      some (.file content)

theorem Puts.later (hturn : signOne signer layout first w = .ok artifact next)
    (h : Puts signer layout next paths place content) :
    Puts signer layout w (first :: paths) place content := by
  obtain ⟨path, destination, begun, before, hreach, hcall⟩ := h
  exact ⟨path, destination, begun, before, .later hturn hreach, hcall⟩

/-- A file that a turn makes is made by its call. -/
theorem puts_of_turn {cleared : World}
    (hclear : clearDestination layout path w = .ok destination cleared)
    (hold : cleared.files.at? place ≠ some (.file content))
    (hcall : (finalState (signer.sign path (some destination)) cleared).SameFiles
      (finalState (signOne signer layout path) w))
    (hnew : (finalState (signOne signer layout path) w).files.at? place = some (.file content)) :
    Puts signer layout w (path :: paths) place content := by
  rw [hcall.files] at hnew
  exact ⟨path, destination, w, cleared, .turn .., hclear, hold, hnew⟩

/-- If a turn does not make the file, a later one does. -/
theorem puts_of_later
    (ih : ∀ next, next.files.at? place ≠ some (.file content) →
      (finalState (signAll signer layout paths) next).files.at? place = some (.file content) →
      Puts signer layout next paths place content)
    (hold : (finalState (signOne signer layout first) w).files.at? place ≠ some (.file content))
    (hnew : (finalState (signAll signer layout (first :: paths)) w).files.at? place =
      some (.file content)) :
    Puts signer layout w (first :: paths) place content := by
  cases hturn : signOne signer layout first w with
  | error failure d =>
      rw [finalState_signAll_of_error hturn] at hnew
      rw [finalState_of_error hturn] at hold
      exact absurd hnew hold
  | ok artifact next =>
      rw [finalState_signAll_of_ok hturn] at hnew
      rw [finalState_of_ok hturn] at hold
      exact (ih next hold hnew).later hturn

/-- A file that was not there before a run has been put there by one of its calls. -/
theorem puts_of_new (hold : w.files.at? place ≠ some (.file content))
    (hnew : (finalState (signAll signer layout paths) w).files.at? place = some (.file content)) :
    Puts signer layout w paths place content := by
  induction paths generalizing w with
  | nil => exact absurd hnew hold
  | cons first paths ih =>
      by_cases hmade : (finalState (signOne signer layout first) w).files.at? place =
          some (.file content)
      · have hclearing := (noNewFiles_clearDestination layout first w).files place content
        rcases turn_cases signer layout first w with
          ⟨failure, d, hclear, hturn⟩ | ⟨destination, cleared, hclear, hcall⟩
        · rw [finalState_of_error hturn] at hmade
          rw [finalState_of_error hclear] at hclearing
          exact absurd (hclearing hmade) hold
        · rw [finalState_of_ok hclear] at hclearing
          exact puts_of_turn hclear (mt hclearing hold) hcall hmade
      · exact puts_of_later (fun next => ih) hmade hnew

/-- A file at the place of the signature of an entry that the run comes to has been put there by
one of its calls, because the turn of the entry has removed what was there. -/
theorem Reaches.puts (hsigner : signer.Confined) (hlayout : layout.Resolved)
    (h : Reaches signer layout w paths path begun)
    (hplace : layout.signaturePlace? w.workingDirectory path = some place)
    (hopens : w.files.Opens place)
    (hnew : (finalState (signAll signer layout paths) w).files.at? place = some (.file content)) :
    Puts signer layout w paths place content := by
  induction h with
  | turn w path later =>
      have hcleared := cleared_of_opens hlayout hplace hopens content
      rcases turn_cases signer layout path w with
        ⟨failure, d, hclear, hturn⟩ | ⟨destination, cleared, hclear, hcall⟩
      · rw [finalState_signAll_of_error hturn] at hnew
        rw [finalState_of_error hclear] at hcleared
        exact absurd hnew hcleared
      · rw [finalState_of_ok hclear] at hcleared
        by_cases hmade : (finalState (signOne signer layout path) w).files.at? place =
            some (.file content)
        · exact puts_of_turn hclear hcleared hcall hmade
        · exact puts_of_later (fun next => puts_of_new) hmade hnew
  | @later w next begun first path paths artifact hturn hreach ih =>
      have hkeeps := keeps_signOne hsigner layout first w
      rw [finalState_of_ok hturn] at hkeeps
      rw [finalState_signAll_of_ok hturn] at hnew
      refine (ih ?_ (hkeeps.files.opens hopens) hnew).later hturn
      rw [hkeeps.workingDirectory]
      exact hplace

end Turns

end Batch

end ArtifactSigning
