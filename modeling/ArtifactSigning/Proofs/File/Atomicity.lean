import ArtifactSigning.Proofs.File.Confinement

/-!
# Replacing a file is all or nothing

A temporary file is filled beside the file that it is to replace. If that succeeds, the file holds
afterwards what the temporary one held; otherwise every file is as it was. Either way the temporary
file is gone, and nothing else has changed but that directories above the file may have come.
-/
namespace ArtifactSigning

open Step

/-- The places of a path and of the paths above it. -/
def Path.placesAbove (workingDirectory : Place) (p : Path) : Set Place :=
  {place | ∃ q : Path, q.Above p ∧ q.placeIn workingDirectory = place}

/-- Outside of some places nothing has changed, but directories have come where nothing was. -/
def FileTree.Gains (directories changed : Set Place) (before after : FileTree) : Prop :=
  ∀ place ∉ changed, after.at? place = before.at? place ∨
    before.at? place = none ∧ after.at? place = some .directory ∧ place ∈ directories

variable {directories changed : Set Place} {tree tree' tree'' : FileTree} {w w' : World}
  {p above temporary : Path} {α : Type}

namespace FileTree.Gains

theorem of_same (h : ∀ place ∉ changed, tree'.at? place = tree.at? place) :
    Gains directories changed tree tree' := fun place hplace => .inl (h place hplace)

theorem trans (h : Gains directories changed tree tree')
    (h' : Gains directories changed tree' tree'') : Gains directories changed tree tree'' := by
  intro place hplace
  rcases h place hplace with hsame | ⟨hnone, hdirectory, hmem⟩
  · rcases h' place hplace with hsame' | ⟨hnone, hdirectory, hmem⟩
    · exact .inl (hsame'.trans hsame)
    · exact .inr ⟨hsame.symm.trans hnone, hdirectory, hmem⟩
  · rcases h' place hplace with hsame | ⟨hnone', -⟩
    · exact .inr ⟨hnone, hsame.trans hdirectory, hmem⟩
    · cases hdirectory.symm.trans hnone'

theorem mono {changed' : Set Place} (h : Gains directories changed tree tree')
    (hsub : changed ⊆ changed') : Gains directories changed' tree tree' :=
  fun place hplace => h place fun hmem => hplace (hsub hmem)

theorem of_makeDirectory {workingDirectory : Place}
    (h : tree.makeDirectory workingDirectory p = .ok tree')
    (hmem : p.placeIn workingDirectory ∈ directories) : Gains directories changed tree tree' := by
  obtain ⟨place, hlocate, hat, rfl⟩ := makeDirectory_eq_ok.1 h
  obtain rfl := placeIn_of_locate hlocate
  have hne : tree.at? (p.placeIn workingDirectory) ≠ some .directory := by
    rw [hat]
    nofun
  intro other _
  by_cases heq : other = p.placeIn workingDirectory
  · rw [heq]
    exact .inr ⟨hat, at?_put_self (ne_nil_of_not_directory hne), hmem⟩
  · exact .inl (at?_put_of_ne heq)

end FileTree.Gains

/-- Nothing but a file at a path may have changed, and only if the path leads to a place. -/
structure FileTree.Fills (workingDirectory : Place) (temporary : Path)
    (before after : FileTree) : Prop where
  others : ∀ place ≠ temporary.placeIn workingDirectory, after.at? place = before.at? place
  directory_iff : after.at? (temporary.placeIn workingDirectory) = some .directory ↔
    before.at? (temporary.placeIn workingDirectory) = some .directory
  same : (∀ place, before.locate workingDirectory temporary ≠ .ok place) → after = before

namespace FileTree.Fills

variable {workingDirectory place : Place} {filled files : FileTree} {content : Bytes}

theorem refl (workingDirectory : Place) (temporary : Path) (tree : FileTree) :
    Fills workingDirectory temporary tree tree := ⟨fun _ _ => rfl, .rfl, fun _ => rfl⟩

theorem trans (h : Fills workingDirectory temporary tree tree')
    (h' : Fills workingDirectory temporary tree' tree'') :
    Fills workingDirectory temporary tree tree'' where
  others place hne := (h'.others place hne).trans (h.others place hne)
  directory_iff := h'.directory_iff.trans h.directory_iff
  same hnone := by
    obtain rfl := h.same hnone
    exact h'.same hnone

theorem of_write (h : tree.write workingDirectory temporary content = .ok tree') :
    Fills workingDirectory temporary tree tree' := by
  obtain ⟨place, hplace, hat, rfl⟩ := write_eq_ok.1 h
  obtain rfl := placeIn_of_locate hplace
  refine ⟨fun other hne => at?_put_of_ne hne, iff_of_false ?_ hat,
    fun hnone => absurd hplace (hnone _)⟩
  rw [at?_put_self (ne_nil_of_not_directory hat)]
  nofun

theorem keeps (h : Fills workingDirectory temporary tree filled) :
    tree.Keeps {temporary.placeIn workingDirectory} filled where
  directory place hplace := by
    by_cases heq : place = temporary.placeIn workingDirectory
    · rw [heq] at hplace ⊢
      exact h.directory_iff.2 hplace
    · exact (h.others place heq).trans hplace
  file place content hmem hplace := (h.others place hmem).trans hplace

/-- If the path leads to a place afterwards, it has led there before. -/
theorem located (h : Fills workingDirectory temporary tree filled)
    (hplace : filled.locate workingDirectory temporary = .ok place) :
    tree.locate workingDirectory temporary = .ok (temporary.placeIn workingDirectory) := by
  by_cases hbefore : ∃ other, tree.locate workingDirectory temporary = .ok other
  · obtain ⟨other, hother⟩ := hbefore
    rw [hother, placeIn_of_locate hother]
  · rw [h.same (not_exists.1 hbefore)] at hplace
    exact absurd ⟨place, hplace⟩ hbefore

variable (hfree : tree.find? workingDirectory temporary = none)
include hfree

theorem at?_of_free
    (hplace : tree.locate workingDirectory temporary = .ok (temporary.placeIn workingDirectory)) :
    tree.at? (temporary.placeIn workingDirectory) = none := by
  rwa [find?, hplace] at hfree

/-- Where nothing was, removing what has come makes everything as before. -/
theorem at?_removed (h : Fills workingDirectory temporary tree filled)
    (hremove : filled.remove workingDirectory temporary = .ok files) (other : Place) :
    files.at? other = tree.at? other := by
  obtain ⟨place, hplace, ⟨content, hcontent⟩, rfl⟩ := remove_eq_ok.1 hremove
  have hnone := at?_of_free hfree (h.located hplace)
  obtain rfl := placeIn_of_locate hplace
  have hfile : filled.at? (temporary.placeIn workingDirectory) ≠ some .directory := by
    rw [hcontent]
    nofun
  by_cases heq : other = temporary.placeIn workingDirectory
  · rw [heq, hnone]
    exact at?_erase_self (ne_nil_of_not_directory hfile)
  · exact (at?_erase_of_ne heq).trans (h.others other heq)

/-- If nothing can be removed, nothing has come. -/
theorem at?_not_removed {rule : FileRule} (h : Fills workingDirectory temporary tree filled)
    (hremove : filled.remove workingDirectory temporary = .error rule) (other : Place) :
    filled.at? other = tree.at? other := by
  by_cases hlocated : ∃ place, tree.locate workingDirectory temporary = .ok place
  · obtain ⟨place, hplace⟩ := hlocated
    obtain rfl := placeIn_of_locate hplace
    have hnone := at?_of_free hfree hplace
    by_cases heq : other = temporary.placeIn workingDirectory
    · rw [heq, hnone]
      cases hat : filled.at? (temporary.placeIn workingDirectory) with
      | none => rfl
      | some entry =>
          cases entry with
          | directory => cases hnone.symm.trans (h.directory_iff.1 hat)
          | file content =>
              cases hremove.symm.trans
                (remove_eq_ok.2 ⟨_, h.keeps.locate hplace, ⟨content, hat⟩, rfl⟩)
    · exact h.others other heq
  · rw [h.same (not_exists.1 hlocated)]

/-- Where nothing was, what has come is moved to its target, and nothing is left. -/
theorem moved (h : Fills workingDirectory temporary tree filled)
    (hne : temporary.placeIn workingDirectory ≠ p.placeIn workingDirectory)
    (hmove : filled.move workingDirectory temporary p = .ok files) :
    files.remove workingDirectory temporary = .error .missing ∧
      tree.Gains directories {p.placeIn workingDirectory} files ∧
      ∃ content, filled.read workingDirectory temporary = .ok content ∧
        files.read workingDirectory p = .ok content := by
  obtain ⟨place, content, hplace, hcontent, hput⟩ := move_eq_ok hmove
  have hread := read_of_write hput
  obtain ⟨target, htarget, -, rfl⟩ := write_eq_ok.1 hput
  have hnone := at?_of_free hfree (h.located hplace)
  have hleft := (Keeps.of_move hmove).locate hplace
  obtain rfl := placeIn_of_locate hplace
  obtain rfl := placeIn_of_locate htarget
  have hfile : filled.at? (temporary.placeIn workingDirectory) ≠ some .directory := by
    rw [hcontent]
    nofun
  have hgone : ((filled.erase (temporary.placeIn workingDirectory)).put
      (p.placeIn workingDirectory) (.file content)).at? (temporary.placeIn workingDirectory) =
        none := by
    rw [at?_put_of_ne hne, at?_erase_self (ne_nil_of_not_directory hfile)]
  refine ⟨?_, .of_same fun other hother => ?_, content, read_eq_ok.2 ⟨_, hplace, hcontent⟩, hread⟩
  · rw [remove, hleft]
    simp only [bind, Except.bind, hgone]
    rfl
  · by_cases heq : other = temporary.placeIn workingDirectory
    · rw [heq, hgone, hnone]
    · rw [at?_put_of_ne hother, at?_erase_of_ne heq, h.others other heq]

end FileTree.Fills

namespace World

/-- Outside of some places nothing has changed, but a path may have been made a directory, and so
may the paths above it. -/
structure Gains (above : Path) (changed : Set Place) (before after : World) : Prop where
  files : before.files.Gains (above.placesAbove before.workingDirectory) changed after.files
  workingDirectory : after.workingDirectory = before.workingDirectory

instance (above : Path) (changed : Set Place) : IsPreorder World (Gains above changed) where
  refl _ := ⟨.of_same fun _ _ => rfl, rfl⟩
  trans u v w h h' := by
    have hfiles := h'.files
    rw [h.workingDirectory] at hfiles
    exact ⟨h.files.trans hfiles, h'.workingDirectory.trans h.workingDirectory⟩

theorem SameFiles.gains (h : w.SameFiles w') : w.Gains above changed w' :=
  ⟨h.files ▸ .of_same fun _ _ => rfl, h.workingDirectory⟩

/-- Nothing but a file at a path may have changed, and only if the path leads to a place. -/
structure Fills (temporary : Path) (before after : World) : Prop where
  files : before.files.Fills before.workingDirectory temporary after.files
  workingDirectory : after.workingDirectory = before.workingDirectory

instance (temporary : Path) : IsPreorder World (Fills temporary) where
  refl w := ⟨.refl _ _ _, rfl⟩
  trans u v w h h' := by
    have hfiles := h'.files
    rw [h.workingDirectory] at hfiles
    exact ⟨h.files.trans hfiles, h'.workingDirectory.trans h.workingDirectory⟩

theorem SameFiles.fills (h : w.SameFiles w') : w.Fills temporary w' :=
  ⟨h.files ▸ .refl _ _ _, h.workingDirectory⟩

end World

namespace Act

open World

theorem gains_makeDirectories (p : Path) (changed : Set Place) :
    Respects (Gains p changed) (makeDirectories p) :=
  respects_makeDirectories p fun _ _ q hq h => ⟨.of_makeDirectory h ⟨q, hq, rfl⟩, rfl⟩

theorem fills_writeFile (temporary : Path) (content : Bytes) :
    Respects (Fills temporary) (writeFile temporary content) :=
  respects_changeFiles (fun _ _ h => ⟨.of_write h, rfl⟩) temporary

/-- A temporary file is chosen where nothing is, and not at the place of the other one. -/
theorem temporaryFor_ok (w : World) (p : Path) : ∃ temporary,
    temporaryFor p w = .ok temporary w ∧ w.files.find? w.workingDirectory temporary = none ∧
      temporary.placeIn w.workingDirectory ≠ p.placeIn w.workingDirectory := by
  obtain ⟨temporary, hchosen, hfree⟩ := temporaryFor_free w p
  obtain ⟨-, number, rfl⟩ := temporaryFor_eq_ok hchosen
  refine ⟨_, hchosen, hfree, ?_⟩
  rw [Path.placeIn, along_temporary w.workingDirectory_resolved]
  exact temporary_ne

/-- Removing ends in a world without the file, or in the same world. -/
theorem finalState_removeIfPresent (temporary : Path) (w : World) :
    finalState (removeIfPresent temporary) w =
      match w.files.remove w.workingDirectory temporary with
      | .ok files => { w with files }
      | .error _ => w := by
  rw [removeIfPresent, finalState_get_bind]
  cases w.files.remove w.workingDirectory temporary with
  | ok files => rfl
  | error rule => cases rule <;> rfl

/-- What has come where nothing was is removed. -/
theorem gains_removeIfPresent {filled : World} (h : w.Fills temporary filled)
    (hfree : w.files.find? w.workingDirectory temporary = none) :
    w.Gains above changed (finalState (removeIfPresent temporary) filled) := by
  rw [finalState_removeIfPresent]
  split
  · rename_i files hremove
    rw [h.workingDirectory] at hremove
    exact ⟨.of_same fun other _ => h.files.at?_removed hfree hremove other, h.workingDirectory⟩
  · rename_i rule hremove
    rw [h.workingDirectory] at hremove
    exact ⟨.of_same fun other _ => h.files.at?_not_removed hfree hremove other,
      h.workingDirectory⟩

/-- A failure stays one, although the cleaning up may fail in its own way. -/
theorem andFinally_of_error {first : Act α} {failure : Failure} {d : World} (last : Act Unit)
    (h : first w = .error failure d) :
    ∃ failure', andFinally first last w = .error failure' (finalState last d) := by
  simp only [andFinally, h, finalState]
  cases last d <;> exact ⟨_, rfl⟩

theorem moveFile_of_error {rule : FileRule}
    (h : w.files.move w.workingDirectory temporary p = .error rule) :
    moveFile temporary p w = .error (.file ⟨rule, temporary.text, some p.text⟩) w := by
  rw [moveFile, bind_of_ok _ (get_eq_ok w), h]
  rfl

theorem moveFile_of_ok {files : FileTree}
    (h : w.files.move w.workingDirectory temporary p = .ok files) :
    moveFile temporary p w = .ok () { w with files } := by
  rw [moveFile, bind_of_ok _ (get_eq_ok w), h]
  rfl

/-- Fills a temporary file and moves it. -/
def fillAndMove (p : Path) (work : Path → Act α) (temporary : Path) : Act α := do
  let result ← work temporary
  moveFile temporary p
  return result

theorem fillAndMove_cases {work : Path → Act α} (p temporary : Path)
    (hwork : Respects (Fills temporary) (work temporary)) (w : World) :
    (∃ failure filled, fillAndMove p work temporary w = .error failure filled ∧
        w.Fills temporary filled) ∨
      ∃ a filled files, work temporary w = .ok a filled ∧ w.Fills temporary filled ∧
        filled.files.move filled.workingDirectory temporary p = .ok files ∧
        fillAndMove p work temporary w = .ok a { filled with files } := by
  rw [fillAndMove]
  cases hfill : work temporary w with
  | error failure filled =>
      exact .inl ⟨failure, filled, bind_of_error _ hfill, hwork.of_error hfill⟩
  | ok a filled =>
      rw [bind_of_ok _ hfill]
      cases hmove : filled.files.move filled.workingDirectory temporary p with
      | error rule =>
          exact .inl ⟨_, filled, bind_of_error _ (moveFile_of_error hmove), hwork.of_ok hfill⟩
      | ok files =>
          exact .inr ⟨a, filled, files, rfl, hwork.of_ok hfill, hmove,
            bind_of_ok _ (moveFile_of_ok hmove)⟩

/-- Nothing is left to be removed after a move. -/
theorem removeIfPresent_of_missing
    (h : w.files.remove w.workingDirectory temporary = .error .missing) :
    removeIfPresent temporary w = .ok () w := by
  rw [removeIfPresent, bind_of_ok _ (get_eq_ok w), h]
  rfl

/-- A replacement either fails, and then no file has changed, or the file holds what its temporary
file was filled with, and then no other file has changed. -/
theorem replaceBy_cases {work : Path → Act α}
    (hwork : ∀ temporary, Respects (Fills temporary) (work temporary)) (p : Path) (w : World) :
    (∃ failure w', replaceBy p work w = .error failure w' ∧ w.Gains p.parent ∅ w') ∨
      ∃ a w' files temporary filled content,
        replaceBy p work w = .ok a w' ∧
        files.find? w.workingDirectory temporary = none ∧
        work temporary { w with files, temporaries := w.temporaries ++ [temporary] } =
          .ok a filled ∧
        filled.files.read filled.workingDirectory temporary = .ok content ∧
        w.Gains p.parent {p.placeIn w.workingDirectory} w' ∧
        w'.files.read w'.workingDirectory p = .ok content := by
  cases hmake : makeDirectories p.parent w with
  | error failure made =>
      exact .inl ⟨failure, made, bind_of_error _ hmake,
        (gains_makeDirectories p.parent ∅).of_error hmake⟩
  | ok u made =>
      have hmade (changed : Set Place) : w.Gains p.parent changed made :=
        (gains_makeDirectories p.parent changed).of_ok hmake
      obtain ⟨files, rfl⟩ := makeDirectories_eq_ok hmake
      obtain ⟨temporary, hchosen, hfree, hne⟩ := temporaryFor_ok { w with files } p
      have hnoted : replaceBy p work w =
          andFinally (fillAndMove p work temporary) (removeIfPresent temporary)
            { w with files, temporaries := w.temporaries ++ [temporary] } := by
        rw [replaceBy, bind_of_ok _ hmake, bind_of_ok _ hchosen]
        rfl
      rw [hnoted]
      rcases fillAndMove_cases p temporary (hwork temporary)
          { w with files, temporaries := w.temporaries ++ [temporary] } with
        ⟨failure, filled, hfailed, hfills⟩ | ⟨a, filled, moved, hfill, hfills, hmove, hend⟩
      · obtain ⟨failure', hend⟩ := andFinally_of_error (removeIfPresent temporary) hfailed
        have hgains : Gains p.parent ∅ _ _ := gains_removeIfPresent hfills hfree
        exact .inl ⟨failure', _, hend, trans_of (Gains p.parent ∅) (hmade ∅)
          ⟨hgains.files, hgains.workingDirectory⟩⟩
      · have hdirectory := hfills.workingDirectory
        rw [hdirectory] at hmove
        obtain ⟨hgone, hgains, content, hread, hcontent⟩ := hfills.files.moved hfree hne hmove
        dsimp only at hgone hgains hread hcontent hdirectory
        rw [← hdirectory] at hgone hread hcontent
        have hafter : Gains p.parent {p.placeIn w.workingDirectory} { w with files }
            { filled with files := moved } := ⟨hgains, hdirectory⟩
        exact .inr ⟨a, _, files, temporary, filled, content,
          andFinally_eq_ok.2 ⟨_, hend, removeIfPresent_of_missing hgone⟩, hfree, hfill, hread,
          trans_of (Gains p.parent _) (hmade _) hafter, hcontent⟩

end Act

end ArtifactSigning
