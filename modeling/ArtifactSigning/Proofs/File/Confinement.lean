import ArtifactSigning.Proofs.File.Keeping
import Mathlib.Data.List.Nodup
import Mathlib.Data.List.Perm.Subperm

/-!
# What replacing a file leaves alone

A file is replaced through a temporary one. The temporary file is made where nothing is, for among
as many names as there are files, and one more, some name is not taken; so however the replacement
ends, every other file is as it was.
-/
namespace ArtifactSigning

open Step

section Worlds

variable {w w' : World} {p temporary : Path} {α : Type}

namespace World

/-- Files may have changed at two paths, and only if the first of them leads to a place. -/
structure Replaces (temporary p : Path) (before after : World) : Prop where
  keeps : before.Keeps {temporary.placeIn before.workingDirectory,
    p.placeIn before.workingDirectory} after
  same : (∀ place, before.files.locate before.workingDirectory temporary ≠ .ok place) →
    before.SameFiles after

instance (temporary p : Path) : IsPreorder World (Replaces temporary p) where
  refl w := ⟨refl_of (Keeps _) w, fun _ => refl_of SameFiles w⟩
  trans u v w h h' := by
    constructor
    · have hkeeps := h'.keeps
      rw [h.keeps.workingDirectory] at hkeeps
      exact trans_of (Keeps _) h.keeps hkeeps
    · intro hnone
      have hsame := h.same hnone
      refine trans_of SameFiles hsame (h'.same ?_)
      rw [hsame.files, hsame.workingDirectory]
      exact hnone

theorem SameFiles.replaces (h : w.SameFiles w') : w.Replaces temporary p w' :=
  ⟨h.keeps, fun _ => h⟩

/-- Where nothing was, nothing is lost. -/
theorem Replaces.keepsBut (h : w.Replaces temporary p w')
    (hfree : w.files.find? w.workingDirectory temporary = none) : w.KeepsBut p w' := by
  by_cases hlocated : ∃ place, w.files.locate w.workingDirectory temporary = .ok place
  · obtain ⟨place, hplace⟩ := hlocated
    rw [FileTree.find?, hplace] at hfree
    obtain rfl := FileTree.placeIn_of_locate hplace
    refine ⟨h.keeps.files.forget fun content hcontent => ?_, h.keeps.workingDirectory⟩
    cases hfree.symm.trans hcontent
  · exact (h.same (not_exists.1 hlocated)).keeps

end World

namespace Act

open World

theorem respects_writeFile_temporary (temporary p : Path) (content : Bytes) :
    Respects (Replaces temporary p) (writeFile temporary content) := by
  refine respects_changeFiles (fun w files h => ?_) temporary
  refine ⟨⟨(FileTree.Keeps.of_write h).mono ?_, rfl⟩, fun hnone => ?_⟩
  · exact Set.singleton_subset_iff.2 (.inl rfl)
  · obtain ⟨place, hplace, -⟩ := FileTree.write_eq_ok.1 h
    exact absurd hplace (hnone place)

theorem respects_moveFile (temporary p : Path) :
    Respects (Replaces temporary p) (moveFile temporary p) := by
  intro w
  rw [moveFile, finalState_get_bind]
  cases hmove : w.files.move w.workingDirectory temporary p with
  | error rule => exact refl_of (Replaces temporary p) w
  | ok files =>
      refine ⟨⟨.of_move hmove, rfl⟩, fun hnone => ?_⟩
      obtain ⟨place, _, hplace, -⟩ := FileTree.move_eq_ok hmove
      exact absurd hplace (hnone place)

theorem respects_removeIfPresent (temporary p : Path) :
    Respects (Replaces temporary p) (removeIfPresent temporary) := by
  intro w
  rw [removeIfPresent, finalState_get_bind]
  cases hremove : w.files.remove w.workingDirectory temporary with
  | error rule => cases rule <;> exact refl_of (Replaces temporary p) w
  | ok files =>
      refine ⟨⟨(FileTree.Keeps.of_remove hremove).mono ?_, rfl⟩, fun hnone => ?_⟩
      · exact Set.singleton_subset_iff.2 (.inl rfl)
      · obtain ⟨place, hplace, -⟩ := FileTree.remove_eq_ok.1 hremove
        exact absurd hplace (hnone place)

/-- What comes last is done however the first ends. -/
theorem finalState_andFinally (first : Act α) (last : Act Unit) (w : World) :
    finalState (andFinally first last) w = finalState last (finalState first w) := by
  simp only [finalState, andFinally]
  cases hfirst : first w with
  | ok a middle => cases hlast : last middle <;> simp only [hlast]
  | error failure middle => cases hlast : last middle <;> simp only [hlast]

section Names

variable {name : String} {number : Nat}

/-- Zeros in front of digits do not count. -/
theorem ofDigitChars_replicate_append (count : Nat) (digits : List Char) :
    Nat.ofDigitChars 10 (List.replicate count '0' ++ digits) 0 =
      Nat.ofDigitChars 10 digits 0 := by
  induction count with
  | zero => rfl
  | succ count ih => exact ih

theorem temporaryName_injective (name : String) : Function.Injective (temporaryName name) := by
  intro k l h
  have hlists := congrArg String.toList h
  simp only [temporaryName, String.toList_append, String.toList_ofList, List.append_assoc,
    List.append_cancel_left_eq] at hlists
  rw [← List.append_assoc, ← List.append_assoc, List.append_cancel_right_eq] at hlists
  have hvalue := congrArg (Nat.ofDigitChars 10 · 0) hlists
  simpa only [ofDigitChars_replicate_append, Nat.ofDigitChars_ten_toDigits] using hvalue

/-- More names than there are entries are not all taken. -/
theorem exists_free_number (w : World) (p : Path) :
    ∃ number ∈ List.range (w.files.entries.length + 1),
      w.files.find? w.workingDirectory ((Path.absolute ⟨.slash, w.workingDirectory⟩ p.parent).join
        ⟨.relative, [temporaryName p.name number]⟩) = none := by
  by_contra hall
  have htaken : (List.range (w.files.entries.length + 1)).map
      (fun number => directoryOf w.workingDirectory p ++ [temporaryName p.name number]) ⊆
        w.files.entries.map Prod.fst := by
    intro place hplace
    obtain ⟨number, hnumber, rfl⟩ := List.mem_map.1 hplace
    have hfound := mt (fun h => ⟨number, hnumber, h⟩) hall
    rw [FileTree.find?] at hfound
    split at hfound
    · rename_i place hplace
      obtain rfl := locate_temporary w.workingDirectory_resolved hplace
      obtain ⟨entry, hentry, hkey⟩ :=
        FileTree.exists_entry_of_isSome (Option.isSome_iff_ne_none.2 hfound) (by simp)
      exact List.mem_map.2 ⟨entry, hentry, hkey⟩
    · exact absurd rfl hfound
  have hnodup : ((List.range (w.files.entries.length + 1)).map fun number =>
      directoryOf w.workingDirectory p ++ [temporaryName p.name number]).Nodup := by
    refine List.Nodup.map (fun k l h => temporaryName_injective p.name ?_) List.nodup_range
    exact List.singleton_inj.1 (List.append_cancel_left h)
  have hlength := (hnodup.subperm htaken).length_le
  simp only [List.length_map, List.length_range] at hlength
  omega

/-- A temporary file is where nothing is, and there is always one to be had. -/
theorem temporaryFor_free (w : World) (p : Path) : ∃ temporary,
    temporaryFor p w = .ok temporary w ∧
      w.files.find? w.workingDirectory temporary = none := by
  refine ⟨_, rfl, ?_⟩
  obtain ⟨number, hnumber, hfree⟩ := exists_free_number w p
  generalize hfirst : (List.range (w.files.entries.length + 1)).find? _ = first?
  cases first? with
  | some first =>
      have hnone := List.find?_some hfirst
      exact Option.isNone_iff_eq_none.1 hnone
  | none =>
      have htaken := List.find?_eq_none.1 hfirst number hnumber
      exact absurd (Option.isNone_iff_eq_none.2 hfree) htaken

end Names

/-- However a replacement ends, no other file is changed. -/
theorem respects_replaceBy {work : Path → Act α}
    (h : ∀ temporary, Respects (Replaces temporary p) (work temporary)) :
    Respects (KeepsBut p) (replaceBy p work) := by
  intro w
  rw [replaceBy]
  cases hmake : makeDirectories p.parent w with
  | error failure made =>
      rw [finalState_bind_of_error hmake]
      exact ((keeps_makeDirectories p.parent).of_error hmake).mono (Set.empty_subset _)
  | ok u made =>
      have hmade := ((keeps_makeDirectories p.parent).of_ok hmake).mono
        (Set.empty_subset {p.placeIn w.workingDirectory})
      obtain ⟨temporary, hchosen, hfree⟩ := temporaryFor_free made p
      rw [finalState_bind_of_ok hmake, finalState_bind_of_ok hchosen]
      refine trans_of (KeepsBut p) hmade (Replaces.keepsBut ?_ hfree)
      have hnote : Respects (Replaces temporary p) (modify fun w : World =>
          { w with temporaries := w.temporaries ++ [temporary] } : Act Unit) :=
        fun _ => SameFiles.replaces ⟨rfl, rfl⟩
      refine (hnote.bind fun _ => ?_) made
      intro noted
      rw [finalState_andFinally]
      have hwork : Respects (Replaces temporary p) (do
          let result ← work temporary
          moveFile temporary p
          return result) :=
        (h temporary).bind fun _ => (respects_moveFile temporary p).bind fun _ => respects_pure _
      exact trans_of (Replaces temporary p) (hwork noted)
        (respects_removeIfPresent temporary p _)

/-- However the writing of a text ends, no other file is changed. -/
theorem respects_writeText (p : Path) (text : String) :
    Respects (KeepsBut p) (writeText p text) :=
  respects_replaceBy fun temporary => (respects_ofExcept _).bind fun octets =>
    respects_writeFile_temporary temporary p octets

section Blind

variable {r : World → World → Prop} [IsPreorder World r]
  (hfiles : ∀ w files, r w { w with files := files })
include hfiles

theorem respects_moveFile_of_blind (source target : Path) :
    Respects r (moveFile source target) := by
  intro w
  rw [moveFile, finalState_get_bind]
  cases w.files.move w.workingDirectory source target with
  | error rule => exact refl_of r w
  | ok files => exact hfiles w files

theorem respects_removeIfPresent_of_blind (p : Path) : Respects r (removeIfPresent p) := by
  intro w
  rw [removeIfPresent, finalState_get_bind]
  cases w.files.remove w.workingDirectory p with
  | error rule => cases rule <;> exact refl_of r w
  | ok files => exact hfiles w files

/-- Where files do not count, all that counts of a replacement is what fills the temporary file. -/
theorem respects_replaceBy_of_blind
    (htemporaries : ∀ w temporaries, r w { w with temporaries := temporaries })
    {work : Path → Act α} (h : ∀ temporary, Respects r (work temporary)) (p : Path) :
    Respects r (replaceBy p work) := by
  have hdirectories : Respects r (makeDirectories p.parent) :=
    respects_makeDirectories p.parent fun w files _ _ _ => hfiles w files
  have hchoice : Respects r (temporaryFor p) := by
    intro w
    obtain ⟨temporary, hchosen, -⟩ := temporaryFor_free w p
    rw [finalState_of_ok hchosen]
    exact refl_of r w
  refine hdirectories.bind fun _ => hchoice.bind fun temporary => ?_
  have hnote : Respects r (modify fun w : World =>
      { w with temporaries := w.temporaries ++ [temporary] } : Act Unit) :=
    fun w => htemporaries w _
  refine hnote.bind fun _ w => ?_
  rw [finalState_andFinally]
  have hwork : Respects r (do
      let result ← work temporary
      moveFile temporary p
      return result) :=
    (h temporary).bind fun _ =>
      (respects_moveFile_of_blind hfiles temporary p).bind fun _ => respects_pure _
  exact trans_of r (hwork w) (respects_removeIfPresent_of_blind hfiles temporary _)

end Blind

end Act

end Worlds

end ArtifactSigning
