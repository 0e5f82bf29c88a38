import ArtifactSigning.Proofs.File.Tree
import ArtifactSigning.Proofs.Step
import ArtifactSigning.World

/-!
# Replacing a file by a temporary one

Actions on files change nothing but the files. A file that was replaced by a written text holds the
octets of the text: the temporary file lies at another place than the file it replaces, so that
removing the one leaves the other.
-/
namespace ArtifactSigning

/-- Nothing but the files has changed. -/
def World.SameButFiles (w w' : World) : Prop := ∃ files, { w with files } = w'

theorem World.SameButFiles.refl (w : World) : w.SameButFiles w := ⟨w.files, rfl⟩

theorem World.SameButFiles.trans {u v w : World} (h : u.SameButFiles v) (h' : v.SameButFiles w) :
    u.SameButFiles w := by
  obtain ⟨_, rfl⟩ := h
  obtain ⟨files, rfl⟩ := h'
  exact ⟨files, rfl⟩

namespace Act

open Step

variable {w w' : World} {p temporary : Path} {α : Type}

theorem ofExcept_eq_ok {result : Except Failure α} {a : α} :
    ofExcept result w = .ok a w' ↔ result = .ok a ∧ w = w' := by
  cases result with
  | ok b =>
      rw [ofExcept, pure_eq_ok, Except.ok.injEq]
  | error failure => simp [ofExcept]

theorem onPath_eq_ok {result : Except FileRule α} {a : α} :
    onPath p result w = .ok a w' ↔ result = .ok a ∧ w = w' := by
  cases result with
  | ok b =>
      rw [onPath, pure_eq_ok, Except.ok.injEq]
  | error rule => simp [onPath]

theorem readFile_eq_ok {content : Bytes} :
    readFile p w = .ok content w' ↔
      w.files.read w.workingDirectory p = .ok content ∧ w = w' := onPath_eq_ok

theorem changeFiles_eq_ok {change : FileTree → Place → Except FileRule FileTree} :
    changeFiles p change w = .ok () w' ↔ ∃ files,
      change w.files w.workingDirectory = .ok files ∧ { w with files } = w' := by
  change ((onPath p _ >>= fun files => set { w with files }) : Act Unit) w = _ ↔ _
  rw [bind_eq_ok]
  constructor
  · rintro ⟨files, e, hchange, hset⟩
    obtain ⟨hfiles, rfl⟩ := onPath_eq_ok.1 hchange
    cases hset
    exact ⟨files, hfiles, rfl⟩
  · rintro ⟨files, hfiles, rfl⟩
    exact ⟨files, w, onPath_eq_ok.2 ⟨hfiles, rfl⟩, rfl⟩

theorem writeFile_eq_ok {content : Bytes} :
    writeFile p content w = .ok () w' ↔ ∃ files,
      w.files.write w.workingDirectory p content = .ok files ∧ { w with files } = w' :=
  changeFiles_eq_ok

theorem removeFile_eq_ok :
    removeFile p w = .ok () w' ↔ ∃ files,
      w.files.remove w.workingDirectory p = .ok files ∧ { w with files } = w' :=
  changeFiles_eq_ok

theorem moveFile_eq_ok {source : Path} (h : moveFile source p w = .ok () w') :
    ∃ files, w.files.move w.workingDirectory source p = .ok files ∧ { w with files } = w' := by
  obtain ⟨_, _, hget, hmove⟩ := bind_eq_ok.1 h
  cases hget
  cases hfiles : w.files.move w.workingDirectory source p with
  | ok files =>
      rw [hfiles] at hmove
      cases hmove
      exact ⟨files, rfl, rfl⟩
  | error rule =>
      rw [hfiles] at hmove
      exact absurd hmove throw_ne_ok

theorem removeIfPresent_eq_ok (h : removeIfPresent p w = .ok () w') :
    (∃ files, w.files.remove w.workingDirectory p = .ok files ∧ { w with files } = w') ∨
      w' = w := by
  obtain ⟨_, _, hget, hremove⟩ := bind_eq_ok.1 h
  cases hget
  cases hfiles : w.files.remove w.workingDirectory p with
  | ok files =>
      rw [hfiles] at hremove
      cases hremove
      exact .inl ⟨files, rfl, rfl⟩
  | error rule =>
      rw [hfiles] at hremove
      by_cases hmissing : rule = .missing
      · subst hmissing
        exact .inr (pure_eq_ok.1 hremove).2.symm
      · cases rule <;> first | exact absurd rfl hmissing | exact absurd hremove throw_ne_ok

theorem andFinally_eq_ok {first : Act α} {last : Act Unit} {a : α} :
    andFinally first last w = .ok a w' ↔
      ∃ middle, first w = .ok a middle ∧ last middle = .ok () w' := by
  constructor
  · intro h
    rw [andFinally] at h
    cases hfirst : first w with
    | ok b middle =>
        cases hlast : last middle with
        | ok u e =>
            simp only [hfirst, hlast, EStateM.Result.ok.injEq] at h
            obtain ⟨rfl, rfl⟩ := h
            exact ⟨middle, rfl, hlast⟩
        | error failure e => simp [hfirst, hlast] at h
    | error failure middle => cases hlast : last middle <;> simp [hfirst, hlast] at h
  · rintro ⟨middle, hfirst, hlast⟩
    rw [andFinally, hfirst]
    simp only [hlast]

theorem isDirectory_eq_ok {found : Bool} (h : isDirectory p w = .ok found w') : w' = w := by
  obtain ⟨_, _, hfind, hpure⟩ := bind_eq_ok.1 h
  obtain ⟨-, rfl⟩ := pure_eq_ok.1 hpure
  cases hfind
  rfl

theorem orDirectory_eq_ok {rule : FileRule} (h : orDirectory p rule w = .ok () w') : w' = w := by
  obtain ⟨found, e, hfound, hcheck⟩ := bind_eq_ok.1 h
  obtain rfl := isDirectory_eq_ok hfound
  cases found with
  | true => exact (pure_eq_ok.1 hcheck).2.symm
  | false => exact absurd hcheck throw_ne_ok

/-- Making directories changes nothing but the files. -/
theorem makeDirectories_eq_ok (h : makeDirectories p w = .ok () w') :
    w.SameButFiles w' := by
  induction hnames : p.names.length using Nat.strongRecOn generalizing p w w' with
  | ind n ih =>
      rw [makeDirectories] at h
      obtain ⟨_, _, hget, hmake⟩ := bind_eq_ok.1 h
      cases hget
      cases hfiles : w.files.makeDirectory w.workingDirectory p with
      | ok files =>
          rw [hfiles] at hmake
          cases hmake
          exact ⟨files, rfl⟩
      | error rule =>
          rw [hfiles] at hmake
          by_cases hmissing : rule = .missing
          · subst hmissing
            simp only at hmake
            by_cases hnone : p.names = []
            · rw [dif_pos hnone] at hmake
              exact absurd hmake throw_ne_ok
            · rw [dif_neg hnone] at hmake
              obtain ⟨_, middle, hparent, hmake⟩ := bind_eq_ok.1 hmake
              have hlength : p.parent.names.length < n := by
                have hpos := List.length_pos_iff.2 hnone
                rw [Path.parent, List.length_dropLast]
                omega
              refine (ih _ hlength hparent rfl).trans ?_
              obtain ⟨_, _, hget, hmake⟩ := bind_eq_ok.1 hmake
              cases hget
              cases hfiles : middle.files.makeDirectory middle.workingDirectory p with
              | ok files =>
                  rw [hfiles] at hmake
                  cases hmake
                  exact ⟨files, rfl⟩
              | error rule =>
                  rw [hfiles] at hmake
                  obtain rfl : w' = middle := by
                    cases rule <;>
                      first | exact absurd hmake throw_ne_ok | exact orDirectory_eq_ok hmake
                  exact .refl _
          · obtain rfl : w' = w := by
              cases rule <;> first | exact absurd rfl hmissing | exact orDirectory_eq_ok hmake
            exact .refl _

/-- A temporary file is chosen beside the other one, and nothing is changed. -/
theorem temporaryFor_eq_ok (h : temporaryFor p w = .ok temporary w') :
    w' = w ∧ ∃ number, temporary = (Path.absolute ⟨.slash, w.workingDirectory⟩ p.parent).join
      ⟨.relative, [temporaryName p.name number]⟩ := by
  obtain ⟨directory, _, hdirectory, hrest⟩ := bind_eq_ok.1 h
  cases hdirectory
  obtain ⟨_, _, hget, hpure⟩ := bind_eq_ok.1 hrest
  cases hget
  cases hpure
  exact ⟨rfl, _, rfl⟩

section Temporary

variable {workingDirectory : Place}

/-- The directory of a path, by its spelling. -/
def directoryOf (workingDirectory : Place) (p : Path) : Place :=
  (FileTree.origin workingDirectory p).along p.parent.names

theorem temporaryName_ne (name : String) (number : Nat) : temporaryName name number ≠ name := by
  intro h
  have hlength := congrArg String.length h
  have hsuffix : ".tmp".length = 4 := rfl
  simp only [temporaryName, String.length_append, hsuffix] at hlength
  omega

theorem temporaryName_ne_dots (name : String) (number : Nat) :
    temporaryName name number ≠ ".." := by
  intro h
  have hlength := congrArg String.length h
  have hsuffix : ".tmp".length = 4 := rfl
  have hdots : "..".length = 2 := rfl
  simp only [temporaryName, String.length_append, hsuffix, hdots] at hlength
  omega

theorem names_absolute (h : ".." ∉ workingDirectory) (p : Path) :
    (Path.absolute ⟨.slash, workingDirectory⟩ p).names =
      (FileTree.origin workingDirectory p).along p.names := by
  rw [Path.absolute, Path.join, FileTree.origin]
  by_cases habsolute : p.isAbsolute
  · simp only [if_pos habsolute]
    rfl
  · simp only [if_neg habsolute, Place.resolveDots_eq, Place.along_append,
      Place.along_eq_append h, List.nil_append]

theorem isAbsolute_absolute (p : Path) :
    (Path.absolute ⟨.slash, workingDirectory⟩ p).isAbsolute = true := by
  rw [Path.absolute, Path.join]
  by_cases habsolute : p.isAbsolute
  · simp only [if_pos habsolute]
    exact habsolute
  · simp only [if_neg habsolute]
    rfl

/-- The place of a temporary file is in the directory of the other one. -/
theorem along_temporary {number : Nat} (h : ".." ∉ workingDirectory) :
    let temporary := (Path.absolute ⟨.slash, workingDirectory⟩ p.parent).join
      ⟨.relative, [temporaryName p.name number]⟩
    (FileTree.origin workingDirectory temporary).along temporary.names =
      directoryOf workingDirectory p ++ [temporaryName p.name number] := by
  have hdirectory := names_absolute h p.parent
  have hroot : (Path.absolute ⟨.slash, workingDirectory⟩ p.parent).isAbsolute = true :=
    isAbsolute_absolute p.parent
  generalize Path.absolute ⟨.slash, workingDirectory⟩ p.parent = directory at *
  have hjoin : directory.join ⟨.relative, [temporaryName p.name number]⟩ =
      ⟨directory.root, directory.names ++ [temporaryName p.name number]⟩ := rfl
  have horigin : FileTree.origin workingDirectory
      ⟨directory.root, directory.names ++ [temporaryName p.name number]⟩ = [] := if_pos hroot
  have hdots : ".." ∉ directory.names := by
    rw [hdirectory]
    refine Place.not_mem_along ?_
    rw [FileTree.origin]
    split
    · exact List.not_mem_nil
    · exact h
  dsimp only
  rw [hjoin, horigin, Place.along_append, Place.along_eq_append hdots, List.nil_append,
    Place.along_singleton (temporaryName_ne_dots _ _), hdirectory]
  rfl

theorem locate_temporary {tree : FileTree} {place : Place} {number : Nat}
    (h : ".." ∉ workingDirectory)
    (hlocate : tree.locate workingDirectory ((Path.absolute ⟨.slash, workingDirectory⟩
      p.parent).join ⟨.relative, [temporaryName p.name number]⟩) = .ok place) :
    place = directoryOf workingDirectory p ++ [temporaryName p.name number] :=
  (FileTree.along_of_locate hlocate).trans (along_temporary h)

/-- No path has its temporary file at its own place. -/
theorem temporary_ne {number : Nat} :
    directoryOf workingDirectory p ++ [temporaryName p.name number] ≠
      (FileTree.origin workingDirectory p).along p.names := by
  rw [directoryOf, Path.parent, Path.name]
  generalize FileTree.origin workingDirectory p = origin
  rcases List.eq_nil_or_concat p.names with hnil | ⟨front, name, hnames⟩
  · intro h
    rw [hnil] at h
    have hlength := congrArg List.length h
    simp at hlength
  · simp only [hnames, List.concat_eq_append, List.dropLast_concat, List.getLast?_concat,
      Option.getD_some, Place.along_append]
    generalize Place.along origin front = directory
    intro h
    by_cases hdots : name = ".."
    · have hlength := congrArg List.length h
      rw [hdots] at hlength
      change _ = directory.dropLast.length at hlength
      rw [List.length_append, List.length_dropLast] at hlength
      simp only [List.length_singleton] at hlength
      omega
    · rw [Place.along_singleton hdots, List.append_cancel_left_eq, List.singleton_inj] at h
      exact temporaryName_ne _ _ h

end Temporary

/-- A replacement prepares the directory, chooses a temporary file, lets it be filled, moves it and
removes it. -/
theorem replaceBy_eq_ok {work : Path → Act α} {a : α} (h : replaceBy p work w = .ok a w') :
    ∃ files number temporary filled moved,
      temporary = (Path.absolute ⟨.slash, w.workingDirectory⟩ p.parent).join
        ⟨.relative, [temporaryName p.name number]⟩ ∧
      work temporary { w with files, temporaries := w.temporaries ++ [temporary] } =
        .ok a filled ∧
      moveFile temporary p filled = .ok () moved ∧
      removeIfPresent temporary moved = .ok () w' := by
  obtain ⟨_, made, hmake, h⟩ := bind_eq_ok.1 h
  obtain ⟨files, rfl⟩ := makeDirectories_eq_ok hmake
  obtain ⟨temporary, _, hchosen, h⟩ := bind_eq_ok.1 h
  obtain ⟨rfl, number, htemporary⟩ := temporaryFor_eq_ok hchosen
  obtain ⟨_, _, hnoted, h⟩ := bind_eq_ok.1 h
  cases hnoted
  obtain ⟨moved, hwork, hremove⟩ := andFinally_eq_ok.1 h
  obtain ⟨_, filled, hfill, hwork⟩ := bind_eq_ok.1 hwork
  obtain ⟨_, _, hmove, hwork⟩ := bind_eq_ok.1 hwork
  obtain ⟨rfl, rfl⟩ := pure_eq_ok.1 hwork
  exact ⟨files, number, temporary, filled, _, htemporary, hfill, hmove, hremove⟩

section Text

variable {text : String}

/-- A text is written to a temporary file, which is then moved and removed. -/
theorem writeText_eq_ok (h : writeText p text w = .ok () w') :
    ∃ octets files number temporary filled replaced,
      asciiOctets text = .ok octets ∧
      temporary = (Path.absolute ⟨.slash, w.workingDirectory⟩ p.parent).join
        ⟨.relative, [temporaryName p.name number]⟩ ∧
      FileTree.write files w.workingDirectory temporary octets = .ok filled ∧
      filled.move w.workingDirectory temporary p = .ok replaced ∧
      removeIfPresent temporary
        { w with files := replaced, temporaries := w.temporaries ++ [temporary] } = .ok () w' := by
  obtain ⟨files, number, temporary, _, _, htemporary, hfill, hmove, hremove⟩ := replaceBy_eq_ok h
  obtain ⟨octets, _, hascii, hwrite⟩ := bind_eq_ok.1 hfill
  obtain ⟨hoctets, rfl⟩ := ofExcept_eq_ok.1 hascii
  obtain ⟨filled, hfilled, rfl⟩ := writeFile_eq_ok.1 hwrite
  obtain ⟨replaced, hreplaced, rfl⟩ := moveFile_eq_ok hmove
  exact ⟨octets, files, number, temporary, filled, replaced, hoctets, htemporary, hfilled,
    hreplaced, hremove⟩

/-- Writing a text changes nothing but the files, and notes one temporary file. -/
theorem sameButFiles_of_writeText (h : writeText p text w = .ok () w') :
    ∃ temporary, { w with temporaries := w.temporaries ++ [temporary] }.SameButFiles w' := by
  obtain ⟨_, _, _, temporary, _, replaced, -, -, -, -, hremove⟩ := writeText_eq_ok h
  refine ⟨temporary, ?_⟩
  rcases removeIfPresent_eq_ok hremove with ⟨files, -, rfl⟩ | rfl
  · exact ⟨files, rfl⟩
  · exact ⟨replaced, rfl⟩

/-- A replaced file holds what its temporary file was filled with. -/
theorem read_of_writeText (h : writeText p text w = .ok () w') :
    ∃ octets, asciiOctets text = .ok octets ∧
      w'.files.read w'.workingDirectory p = .ok octets := by
  obtain ⟨octets, files, number, _, filled, replaced, hoctets, rfl, hfilled, hreplaced, hremove⟩ :=
    writeText_eq_ok h
  refine ⟨octets, hoctets, ?_⟩
  have hdots := w.workingDirectory_resolved
  -- The temporary file is read where it was written.
  obtain ⟨place, content, hplace, hcontent, hput⟩ := FileTree.move_eq_ok hreplaced
  obtain ⟨place', hplace', hdirectory, rfl⟩ := FileTree.write_eq_ok.1 hfilled
  obtain rfl := locate_temporary hdots hplace
  obtain rfl := locate_temporary hdots hplace'
  rw [FileTree.at?_put_self (by simp)] at hcontent
  obtain rfl : octets = content := by
    simpa using hcontent
  have hread := FileTree.read_of_write hput
  obtain ⟨target, htarget, -, rfl⟩ := FileTree.write_eq_ok.1 hput
  have hne : directoryOf w.workingDirectory p ++ [temporaryName p.name number] ≠ target := by
    rw [FileTree.along_of_locate htarget]
    exact temporary_ne
  -- It is not there any more, so removing it does nothing.
  rcases removeIfPresent_eq_ok hremove with ⟨left, hleft, -⟩ | rfl
  · obtain ⟨gone, hgone, ⟨_, hthere⟩, -⟩ := FileTree.remove_eq_ok.1 hleft
    obtain rfl := locate_temporary hdots hgone
    simp only at hthere
    rw [FileTree.at?_put_of_ne hne, FileTree.at?_erase_self (by simp)] at hthere
    cases hthere
  · exact hread

/-- A text is ASCII if its characters are, and its octets are read as the text again. -/
theorem asciiOctets_eq_ok {octets : Bytes} :
    asciiOctets text = .ok octets ↔
      (∀ c ∈ text.toList, c.toNat < 0x80) ∧
        (text.toList.map fun c => UInt8.ofNat c.toNat) = octets := by
  rw [asciiOctets]
  split
  · rename_i hall
    rw [Except.ok.injEq]
    rw [List.all_eq_true] at hall
    exact (and_iff_right fun c hc => of_decide_eq_true (hall c hc)).symm
  · rename_i hall
    simp only [reduceCtorEq, false_iff, not_and]
    intro hascii
    exact absurd (List.all_eq_true.2 fun c hc => decide_eq_true (hascii c hc)) hall

end Text

end Act

end ArtifactSigning
