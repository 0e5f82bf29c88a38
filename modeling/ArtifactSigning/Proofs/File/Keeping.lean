import ArtifactSigning.Proofs.File.Replacement
import Mathlib.Data.List.Induction
import Mathlib.Data.Set.Insert

/-!
# What file operations leave alone

An operation on one file leaves every other file as it was, and it leaves all directories; only
where nothing was may something have come. `FileTree.Keeps` says so for trees and `World.Keeps` for
actions, which are described by the world that they end in, whether or not they fail.
-/
namespace ArtifactSigning

open Step

/-- The place that a path stands for in a working directory, by its spelling. -/
def Path.placeIn (workingDirectory : Place) (p : Path) : Place :=
  (FileTree.origin workingDirectory p).along p.names

/-- A path is another one or lies above it, by its spelling. -/
def Path.Above (q p : Path) : Prop := q.root = p.root ∧ q.names <+: p.names

theorem Path.Above.refl (p : Path) : p.Above p := ⟨rfl, List.prefix_rfl⟩

theorem Path.Above.trans {o p q : Path} (h : o.Above p) (h' : p.Above q) : o.Above q :=
  ⟨h.1.trans h'.1, h.2.trans h'.2⟩

theorem Path.parent_above (p : Path) : p.parent.Above p := ⟨rfl, List.dropLast_prefix p.names⟩

section Trees

variable {changed changed' : Set Place} {tree tree' tree'' : FileTree} {place : Place}
  {names : List String} {workingDirectory : Place} {p source : Path} {content : Bytes}
  {entry : FileEntry}

/-- All directories are still there, and so are all files but those at the changed places. -/
structure FileTree.Keeps (changed : Set Place) (before after : FileTree) : Prop where
  directory : ∀ place, before.at? place = some .directory → after.at? place = some .directory
  file : ∀ place content, place ∉ changed → before.at? place = some (.file content) →
    after.at? place = some (.file content)

/-- Every file was there before. -/
def FileTree.NoNewFiles (before after : FileTree) : Prop :=
  ∀ place content, after.at? place = some (.file content) →
    before.at? place = some (.file content)

namespace FileTree

theorem ne_nil_of_not_directory (h : tree.at? place ≠ some .directory) : place ≠ [] := by
  rintro rfl
  exact h rfl

/-- The places above a place are directories. -/
def Opens (tree : FileTree) (place : Place) : Prop :=
  ∀ count < place.length, tree.at? (place.take count) = some .directory

/-- Everything lies in a directory. -/
def WellFormed (tree : FileTree) : Prop :=
  ∀ place, place ≠ [] → (tree.at? place).isSome → tree.at? place.dropLast = some .directory

theorem exists_entry_of_isSome (h : (tree.at? place).isSome) (hne : place ≠ []) :
    ∃ entry ∈ tree.entries, entry.1 = place := by
  by_contra hnone
  have hlookup : tree.entries.lookup place = none := by
    rw [List.lookup_eq_none_iff]
    intro entry hentry
    simpa using fun heq => hnone ⟨entry, hentry, heq.symm⟩
  rw [at?, if_neg hne, hlookup] at h
  cases h

theorem wellFormed_of_entries
    (h : ∀ entry ∈ tree.entries, tree.at? entry.1.dropLast = some .directory) :
    tree.WellFormed := by
  intro place hne hat
  obtain ⟨entry, hentry, rfl⟩ := exists_entry_of_isSome hat hne
  exact h entry hentry

theorem opens_concat_iff {front : Place} {name : String} :
    tree.Opens (front ++ [name]) ↔ tree.Opens front ∧ tree.at? front = some .directory := by
  have hlength : (front ++ [name]).length = front.length + 1 := by
    rw [List.length_append, List.length_singleton]
  constructor
  · intro h
    refine ⟨fun count hcount => ?_, ?_⟩
    · have hat := h count (by omega)
      rwa [List.take_append_of_le_length (by omega)] at hat
    · have hat := h front.length (by omega)
      rwa [List.take_append_of_le_length (Nat.le_refl _), List.take_length] at hat
  · rintro ⟨hfront, hat⟩ count hcount
    rw [List.take_append_of_le_length (by omega)]
    by_cases hlast : count = front.length
    · rw [hlast, List.take_length, hat]
    · exact hfront count (by omega)

theorem WellFormed.opens (h : tree.WellFormed) (hat : (tree.at? place).isSome) :
    tree.Opens place := by
  induction place using List.reverseRecOn with
  | nil => exact fun count hcount => absurd hcount (Nat.not_lt_zero count)
  | append_singleton front name ih =>
      have hfront : tree.at? front = some .directory := by
        simpa using h (front ++ [name]) (by simp) hat
      exact opens_concat_iff.2 ⟨ih (by rw [hfront]; rfl), hfront⟩

/-- Through open directories a spelling without double dots leads to its place. -/
theorem follow_of_opens {start : Place} (hdots : ".." ∉ names)
    (hopens : ∀ count < names.length, tree.at? (start ++ names.take count) = some .directory) :
    tree.follow start names = .ok (start ++ names) := by
  induction names generalizing start with
  | nil => rw [follow, List.append_nil]
  | cons name names ih =>
      have hname : name ≠ ".." := fun heq => hdots (heq ▸ List.mem_cons_self)
      have hstart : tree.at? start = some .directory := by
        simpa using hopens 0 (Nat.zero_lt_succ _)
      rw [follow, hstart]
      simp only [if_neg hname]
      rw [ih (fun hmem => hdots (.tail _ hmem)), List.append_assoc, List.singleton_append]
      intro count hcount
      simpa using hopens (count + 1) (Nat.succ_lt_succ hcount)

theorem placeIn_of_locate (h : tree.locate workingDirectory p = .ok place) :
    place = p.placeIn workingDirectory := along_of_locate h

namespace Keeps

theorem refl (changed : Set Place) (tree : FileTree) : Keeps changed tree tree :=
  ⟨fun _ h => h, fun _ _ _ h => h⟩

theorem trans (h : Keeps changed tree tree') (h' : Keeps changed tree' tree'') :
    Keeps changed tree tree'' where
  directory place hplace := h'.directory place (h.directory place hplace)
  file place content hmem hplace := h'.file place content hmem (h.file place content hmem hplace)

theorem mono (h : Keeps changed tree tree') (hsub : changed ⊆ changed') :
    Keeps changed' tree tree' where
  directory := h.directory
  file place content hmem := h.file place content fun hplace => hmem (hsub hplace)

/-- A place without a file has none that could have changed. -/
theorem forget (h : Keeps (insert place changed) tree tree')
    (hnone : ∀ content, tree.at? place ≠ some (.file content)) : Keeps changed tree tree' where
  directory := h.directory
  file other content hmem hother := by
    refine h.file other content ?_ hother
    rintro (rfl | hchanged)
    · exact hnone content hother
    · exact hmem hchanged

/-- Something new comes where nothing was. -/
theorem put_new (h : tree.at? place = none) : Keeps changed tree (tree.put place entry) := by
  have hne : ∀ other found, tree.at? other = some found → other ≠ place := by
    rintro other found hother rfl
    rw [h] at hother
    cases hother
  constructor
  · intro other hother
    rwa [at?_put_of_ne (hne other _ hother)]
  · intro other content _ hother
    rwa [at?_put_of_ne (hne other _ hother)]

theorem put_file (h : tree.at? place ≠ some .directory) :
    Keeps {place} tree (tree.put place (.file content)) := by
  constructor
  · intro other hother
    have hne : other ≠ place := by
      rintro rfl
      exact h hother
    rwa [at?_put_of_ne hne]
  · intro other content' hmem hother
    rwa [at?_put_of_ne hmem]

theorem erase (h : tree.at? place ≠ some .directory) : Keeps {place} tree (tree.erase place) := by
  constructor
  · intro other hother
    have hne : other ≠ place := by
      rintro rfl
      exact h hother
    rwa [at?_erase_of_ne hne]
  · intro other content' hmem hother
    rwa [at?_erase_of_ne hmem]

/-- Directories are all that is passed on the way, so the way stays open. -/
theorem follow (h : Keeps changed tree tree') {start : Place}
    (hfollow : tree.follow start names = .ok place) : tree'.follow start names = .ok place := by
  induction names generalizing start with
  | nil => exact hfollow
  | cons name names ih =>
      rw [FileTree.follow] at hfollow ⊢
      split at hfollow
      · cases hfollow
      · cases hfollow
      · rename_i hdirectory
        rw [h.directory start hdirectory]
        exact ih hfollow

theorem locate (h : Keeps changed tree tree')
    (hlocate : tree.locate workingDirectory p = .ok place) :
    tree'.locate workingDirectory p = .ok place := h.follow hlocate

theorem opens (h : Keeps changed tree tree') (hopens : tree.Opens place) : tree'.Opens place :=
  fun count hcount => h.directory _ (hopens count hcount)

theorem read (h : Keeps changed tree tree') (hmem : p.placeIn workingDirectory ∉ changed)
    (hread : tree.read workingDirectory p = .ok content) :
    tree'.read workingDirectory p = .ok content := by
  obtain ⟨place, hlocate, hat⟩ := read_eq_ok.1 hread
  obtain rfl := placeIn_of_locate hlocate
  exact read_eq_ok.2 ⟨_, h.locate hlocate, h.file _ _ hmem hat⟩

theorem of_write (h : tree.write workingDirectory p content = .ok tree') :
    Keeps {p.placeIn workingDirectory} tree tree' := by
  obtain ⟨place, hlocate, hat, rfl⟩ := write_eq_ok.1 h
  obtain rfl := placeIn_of_locate hlocate
  exact put_file hat

theorem of_remove (h : tree.remove workingDirectory p = .ok tree') :
    Keeps {p.placeIn workingDirectory} tree tree' := by
  obtain ⟨place, hlocate, ⟨content, hat⟩, rfl⟩ := remove_eq_ok.1 h
  obtain rfl := placeIn_of_locate hlocate
  refine erase ?_
  rw [hat]
  nofun

theorem of_move (h : tree.move workingDirectory source p = .ok tree') :
    Keeps {source.placeIn workingDirectory, p.placeIn workingDirectory} tree tree' := by
  obtain ⟨place, content, hlocate, hat, hwrite⟩ := move_eq_ok h
  obtain rfl := placeIn_of_locate hlocate
  have herase : Keeps {source.placeIn workingDirectory} tree
      (tree.erase (source.placeIn workingDirectory)) := by
    refine erase ?_
    rw [hat]
    nofun
  refine (herase.mono ?_).trans ((of_write hwrite).mono ?_)
  · exact Set.singleton_subset_iff.2 (.inl rfl)
  · exact Set.singleton_subset_iff.2 (.inr rfl)

theorem of_makeDirectory (h : tree.makeDirectory workingDirectory p = .ok tree') :
    Keeps changed tree tree' := by
  obtain ⟨place, -, hat, rfl⟩ := makeDirectory_eq_ok.1 h
  exact put_new hat

end Keeps

namespace NoNewFiles

theorem refl (tree : FileTree) : tree.NoNewFiles tree := fun _ _ h => h

theorem trans (h : tree.NoNewFiles tree') (h' : tree'.NoNewFiles tree'') :
    tree.NoNewFiles tree'' := fun place content hat => h place content (h' place content hat)

theorem of_makeDirectory (h : tree.makeDirectory workingDirectory p = .ok tree') :
    tree.NoNewFiles tree' := by
  obtain ⟨place, -, hat, rfl⟩ := makeDirectory_eq_ok.1 h
  intro other content hother
  by_cases heq : other = place
  · have hne : tree.at? place ≠ some .directory := by
      rw [hat]
      nofun
    rw [heq, at?_put_self (ne_nil_of_not_directory hne)] at hother
    cases hother
  · rwa [at?_put_of_ne heq] at hother

theorem of_remove (h : tree.remove workingDirectory p = .ok tree') : tree.NoNewFiles tree' := by
  obtain ⟨place, -, ⟨content, hat⟩, rfl⟩ := remove_eq_ok.1 h
  intro other content' hother
  by_cases heq : other = place
  · have hne : tree.at? place ≠ some .directory := by
      rw [hat]
      nofun
    rw [heq, at?_erase_self (ne_nil_of_not_directory hne)] at hother
    cases hother
  · rwa [at?_erase_of_ne heq] at hother

end NoNewFiles

end FileTree

end Trees

section Worlds

variable {changed : Set Place} {w w' : World} {p source temporary : Path} {content : Bytes}
  {α : Type}

namespace World

/-- Files and working directory are the same. -/
structure SameFiles (before after : World) : Prop where
  files : after.files = before.files
  workingDirectory : after.workingDirectory = before.workingDirectory

/-- The working directory is the same, and the files are kept but for the changed places. -/
structure Keeps (changed : Set Place) (before after : World) : Prop where
  files : before.files.Keeps changed after.files
  workingDirectory : after.workingDirectory = before.workingDirectory

/-- Every other file than the one at a path is kept. -/
def KeepsBut (p : Path) (before after : World) : Prop :=
  before.Keeps {p.placeIn before.workingDirectory} after

/-- The working directory is the same, and every file was there before. -/
structure NoNewFiles (before after : World) : Prop where
  files : before.files.NoNewFiles after.files
  workingDirectory : after.workingDirectory = before.workingDirectory

instance : IsPreorder World SameFiles where
  refl _ := ⟨rfl, rfl⟩
  trans _ _ _ h h' :=
    ⟨h'.files.trans h.files, h'.workingDirectory.trans h.workingDirectory⟩

instance (changed : Set Place) : IsPreorder World (Keeps changed) where
  refl _ := ⟨.refl _ _, rfl⟩
  trans _ _ _ h h' := ⟨h.files.trans h'.files, h'.workingDirectory.trans h.workingDirectory⟩

instance : IsPreorder World NoNewFiles where
  refl _ := ⟨.refl _, rfl⟩
  trans _ _ _ h h' := ⟨h.files.trans h'.files, h'.workingDirectory.trans h.workingDirectory⟩

instance (p : Path) : IsPreorder World (KeepsBut p) where
  refl w := refl_of (Keeps _) w
  trans _ _ _ h h' := by
    rw [KeepsBut, h.workingDirectory] at h'
    exact trans_of (Keeps _) h h'

theorem Keeps.mono {changed' : Set Place} (h : w.Keeps changed w') (hsub : changed ⊆ changed') :
    w.Keeps changed' w' := ⟨h.files.mono hsub, h.workingDirectory⟩

theorem SameFiles.keeps (h : w.SameFiles w') : w.Keeps changed w' :=
  ⟨h.files ▸ .refl _ _, h.workingDirectory⟩

theorem Keeps.read (h : w.Keeps changed w') (hmem : p.placeIn w.workingDirectory ∉ changed)
    (hread : w.files.read w.workingDirectory p = .ok content) :
    w'.files.read w'.workingDirectory p = .ok content := by
  rw [h.workingDirectory]
  exact h.files.read hmem hread

end World

namespace Act

open World

variable {r : World → World → Prop}

theorem respects_ofExcept [Std.Refl r] (result : Except Failure α) :
    Respects r (ofExcept result) := by
  cases result with
  | ok a => exact respects_pure a
  | error failure => exact respects_throw failure

theorem respects_report_of (hlog : ∀ w entry, r w { w with log := w.log ++ [entry] })
    (origin : LogSource) (level : LogLevel) (message : String) :
    Respects r (report origin level message) := fun w => hlog w _

theorem respects_report (origin : LogSource) (level : LogLevel) (message : String) :
    Respects SameFiles (report origin level message) :=
  respects_report_of (fun _ _ => ⟨rfl, rfl⟩) origin level message

theorem respects_isDirectory [Std.Refl r] (p : Path) : Respects r (isDirectory p) :=
  fun w => refl_of r w

theorem respects_isFile [Std.Refl r] (p : Path) : Respects r (isFile p) := by
  intro w
  have hfind : find? p w = .ok (w.files.find? w.workingDirectory p) w := rfl
  rw [isFile, finalState_bind_of_ok hfind]
  split <;> exact refl_of r w

theorem respects_pathExists [Std.Refl r] (p : Path) : Respects r (pathExists p) :=
  fun w => refl_of r w

theorem respects_readFile [Std.Refl r] (p : Path) : Respects r (readFile p) := by
  intro w
  change r w (finalState (onPath p (w.files.read w.workingDirectory p)) w)
  cases w.files.read w.workingDirectory p <;> exact refl_of r w

section Changes

variable {change : FileTree → Place → Except FileRule FileTree}

theorem changeFiles_of_ok {files : FileTree}
    (h : change w.files w.workingDirectory = .ok files) :
    changeFiles p change w = .ok () { w with files } :=
  bind_eq_ok.2 ⟨w, w, get_eq_ok w, bind_eq_ok.2 ⟨files, w, onPath_eq_ok.2 ⟨h, rfl⟩, rfl⟩⟩

theorem changeFiles_of_error {rule : FileRule}
    (h : change w.files w.workingDirectory = .error rule) :
    changeFiles p change w = .error (.file ⟨rule, p.text, none⟩) w := by
  refine bind_eq_error.2 (.inr ⟨w, w, get_eq_ok w, bind_eq_error.2 (.inl ?_)⟩)
  rw [h]
  rfl

/-- A change of the files takes place or not. -/
theorem respects_changeFiles [Std.Refl r] (h : ∀ ⦃w : World⦄ ⦃files⦄,
    change w.files w.workingDirectory = .ok files → r w { w with files }) (p : Path) :
    Respects r (changeFiles p change) := by
  intro w
  cases hchange : change w.files w.workingDirectory with
  | ok files =>
      rw [finalState_of_ok (changeFiles_of_ok hchange)]
      exact h hchange
  | error rule =>
      rw [finalState_of_error (changeFiles_of_error hchange)]
      exact refl_of r w

end Changes

theorem respects_writeFile (p : Path) (content : Bytes) :
    Respects (KeepsBut p) (writeFile p content) :=
  respects_changeFiles (fun _ _ h => ⟨.of_write h, rfl⟩) p

theorem respects_removeFile (p : Path) : Respects (KeepsBut p) (removeFile p) :=
  respects_changeFiles (fun _ _ h => ⟨.of_remove h, rfl⟩) p

theorem noNewFiles_removeFile (p : Path) : Respects NoNewFiles (removeFile p) :=
  respects_changeFiles (fun _ _ h => ⟨.of_remove h, rfl⟩) p

theorem respects_orDirectory [IsPreorder World r] (p : Path) (rule : FileRule) :
    Respects r (orDirectory p rule) := by
  refine (respects_isDirectory p).bind fun found => ?_
  split
  · exact respects_pure _
  · exact respects_throw _

/-- Directories are made one by one, the one at the top first. -/
theorem respects_makeDirectories [IsPreorder World r] (p : Path)
    (h : ∀ ⦃w : World⦄ ⦃files q⦄, q.Above p →
      w.files.makeDirectory w.workingDirectory q = .ok files → r w { w with files }) :
    Respects r (makeDirectories p) := by
  induction hnames : p.names.length using Nat.strongRecOn generalizing p with
  | ind n ih =>
      intro w
      rw [makeDirectories]
      rw [finalState_get_bind]
      cases hmake : w.files.makeDirectory w.workingDirectory p with
      | ok files => exact h (.refl p) hmake
      | error rule =>
          by_cases hmissing : rule = .missing
          · subst hmissing
            simp only
            by_cases hnone : p.names = []
            · rw [dif_pos hnone]
              exact refl_of r w
            · rw [dif_neg hnone]
              have hlength : p.parent.names.length < n := by
                have hpos := List.length_pos_iff.2 hnone
                rw [Path.parent, List.length_dropLast]
                omega
              refine (ih _ hlength p.parent (fun _ _ _ hq => h (hq.trans p.parent_above)) rfl).bind
                (fun _ => ?_) w
              intro v
              rw [finalState_get_bind]
              cases hagain : v.files.makeDirectory v.workingDirectory p with
              | ok files => exact h (.refl p) hagain
              | error rule =>
                  cases rule with
                  | missing => exact refl_of r v
                  | «exists» | isDirectory | notDirectory => exact respects_orDirectory p _ v
          · cases rule with
            | missing => exact absurd rfl hmissing
            | «exists» | isDirectory | notDirectory => exact respects_orDirectory p _ w

theorem keeps_makeDirectories (p : Path) : Respects (Keeps ∅) (makeDirectories p) :=
  respects_makeDirectories p fun _ _ _ _ h => ⟨.of_makeDirectory h, rfl⟩

theorem noNewFiles_makeDirectories (p : Path) : Respects NoNewFiles (makeDirectories p) :=
  respects_makeDirectories p fun _ _ _ _ h => ⟨.of_makeDirectory h, rfl⟩

/-- A directory that is there is not made again. -/
theorem makeDirectories_of_directory {place : Place}
    (hplace : w.files.locate w.workingDirectory p = .ok place)
    (hat : w.files.at? place = some .directory) : makeDirectories p w = .ok () w := by
  have hmake : w.files.makeDirectory w.workingDirectory p = .error .exists := by
    rw [FileTree.makeDirectory, hplace]
    simp only [bind, Except.bind, hat]
    rfl
  have hfound : w.files.find? w.workingDirectory p = some .directory := by
    rw [FileTree.find?, hplace]
    exact hat
  rw [makeDirectories]
  refine bind_eq_ok.2 ⟨w, w, get_eq_ok w, ?_⟩
  rw [hmake]
  refine bind_eq_ok.2 ⟨true, w, bind_eq_ok.2 ⟨some .directory, w, ?_, rfl⟩, rfl⟩
  exact congrArg (EStateM.Result.ok · w) hfound

end Act

end Worlds

end ArtifactSigning
