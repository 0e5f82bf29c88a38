import ArtifactSigning.Proofs.File.Keeping
import ArtifactSigning.Signing.Batch

/-!
# Places of signatures

The signature of a file lies in one directory, which depends on the directory of the file alone, and
its name is that of the file with the extension. Two files with one name share the place of their
signatures if the layout takes their directories to one.
-/
namespace ArtifactSigning

open Step

variable {names front : List String} {name : String} {workingDirectory : Place} {p q file : Path}

/-- An absolute path without double dots. -/
structure Path.Resolved (p : Path) : Prop where
  isAbsolute : p.isAbsolute = true
  dots : ".." ∉ p.names

namespace Path

theorem Resolved.placeIn (h : p.Resolved) (workingDirectory : Place) :
    p.placeIn workingDirectory = p.names := by
  rw [Path.placeIn, FileTree.origin, if_pos h.isAbsolute, Place.along_eq_append h.dots,
    List.nil_append]

theorem names_absolute_eq_placeIn (h : ".." ∉ workingDirectory) (p : Path) :
    (absolute ⟨.slash, workingDirectory⟩ p).names = p.placeIn workingDirectory :=
  Act.names_absolute h p

theorem resolved_absolute (h : ".." ∉ workingDirectory) (p : Path) :
    (absolute ⟨.slash, workingDirectory⟩ p).Resolved := by
  refine ⟨Act.isAbsolute_absolute p, ?_⟩
  rw [names_absolute_eq_placeIn h]
  refine Place.not_mem_along ?_
  rw [FileTree.origin]
  split
  · exact List.not_mem_nil
  · exact h

theorem parents_concat (root : PathRoot) (front : List String) (name : String) :
    (Path.mk root (front ++ [name])).parents =
      (List.range (front.length + 1)).reverse.map fun count => ⟨root, front.take count⟩ := by
  rw [parents, List.length_append, List.length_singleton]
  refine List.map_congr_left fun count hcount => ?_
  have hle : count ≤ front.length := by
    simpa [Nat.lt_succ_iff] using hcount
  rw [List.take_append_of_le_length hle]

end Path

namespace Layout

variable {layout : Layout}

/-- The directories are absolute and without double dots. -/
def Resolved (layout : Layout) : Prop :=
  ∀ directory, some directory ∈ [layout.output?, layout.build?, layout.base?] → directory.Resolved

theorem resolved_ofPaths (h : ".." ∉ workingDirectory) (output? build? base? : Option Path) :
    (ofPaths ⟨.slash, workingDirectory⟩ output? build? base?).Resolved := by
  have hgiven (given? : Option Path) (directory : Path)
      (hdirectory : some directory = given?.map (Path.absolute ⟨.slash, workingDirectory⟩)) :
      directory.Resolved := by
    obtain ⟨given, -, rfl⟩ := Option.map_eq_some_iff.1 hdirectory.symm
    exact Path.resolved_absolute h given
  intro directory hmem
  simp only [ofPaths, List.mem_cons, List.not_mem_nil, or_false] at hmem
  rcases hmem with houtput | hbuild | hbase
  · exact hgiven _ _ houtput
  · exact hgiven _ _ hbuild
  · exact hgiven _ _ hbase

/-- Whether a file lies in the build directory itself. -/
def InBuild (layout : Layout) (file : Path) : Prop := some file.parent = layout.build?

instance (layout : Layout) (file : Path) : Decidable (layout.InBuild file) :=
  inferInstanceAs (Decidable (some file.parent = layout.build?))

/-- The directory of the signature of a file. -/
def directoryOf (layout : Layout) (file : Path) : Path :=
  match layout.output? with
  | none => file.parent
  | some output =>
      if layout.InBuild file then file.parent
      else { output with names := output.names ++ layout.relativeNames file }

/-- The extension plays no role for the names that lead to a file. -/
theorem relativeNames_concat (layout : Layout) (root : PathRoot) (front : List String)
    (name other : String) :
    layout.relativeNames ⟨root, front ++ [name]⟩ =
      layout.relativeNames ⟨root, front ++ [other]⟩ := by
  simp only [relativeNames, Path.parents_concat]

theorem mem_of_mem_relativeNames {root : PathRoot} {last : String}
    (h : name ∈ layout.relativeNames ⟨root, front ++ [last]⟩) : name ∈ front := by
  rw [relativeNames, Path.parents_concat, List.mem_filter, List.mem_reverse] at h
  obtain ⟨hmem, hname⟩ := h
  obtain ⟨directory, hdirectory, rfl⟩ := List.mem_map.1 hmem
  obtain ⟨count, -, rfl⟩ := List.mem_map.1 ((List.takeWhile_sublist _).subset hdirectory)
  rw [Path.name] at hname ⊢
  cases hlast : (front.take count).getLast? with
  | none =>
      rw [hlast] at hname
      exact absurd rfl (of_decide_eq_true hname)
  | some last => exact List.mem_of_mem_take (List.mem_of_getLast? hlast)

/-- A file with a name has a signature, in the directory that the layout has for it. -/
theorem place_eq (layout : Layout) (h : file.names = front ++ [name]) :
    ∃ directory?, layout.place file = .ok ⟨⟨(layout.directoryOf file).root,
        (layout.directoryOf file).names ++ [name ++ extension]⟩, directory?⟩ ∧
      ∀ directory ∈ directory?, directory = layout.directoryOf file := by
  obtain ⟨root, names⟩ := file
  subst h
  have hbeside : Path.extend ⟨root, front ++ [name]⟩ extension =
      .ok ⟨root, front ++ [name ++ extension]⟩ := by
    simp only [Path.extend, List.getLast?_concat, List.dropLast_concat]
  have hparent (last : String) : Path.parent ⟨root, front ++ [last]⟩ = ⟨root, front⟩ := by
    rw [Path.parent, List.dropLast_concat]
  have hname : Path.name ⟨root, front ++ [name ++ extension]⟩ = name ++ extension := by
    rw [Path.name, List.getLast?_concat, Option.getD_some]
  rw [place, hbeside, directoryOf]
  cases houtput : layout.output? with
  | none => exact ⟨none, by rw [hparent]; rfl, by simp⟩
  | some output =>
      by_cases hbuild : some (⟨root, front⟩ : Path) = layout.build?
      · have hin : layout.InBuild ⟨root, front ++ [name]⟩ := by
          rw [InBuild, hparent]
          exact hbuild
        refine ⟨none, ?_, by simp⟩
        simp only [bind, Except.bind, hparent, if_pos hbuild, if_pos hin]
        rfl
      · have hout : ¬layout.InBuild ⟨root, front ++ [name]⟩ := by
          rw [InBuild, hparent]
          exact hbuild
        refine ⟨some ⟨output.root,
          output.names ++ layout.relativeNames ⟨root, front ++ [name]⟩⟩, ?_,
          fun directory hdirectory => ?_⟩
        · simp only [bind, Except.bind, hparent, if_neg hbuild, if_neg hout, hname,
            relativeNames_concat layout root front (name ++ extension) name]
          rfl
        · simpa only [if_neg hout] using (Option.mem_some.1 hdirectory).symm

theorem resolved_parent (h : file.Resolved) : file.parent.Resolved :=
  ⟨h.isAbsolute, fun hmem => h.dots (List.dropLast_subset _ hmem)⟩

theorem Resolved.directoryOf (h : layout.Resolved) (hfile : file.Resolved)
    (hname : file.names = front ++ [name]) : (layout.directoryOf file).Resolved := by
  rw [Layout.directoryOf]
  split
  · exact resolved_parent hfile
  · rename_i output houtput
    split
    · exact resolved_parent hfile
    · have hresolved := h output (by simp [houtput])
      refine ⟨hresolved.isAbsolute, ?_⟩
      rintro hdots
      rcases List.mem_append.1 hdots with hdots | hdots
      · exact hresolved.dots hdots
      · obtain ⟨root, names⟩ := file
        obtain rfl := hname
        exact hfile.dots (List.mem_append_left _ (mem_of_mem_relativeNames hdots))

/-- An extended name is longer than two dots. -/
theorem extended_ne_dots (name : String) : name ++ extension ≠ ".." := by
  intro h
  have hlength := congrArg String.length h
  have hextension : extension.length = 4 := rfl
  have hdots : "..".length = 2 := rfl
  simp only [String.length_append, hextension, hdots] at hlength
  omega

/-- The place of the signature of a file, seen from a working directory. -/
def signaturePlace? (layout : Layout) (workingDirectory : Place) (p : Path) : Option Place :=
  (layout.place (Path.absolute ⟨.slash, workingDirectory⟩ p)).toOption.map fun placement =>
    placement.signature.placeIn workingDirectory

/-- The directory of the signature of a file, seen from a working directory. -/
def signatureDirectory (layout : Layout) (workingDirectory : Place) (p : Path) : Place :=
  (layout.directoryOf (Path.absolute ⟨.slash, workingDirectory⟩ p)).names

/-- A file with a name has a signature, whose path is absolute and spells its place. -/
theorem exists_placement (hlayout : layout.Resolved) (hdots : ".." ∉ workingDirectory)
    (h : p.placeIn workingDirectory = front ++ [name]) : ∃ placement,
      layout.place (Path.absolute ⟨.slash, workingDirectory⟩ p) = .ok placement ∧
      placement.signature.Resolved ∧ placement.signature.names =
        layout.signatureDirectory workingDirectory p ++ [name ++ extension] ∧
      ∀ directory ∈ placement.directory?, directory.Resolved ∧
        directory.names = layout.signatureDirectory workingDirectory p := by
  have hfile := Path.resolved_absolute hdots p
  have hnames : (Path.absolute ⟨.slash, workingDirectory⟩ p).names = front ++ [name] := by
    rw [Path.names_absolute_eq_placeIn hdots, h]
  obtain ⟨directory?, hplace, hgiven⟩ := layout.place_eq hnames
  have hdirectory := hlayout.directoryOf hfile hnames
  refine ⟨_, hplace, ⟨hdirectory.isAbsolute, fun hmem => ?_⟩, rfl, fun directory hmem => ?_⟩
  · rcases List.mem_append.1 hmem with hmem | hmem
    · exact hdirectory.dots hmem
    · exact extended_ne_dots name (List.mem_singleton.1 hmem).symm
  · rw [hgiven directory hmem]
    exact ⟨hdirectory, rfl⟩

/-- The place of a signature is in its directory, under the name of the file with the extension. -/
theorem signaturePlace?_eq (hlayout : layout.Resolved) (hdots : ".." ∉ workingDirectory)
    (h : p.placeIn workingDirectory = front ++ [name]) :
    layout.signaturePlace? workingDirectory p =
      some (layout.signatureDirectory workingDirectory p ++ [name ++ extension]) := by
  obtain ⟨placement, hplace, hsignature, hnames, -⟩ := exists_placement hlayout hdots h
  rw [signaturePlace?, hplace, ← hnames, ← hsignature.placeIn workingDirectory]
  rfl

/-- Only a file with a name has a signature. -/
theorem exists_name_of_signaturePlace? (hdots : ".." ∉ workingDirectory) {place : Place}
    (h : layout.signaturePlace? workingDirectory p = some place) :
    ∃ front name, p.placeIn workingDirectory = front ++ [name] := by
  rcases List.eq_nil_or_concat (p.placeIn workingDirectory) with hnil | ⟨front, name, hnames⟩
  · have hextend : (Path.absolute ⟨.slash, workingDirectory⟩ p).extend extension =
        .error .invalidValue := by
      rw [Path.extend, Path.names_absolute_eq_placeIn hdots, hnil]
      rfl
    rw [signaturePlace?, Layout.place, hextend] at h
    cases h
  · exact ⟨front, name, by rw [hnames, List.concat_eq_append]⟩

/-- The signatures of two files from different directories lie in one. Either neither file lies in
the build directory itself, and both lie at the same place below the nearest of the three
directories; or one does, and the other has its signature below the output directory just there. -/
def SharesDirectory (layout : Layout) (p q : Path) : Prop :=
  ∃ output, layout.output? = some output ∧
    (¬layout.InBuild p ∧ ¬layout.InBuild q ∧ layout.relativeNames p = layout.relativeNames q ∨
      layout.InBuild p ∧ ¬layout.InBuild q ∧
        p.parent.names = output.names ++ layout.relativeNames q ∨
      ¬layout.InBuild p ∧ layout.InBuild q ∧
        q.parent.names = output.names ++ layout.relativeNames p)

/-- Two files of one name whose signatures lie in one directory. -/
structure Clash (layout : Layout) (p q : Path) : Prop where
  name : p.name = q.name
  directory : layout.SharesDirectory p q

theorem sharesDirectory_iff (layout : Layout) (hne : p.parent.names ≠ q.parent.names) :
    layout.SharesDirectory p q ↔
      (layout.directoryOf p).names = (layout.directoryOf q).names := by
  rw [SharesDirectory, directoryOf, directoryOf]
  cases houtput : layout.output? with
  | none => simpa using hne
  | some output =>
      by_cases hp : layout.InBuild p <;> by_cases hq : layout.InBuild q
      · simpa [hp, hq] using hne
      · simp [hp, hq]
      · simpa [hp, hq] using eq_comm
      · simp [hp, hq]

/-- Two files share the place of their signatures exactly if the layout makes them clash. -/
theorem signaturePlace?_eq_iff {back : List String} {other : String} (hlayout : layout.Resolved)
    (hdots : ".." ∉ workingDirectory) (hp : p.placeIn workingDirectory = front ++ [name])
    (hq : q.placeIn workingDirectory = back ++ [other])
    (hne : p.placeIn workingDirectory ≠ q.placeIn workingDirectory) :
    layout.signaturePlace? workingDirectory p = layout.signaturePlace? workingDirectory q ↔
      layout.Clash (Path.absolute ⟨.slash, workingDirectory⟩ p)
        (Path.absolute ⟨.slash, workingDirectory⟩ q) := by
  rw [signaturePlace?_eq hlayout hdots hp, signaturePlace?_eq hlayout hdots hq, Option.some.injEq,
    List.append_singleton_inj, String.append_left_inj, signatureDirectory, signatureDirectory]
  rw [← Path.names_absolute_eq_placeIn hdots] at hp hq
  rw [← Path.names_absolute_eq_placeIn hdots, ← Path.names_absolute_eq_placeIn hdots] at hne
  generalize Path.absolute ⟨.slash, workingDirectory⟩ p = p at hp hne
  generalize Path.absolute ⟨.slash, workingDirectory⟩ q = q at hq hne
  have hpname : p.name = name := by rw [Path.name, hp, List.getLast?_concat, Option.getD_some]
  have hqname : q.name = other := by rw [Path.name, hq, List.getLast?_concat, Option.getD_some]
  -- Files of one name lie in two directories.
  have hparents (heq : name = other) : p.parent.names ≠ q.parent.names := by
    rw [Path.parent, Path.parent, hp, hq, List.dropLast_concat, List.dropLast_concat]
    rintro rfl
    rw [hp, hq, heq] at hne
    exact hne rfl
  constructor
  · rintro ⟨hdirectory, hnames⟩
    refine ⟨by rw [hpname, hqname, hnames], ?_⟩
    exact (sharesDirectory_iff layout (hparents hnames)).2 hdirectory
  · rintro ⟨hnames, hdirectory⟩
    rw [hpname, hqname] at hnames
    exact ⟨(sharesDirectory_iff layout (hparents hnames)).1 hdirectory, hnames⟩

end Layout

end ArtifactSigning
