import ArtifactSigning.Proofs.File.Spelling
import ArtifactSigning.Proofs.Signing.Placement

/-!
# The nearest of the three directories

Going up from the directory of a file, the first output, build or base directory is the nearest
one, and the root of all files counts if there is none. Below the output directory a signature has
the place that its file has below the nearest directory.
-/
namespace ArtifactSigning

namespace Path

/-- The names of a path that a text spells are not empty. -/
theorem empty_not_mem_names (text : String) : "" ∉ (ofText text).names := by
  intro h
  have hkept := (List.mem_filter.1 h).2
  simp at hkept

theorem empty_not_mem_absolute {workingDirectory : Place} (hdots : ".." ∉ workingDirectory)
    (hempty : "" ∉ workingDirectory) (text : String) :
    "" ∉ (absolute ⟨.slash, workingDirectory⟩ (ofText text)).names := by
  rw [names_absolute_eq_placeIn hdots, placeIn, FileTree.origin]
  intro h
  rcases Place.mem_of_mem_along h with hstart | hnames
  · split at hstart
    · exact List.not_mem_nil hstart
    · exact hempty hstart
  · exact empty_not_mem_names text hnames

theorem parents_concat_concat (root : PathRoot) (front : List String) (directory name : String) :
    (Path.mk root (front ++ [directory] ++ [name])).parents =
      ⟨root, front ++ [directory]⟩ :: (Path.mk root (front ++ [name])).parents := by
  have hwhole : (front ++ [directory]).take (front.length + 1) = front ++ [directory] :=
    List.take_of_length_le (by simp)
  rw [parents_concat, parents_concat, List.length_append, List.length_singleton,
    List.range_succ, List.reverse_append, List.reverse_singleton, List.singleton_append,
    List.map_cons, hwhole]
  congr 1
  refine List.map_congr_left fun count hcount => ?_
  have hle : count ≤ front.length := by
    simpa [Nat.lt_succ_iff] using hcount
  rw [List.take_append_of_le_length hle]

theorem Above.eq_of_above {p q : Path} (h : p.Above q) (h' : q.Above p) : p = q := by
  obtain ⟨root, names⟩ := p
  obtain ⟨root', names'⟩ := q
  obtain ⟨rfl, hnames⟩ := h
  obtain rfl := hnames.eq_of_length_le h'.2.length_le
  rfl

/-- Of two paths above a third one, one is above the other. -/
theorem Above.total {p q r : Path} (hp : p.Above r) (hq : q.Above r) : p.Above q ∨ q.Above p := by
  rcases List.prefix_or_prefix_of_prefix hp.2 hq.2 with hnames | hnames
  · exact .inl ⟨hp.1.trans hq.1.symm, hnames⟩
  · exact .inr ⟨hq.1.trans hp.1.symm, hnames⟩

/-- What lies above a directory is this directory or lies above its parent. -/
theorem above_concat_iff {q : Path} {root : PathRoot} {front : List String} {name : String} :
    q.Above ⟨root, front ++ [name]⟩ ↔ q = ⟨root, front ++ [name]⟩ ∨ q.Above ⟨root, front⟩ := by
  obtain ⟨root', names⟩ := q
  simp only [Above, List.prefix_concat_iff, Path.mk.injEq]
  exact and_or_left

end Path

namespace Layout

variable {layout : Layout} {directory nearest other file : Path} {root : PathRoot}
  {front : List String} {name : String}

/-- A directory is the nearest of the three above another one, or the root of all files if none of
the three is above it. -/
structure IsNearest (layout : Layout) (directory nearest : Path) : Prop where
  above : nearest.Above directory
  chosen : some nearest ∈ [layout.output?, layout.build?, layout.base?] ∨ nearest.names = []
  first : ∀ other, some other ∈ [layout.output?, layout.build?, layout.base?] →
    other.Above directory → nearest.Above other → other = nearest

theorem isRoot_iff : layout.isRoot directory = true ↔
    some directory ∈ [layout.output?, layout.build?, layout.base?] := by
  rw [isRoot, List.contains_iff_mem]

theorem IsNearest.above_of_isNearest (h : layout.IsNearest directory nearest)
    (h' : layout.IsNearest directory other) (habove : nearest.Above other) : other = nearest := by
  rcases h'.chosen with hchosen | hroot
  · exact h.first other hchosen h'.above habove
  · refine Path.Above.eq_of_above ⟨habove.1.symm, ?_⟩ habove
    rw [hroot]
    exact List.nil_prefix

/-- There is only one nearest directory. -/
theorem IsNearest.unique (h : layout.IsNearest directory nearest)
    (h' : layout.IsNearest directory other) : other = nearest := by
  rcases h.above.total h'.above with habove | habove
  · exact h.above_of_isNearest h' habove
  · exact (h'.above_of_isNearest h habove).symm

theorem isNearest_self (h : some directory ∈ [layout.output?, layout.build?, layout.base?]) :
    layout.IsNearest directory directory where
  above := .refl directory
  chosen := .inl h
  first := fun _ _ habove hbehind => habove.eq_of_above hbehind

/-- Without one of the three at the directory itself, the nearest one is that of its parent. -/
theorem IsNearest.concat (h : layout.IsNearest ⟨root, front⟩ nearest)
    (hother : some ⟨root, front ++ [name]⟩ ∉ [layout.output?, layout.build?, layout.base?]) :
    layout.IsNearest ⟨root, front ++ [name]⟩ nearest where
  above := h.above.trans ⟨rfl, List.prefix_append front [name]⟩
  chosen := h.chosen
  first := by
    intro other hchosen habove hbehind
    rcases Path.above_concat_iff.1 habove with rfl | habove
    · exact absurd hchosen hother
    · exact h.first other hchosen habove hbehind

theorem isNearest_root (root : PathRoot) (layout : Layout) :
    layout.IsNearest ⟨root, []⟩ ⟨root, []⟩ where
  above := .refl _
  chosen := .inr rfl
  first := fun _ _ habove hbehind => habove.eq_of_above hbehind

/-- The names of a file end at the first of the three directories. -/
theorem relativeNames_concat_concat (layout : Layout) (root : PathRoot) (front : List String)
    (directory name : String) :
    layout.relativeNames ⟨root, front ++ [directory] ++ [name]⟩ =
      if layout.isRoot ⟨root, front ++ [directory]⟩ then []
      else layout.relativeNames ⟨root, front ++ [name]⟩ ++ [directory].filter (· ≠ "") := by
  have hname : Path.name ⟨root, front ++ [directory]⟩ = directory := by
    rw [Path.name, List.getLast?_concat, Option.getD_some]
  rw [relativeNames, Path.parents_concat_concat]
  cases hroot : layout.isRoot ⟨root, front ++ [directory]⟩ with
  | true => simp [hroot]
  | false =>
      rw [List.takeWhile_cons_of_pos (by simp [hroot]), List.map_cons, List.reverse_cons,
        List.filter_append, hname]
      rfl

/-- The names that lead to a file are those from the nearest directory. -/
theorem exists_isNearest (layout : Layout) (root : PathRoot) (hfront : "" ∉ front)
    (name : String) : ∃ nearest, layout.IsNearest ⟨root, front⟩ nearest ∧
      front = nearest.names ++ layout.relativeNames ⟨root, front ++ [name]⟩ := by
  induction front using List.reverseRecOn with
  | nil =>
      refine ⟨⟨root, []⟩, isNearest_root root layout, ?_⟩
      have hempty : layout.relativeNames ⟨root, [name]⟩ = [] := by
        refine List.eq_nil_iff_forall_not_mem.2 fun other hmem => ?_
        have hnil : other ∈ [] := mem_of_mem_relativeNames hmem
        exact absurd hnil List.not_mem_nil
      exact hempty.symm
  | append_singleton front directory ih =>
      have hdirectory : directory ≠ "" := by
        rintro rfl
        exact hfront (by simp)
      rw [relativeNames_concat_concat]
      by_cases hroot : layout.isRoot ⟨root, front ++ [directory]⟩ = true
      · refine ⟨⟨root, front ++ [directory]⟩, isNearest_self (isRoot_iff.1 hroot), ?_⟩
        rw [if_pos hroot, List.append_nil]
      · obtain ⟨nearest, hnearest, hnames⟩ := ih fun hmem => hfront (List.mem_append_left _ hmem)
        refine ⟨nearest, hnearest.concat (mt isRoot_iff.2 hroot), ?_⟩
        have hkept : [directory].filter (· ≠ "") = [directory] := by simp [hdirectory]
        rw [if_neg hroot, hkept, ← List.append_assoc, ← hnames]

/-- The path of the signature of a file in a directory. -/
def signatureIn (directory file : Path) : Path :=
  directory.join ⟨.relative, [file.name ++ extension]⟩

theorem signatureIn_eq (directory file : Path) : signatureIn directory file =
    ⟨directory.root, directory.names ++ [file.name ++ extension]⟩ := rfl

theorem signature_of_place (layout : Layout) (h : file.names ≠ []) :
    Placement.signature <$> layout.place file =
      .ok (signatureIn (layout.directoryOf file) file) := by
  obtain ⟨front, name, hnames⟩ := (List.eq_nil_or_concat file.names).resolve_left h
  rw [List.concat_eq_append] at hnames
  obtain ⟨directory?, hplace, -⟩ := layout.place_eq hnames
  have hname : file.name = name := by
    rw [Path.name, hnames, List.getLast?_concat, Option.getD_some]
  rw [hplace, signatureIn_eq, hname]
  rfl

theorem directoryOf_of_output {output : Path} (houtput : layout.output? = some output)
    (hbuild : some file.parent ≠ layout.build?) :
    layout.directoryOf file = output.join ⟨.relative, layout.relativeNames file⟩ := by
  rw [directoryOf, houtput]
  exact if_neg hbuild

theorem directoryOf_of_beside (h : layout.output? = none ∨ some file.parent = layout.build?) :
    layout.directoryOf file = file.parent := by
  rw [directoryOf]
  split
  · rfl
  · rename_i houtput
    rw [houtput] at h
    exact if_pos (h.resolve_left (by simp))

theorem parent_signatureIn (directory file : Path) :
    (signatureIn directory file).parent = directory := by
  rw [signatureIn_eq, Path.parent, List.dropLast_concat]

/-- With an output directory, a signature has the place below it that its file has below the nearest
directory. -/
theorem signature_of_output {output : Path} (houtput : layout.output? = some output)
    (hempty : "" ∉ file.names) (hname : file.names ≠ [])
    (hbuild : some file.parent ≠ layout.build?) (hdots : ".." ∉ (layout.directoryOf file).names) :
    ∃ nearest, layout.IsNearest file.parent nearest ∧
      ∃ below signature, file.parent.names = nearest.names ++ below ∧
        signature = signatureIn (output.join ⟨.relative, below⟩) file ∧
        Placement.signature <$> layout.place file = .ok signature ∧
        output.Above signature.parent ∧ ".." ∉ signature.names ∧
        (nearest = output → signature = signatureIn file.parent file) := by
  obtain ⟨front, name, hconcat⟩ := (List.eq_nil_or_concat file.names).resolve_left hname
  rw [List.concat_eq_append] at hconcat
  have hparent : file.parent = ⟨file.root, front⟩ := by
    rw [Path.parent, hconcat, List.dropLast_concat]
  have hwhole : (⟨file.root, front ++ [name]⟩ : Path) = file := by rw [← hconcat]
  obtain ⟨nearest, hnearest, hbelow⟩ := layout.exists_isNearest file.root
    (fun hmem => hempty (hconcat ▸ List.mem_append_left _ hmem)) name
  rw [hwhole] at hbelow
  rw [← hparent] at hnearest
  have hplace := layout.signature_of_place hname
  rw [directoryOf_of_output houtput hbuild] at hplace hdots
  refine ⟨nearest, hnearest, layout.relativeNames file, _, by rw [hparent]; exact hbelow, rfl,
    hplace, ?_, ?_, ?_⟩
  · rw [parent_signatureIn]
    exact ⟨rfl, List.prefix_append _ _⟩
  · intro hmem
    rcases List.mem_append.1 hmem with hmem | hmem
    · exact hdots hmem
    · exact extended_ne_dots _ (List.mem_singleton.1 hmem).symm
  · rintro rfl
    have hroot : nearest.root = file.root := hnearest.above.1
    rw [hparent, hbelow, ← hroot]
    rfl

/-- Where the signature of a file goes, by the nearest of the three directories. -/
theorem signature_below_nearest {start workingDirectory : Place} (hstart : ".." ∉ start)
    (hdots : ".." ∉ workingDirectory) (hempty : "" ∉ workingDirectory)
    (output? build? base? : Option Path) (text : String) :
    let layout := ofPaths ⟨.slash, start⟩ output? build? base?
    let file := Path.absolute ⟨.slash, workingDirectory⟩ (.ofText text)
    let signatureOf (p : Path) :=
      Placement.signature <$> layout.place (Path.absolute ⟨.slash, workingDirectory⟩ p)
    (Path.Respelled workingDirectory (.ofText text) file ∧ file.Resolved ∧ "" ∉ file.names) ∧
      (file.names = [] → signatureOf (.ofText text) = .error .invalidValue) ∧
      (file.names ≠ [] → output? = none ∨ some file.parent = layout.build? →
        signatureOf (.ofText text) = .ok (signatureIn file.parent file)) ∧
      (∀ output, layout.output? = some output → file.names ≠ [] →
        some file.parent ≠ layout.build? →
        ∃ nearest, layout.IsNearest file.parent nearest ∧
          (∀ other, layout.IsNearest file.parent other → other = nearest) ∧
          ∃ below signature, file.parent.names = nearest.names ++ below ∧
            signature = signatureIn (output.join ⟨.relative, below⟩) file ∧
            signatureOf (.ofText text) = .ok signature ∧
            output.Above signature.parent ∧ ".." ∉ signature.names ∧
            (nearest = output → signature = signatureIn file.parent file)) ∧
      ∀ other, Path.Respelled workingDirectory (.ofText text) other →
        signatureOf other = signatureOf (.ofText text) := by
  intro layout file signatureOf
  have hfile : file.Resolved := Path.resolved_absolute hdots _
  have hnames : "" ∉ file.names := Path.empty_not_mem_absolute hdots hempty text
  refine ⟨⟨Path.respelled_absolute _ _, hfile, hnames⟩, fun hnone => ?_, fun hname hbeside => ?_,
    fun output houtput hname hbuild => ?_, fun other hother => ?_⟩
  · have hextend : file.extend extension = .error .invalidValue := by
      rw [Path.extend, hnone]
      rfl
    change Placement.signature <$> layout.place file = _
    rw [place, hextend]
    rfl
  · have hbeside' : layout.output? = none ∨ some file.parent = layout.build? :=
      hbeside.imp_left (congrArg (Option.map (Path.absolute ⟨.slash, start⟩)))
    rw [← directoryOf_of_beside hbeside']
    exact layout.signature_of_place hname
  · obtain ⟨front, name, hconcat⟩ := (List.eq_nil_or_concat file.names).resolve_left hname
    rw [List.concat_eq_append] at hconcat
    have hdirectory := (resolved_ofPaths hstart output? build? base?).directoryOf hfile hconcat
    obtain ⟨nearest, hnearest, hsignature⟩ :=
      signature_of_output houtput hnames hname hbuild hdirectory.dots
    exact ⟨nearest, hnearest, fun other => hnearest.unique, hsignature⟩
  · change Placement.signature <$> layout.place _ = Placement.signature <$> layout.place _
    rw [Path.respelled_iff.1 hother]

/-- A project whose signatures go to a directory of its own. -/
def releaseLayout : Layout :=
  ofPaths ⟨.slash, ["work"]⟩ (some ⟨.relative, ["out"]⟩) (some ⟨.relative, ["target"]⟩)
    (some ⟨.relative, []⟩)

theorem signature_below_nearest_of_base :
    ".." ∉ ["work"] ∧ "" ∉ ["work"] ∧
      Placement.signature <$> releaseLayout.place
          (Path.absolute ⟨.slash, ["work"]⟩ (.ofText "src/main/..//./lib.jar")) =
        .ok ⟨.slash, ["work", "out", "src", "lib.jar.asc"]⟩ := by
  have hdots : ".." ∉ ["work"] := by decide
  have hempty : "" ∉ ["work"] := by decide
  have hfile : Path.absolute ⟨.slash, ["work"]⟩ (.ofText "src/main/..//./lib.jar") =
      ⟨.slash, ["work", "src", "lib.jar"]⟩ := by decide +kernel
  have hnearest : releaseLayout.IsNearest ⟨.slash, ["work", "src"]⟩ ⟨.slash, ["work"]⟩ := by
    refine ⟨⟨rfl, by decide⟩, .inl (by decide), ?_⟩
    intro other hchosen habove hbehind
    have hcases : other = ⟨.slash, ["work", "out"]⟩ ∨ other = ⟨.slash, ["work", "target"]⟩ ∨
        other = ⟨.slash, ["work"]⟩ := by
      simpa [releaseLayout, ofPaths, Path.absolute_of_relative, Place.along] using hchosen
    rcases hcases with rfl | rfl | rfl
    · exact absurd habove.2 (by decide)
    · exact absurd habove.2 (by decide)
    · rfl
  obtain ⟨-, -, -, hbelow, -⟩ := signature_below_nearest hdots hdots hempty
    (some ⟨.relative, ["out"]⟩) (some ⟨.relative, ["target"]⟩) (some ⟨.relative, []⟩)
    "src/main/..//./lib.jar"
  rw [hfile] at hbelow
  obtain ⟨nearest, -, hunique, below, signature, hnames, rfl, hsignature, -⟩ :=
    hbelow ⟨.slash, ["work", "out"]⟩ (by decide) (by decide) (by decide)
  obtain rfl := hunique _ hnearest
  obtain rfl : below = ["src"] :=
    (List.append_cancel_left (show ["work"] ++ ["src"] = ["work"] ++ below from hnames)).symm
  exact ⟨hdots, hempty, hsignature.trans (congrArg Except.ok (by decide))⟩

end Layout

end ArtifactSigning
