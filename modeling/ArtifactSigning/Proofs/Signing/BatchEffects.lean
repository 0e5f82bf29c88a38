import ArtifactSigning.Proofs.Signing.Turns

/-!
# What a batch does to files

A run over a batch with a confined signer keeps every file except at the places of the signatures of
the entries that it comes to. So an input is lost only where it is taken for an outdated signature,
a signature is lost only to a later entry with the same place, and an outdated signature outlives a
run only at an entry that the run does not come to.
-/
namespace ArtifactSigning

open Step World

/-- A signer for small runs. It puts a mark in front of a document and refuses an empty one. -/
def Signer.stamp : Signer where
  name := "stamp"
  prepare := return
  sign source destination? := do
    let document ← Act.readFile source
    if document = [] then throw (.process (.noSignature source.text))
    let destination ← Act.ofExcept (Layout.destination source destination?)
    Act.writeFile destination (0 :: document)
    return destination
  describe := return "stamp"

theorem Signer.confined_stamp : stamp.Confined where
  prepare := respects_pure ()
  sign source destination := by
    have hwrite (document : Bytes) : Respects (KeepsBut destination) (do
        let target ← Act.ofExcept (Layout.destination source (some destination))
        Act.writeFile target (0 :: document)
        return target) := by
      refine (Act.respects_ofExcept _).bind_of_ok fun c target d htarget => ?_
      obtain rfl : destination = target := Except.ok.inj (Act.ofExcept_eq_ok.1 htarget).1
      exact (Act.respects_writeFile destination _).bind fun _ => respects_pure _
    refine (Act.respects_readFile source).bind fun document => ?_
    split
    · exact (respects_throw _).bind fun _ => hwrite document
    · exact hwrite document

theorem Signer.writes_stamp : stamp.Writes fun document content => content = 0 :: document where
  toConfined := confined_stamp
  sign_eq_ok source destination path w w' h := by
    obtain ⟨document, _, hread, h⟩ := bind_eq_ok.1 h
    obtain ⟨hdocument, rfl⟩ := Act.readFile_eq_ok.1 hread
    by_cases hempty : document = []
    · rw [if_pos hempty] at h
      obtain ⟨_, _, hthrow, -⟩ := bind_eq_ok.1 h
      exact absurd hthrow throw_ne_ok
    · rw [if_neg hempty] at h
      obtain ⟨target, _, htarget, h⟩ := bind_eq_ok.1 h
      obtain ⟨hgiven, rfl⟩ := Act.ofExcept_eq_ok.1 htarget
      obtain rfl : destination = target := Except.ok.inj hgiven
      obtain ⟨_, _, hwrite, h⟩ := bind_eq_ok.1 h
      obtain ⟨rfl, rfl⟩ := pure_eq_ok.1 h
      obtain ⟨files, hwritten, rfl⟩ := Act.writeFile_eq_ok.1 hwrite
      exact ⟨rfl, document, _, hdocument, FileTree.read_of_write hwritten, rfl⟩

namespace Batch

variable {signer : Signer} {layout : Layout} {path : Path} {paths : List Path}
  {w w' ready finished : World} {place : Place} {content : Bytes}

theorem respects_checkSources {r : World → World → Prop} [IsPreorder World r] (paths : List Path) :
    Respects r (checkSources paths) := by
  induction paths with
  | nil => exact respects_pure _
  | cons path paths ih =>
      refine (Act.respects_isFile path).bind fun found => ?_
      split
      · exact ih
      · exact (respects_throw _).bind fun _ => ih

/-- Before the first turn no file is changed. -/
theorem respects_start (hsigner : signer.Confined) (paths : List Path) :
    Respects SameFiles (start signer paths) :=
  (respects_checkSources paths).bind fun _ => hsigner.prepare.bind fun _ =>
    Act.respects_report _ _ _

section Inputs

/-- However a run ends, a file that was there is still there and has its content, unless it is at
the place of the signature of an entry that the run comes to. -/
theorem file_kept_by_run {file : Path} (hsigner : signer.Confined)
    (hread : w.files.read w.workingDirectory file = .ok content)
    (hplace : ∀ ready other begun, start signer paths w = .ok () ready →
      Reaches signer layout ready paths other begun →
      layout.signaturePlace? w.workingDirectory other ≠ some (file.placeIn w.workingDirectory)) :
    (finalState (signFiles signer layout paths) w).files.read
      (finalState (signFiles signer layout paths) w).workingDirectory file = .ok content := by
  have hstart := respects_start hsigner paths
  rw [signFiles]
  cases hready : start signer paths w with
  | error failure d =>
      rw [finalState_bind_of_error hready]
      have hsame := hstart.of_error hready
      rwa [hsame.files, hsame.workingDirectory]
  | ok u ready =>
      rw [finalState_bind_of_ok hready]
      have hsame := hstart.of_ok hready
      refine (keeps_signAll hsigner layout paths ready).read ?_ ?_
      · rintro ⟨other, begun, hreach, hother⟩
        rw [hsame.workingDirectory] at hother
        exact hplace ready other begun hready hreach hother
      · rwa [hsame.files, hsame.workingDirectory]

/-- A world with some files, seen from the root. -/
def smallWorld (entries : List (Place × FileEntry)) : World :=
  World.start ⟨entries⟩ [] 0 ⟨.absent, []⟩

/-- Two files signed beside each other. -/
theorem file_kept_beside :
    let w := smallWorld [(["lib.jar"], .file [1]), (["notes"], .file [2])]
    let paths : List Path := [⟨.relative, ["lib.jar"]⟩, ⟨.relative, ["notes"]⟩]
    let finished := finalState (signFiles Signer.stamp ⟨none, none, none⟩ paths) w
    finished.files.read finished.workingDirectory ⟨.relative, ["lib.jar"]⟩ = .ok [1] := by
  intro w paths finished
  refine file_kept_by_run Signer.confined_stamp rfl fun ready other begun hstart hreach => ?_
  have hmem := hreach.mem
  simp only [paths, List.mem_cons, List.not_mem_nil, or_false] at hmem
  rcases hmem with rfl | rfl <;> decide

/-- A file that has the name of the signature of another one is taken for it. -/
theorem input_replaced :
    let w := smallWorld [(["lib.jar"], .file [1]), (["lib.jar.asc"], .file [2])]
    let paths : List Path := [⟨.relative, ["lib.jar"]⟩, ⟨.relative, ["lib.jar.asc"]⟩]
    let finished := finalState (signFiles Signer.stamp ⟨none, none, none⟩ paths) w
    Signer.stamp.Confined ∧
      w.files.read w.workingDirectory ⟨.relative, ["lib.jar"]⟩ = .ok [1] ∧
      w.files.read w.workingDirectory ⟨.relative, ["lib.jar.asc"]⟩ = .ok [2] ∧
      finished.files.read finished.workingDirectory ⟨.relative, ["lib.jar.asc"]⟩ = .ok [0, 1] :=
  ⟨Signer.confined_stamp, rfl, rfl, rfl⟩

end Inputs

section Signatures

variable {artifact : SignedArtifact} {artifacts : List SignedArtifact}

theorem signAll_cons_eq_ok (h : signAll signer layout (path :: paths) w = .ok artifacts w') :
    ∃ artifact next rest, signOne signer layout path w = .ok artifact next ∧
      signAll signer layout paths next = .ok rest w' ∧ artifacts = artifact :: rest := by
  obtain ⟨artifact, next, hturn, h⟩ := bind_eq_ok.1 h
  obtain ⟨rest, _, hrest, h⟩ := bind_eq_ok.1 h
  obtain ⟨rfl, rfl⟩ := pure_eq_ok.1 h
  exact ⟨artifact, next, rest, hturn, hrest, rfl⟩

theorem sources_of_signAll (h : signAll signer layout paths w = .ok artifacts w') :
    artifacts.map SignedArtifact.source = paths := by
  induction paths generalizing w artifacts with
  | nil =>
      obtain ⟨rfl, -⟩ := pure_eq_ok.1 h
      rfl
  | cons path paths ih =>
      obtain ⟨artifact, next, rest, hturn, hrest, rfl⟩ := signAll_cons_eq_ok h
      obtain ⟨destination, cleared, signed, -, -, hartifact, -⟩ := signOne_eq_ok hturn
      rw [List.map_cons, ih hrest, hartifact]

/-- A run is cut at the turn of an entry. -/
theorem signAll_append_eq_ok {front later : List SignedArtifact}
    (h : signAll signer layout paths w = .ok (front ++ artifact :: later) w') :
    ∃ begun next,
      signAll signer layout (front.map SignedArtifact.source) w = .ok front begun ∧
      signOne signer layout artifact.source begun = .ok artifact next ∧
      signAll signer layout (later.map SignedArtifact.source) next = .ok later w' := by
  rw [← sources_of_signAll h] at h
  induction front generalizing w with
  | nil =>
      obtain ⟨artifact', next, rest, hturn, hrest, heq⟩ := signAll_cons_eq_ok h
      obtain ⟨rfl, rfl⟩ := List.cons.inj heq
      exact ⟨w, next, rfl, hturn, hrest⟩
  | cons first front ih =>
      obtain ⟨artifact', next, rest, hturn, hrest, heq⟩ := signAll_cons_eq_ok h
      obtain ⟨rfl, rfl⟩ := List.cons.inj heq
      obtain ⟨begun, next', hfront, hartifact, hlater⟩ := ih hrest
      refine ⟨begun, next', ?_, hartifact, hlater⟩
      exact bind_eq_ok.2 ⟨first, next, hturn, bind_eq_ok.2 ⟨front, begun, hfront, rfl⟩⟩

theorem workingDirectory_of_signAll (hsigner : signer.Confined)
    (h : signAll signer layout paths w = .ok artifacts w') :
    w'.workingDirectory = w.workingDirectory := by
  rw [← finalState_of_ok h]
  exact (keeps_signAll hsigner layout paths w).workingDirectory

/-- In its turn an entry is read, and what is written to its destination is read there. -/
def SignedFrom (signer : Signer) (layout : Layout) (begun : World) (artifact : SignedArtifact)
    (document content : Bytes) : Prop :=
  ∃ before after, clearDestination layout artifact.source begun = .ok artifact.signature before ∧
    signer.sign artifact.source (some artifact.signature) before =
      .ok artifact.signature after ∧
    before.files.read before.workingDirectory artifact.source = .ok document ∧
    after.files.read after.workingDirectory artifact.signature = .ok content

variable {IsSignature : Bytes → Bytes → Prop}

/-- What a turn of a signer that writes signatures does. -/
theorem signedFrom_of_signOne (hsigner : signer.Writes IsSignature)
    (h : signOne signer layout path w = .ok artifact w') :
    ∃ document content, SignedFrom signer layout w artifact document content ∧
      IsSignature document content ∧
      w'.files.read w'.workingDirectory artifact.signature = .ok content ∧
      layout.signaturePlace? w.workingDirectory artifact.source =
        some (artifact.signature.placeIn w.workingDirectory) := by
  obtain ⟨destination, before, after, hclear, hsign, hartifact, hsame⟩ := signOne_eq_ok h
  obtain ⟨hpath, document, content, hdocument, hcontent, hsignature⟩ := hsigner.sign_eq_ok hsign
  obtain rfl : artifact.source = path := by rw [hartifact]
  subst hpath
  refine ⟨document, content, ⟨before, after, hclear, hsign, hdocument, hcontent⟩, hsignature, ?_,
    clearDestination_eq_ok hclear⟩
  rw [hsame.files, hsame.workingDirectory]
  exact hcontent

theorem signaturePlace?_of_signAll (hsigner : signer.Writes IsSignature)
    (h : signAll signer layout paths w = .ok artifacts w') (hmem : artifact ∈ artifacts) :
    layout.signaturePlace? w.workingDirectory artifact.source =
      some (artifact.signature.placeIn w.workingDirectory) := by
  obtain ⟨front, later, rfl⟩ := List.append_of_mem hmem
  obtain ⟨begun, next, hfront, hturn, -⟩ := signAll_append_eq_ok h
  obtain ⟨_, _, -, -, -, hplace⟩ := signedFrom_of_signOne hsigner hturn
  rwa [workingDirectory_of_signAll hsigner.toConfined hfront] at hplace

/-- A signature stays unless a later entry has its own at the same place. -/
theorem signature_kept {front later : List SignedArtifact} (hsigner : signer.Writes IsSignature)
    (h : signAll signer layout paths w = .ok (front ++ artifact :: later) w') :
    ∃ begun document content,
      signAll signer layout (front.map SignedArtifact.source) w = .ok front begun ∧
      SignedFrom signer layout begun artifact document content ∧
      IsSignature document content ∧
      ((∀ other ∈ later, other.signature.placeIn w.workingDirectory ≠
          artifact.signature.placeIn w.workingDirectory) →
        w'.files.read w'.workingDirectory artifact.signature = .ok content) := by
  obtain ⟨begun, next, hfront, hturn, hlater⟩ := signAll_append_eq_ok h
  obtain ⟨document, content, hsigned, hsignature, hread, -⟩ := signedFrom_of_signOne hsigner hturn
  refine ⟨begun, document, content, hfront, hsigned, hsignature, fun hothers => ?_⟩
  have hbegun := workingDirectory_of_signAll hsigner.toConfined hfront
  have hnext := (keeps_signOne hsigner.toConfined layout artifact.source begun).workingDirectory
  rw [finalState_of_ok hturn, hbegun] at hnext
  rw [← finalState_of_ok hlater]
  refine (keeps_signAll hsigner.toConfined layout _ next).read ?_ hread
  rintro ⟨path, _, hreach, hplace⟩
  obtain ⟨other, hmem, rfl⟩ := List.mem_map.1 hreach.mem
  rw [signaturePlace?_of_signAll hsigner hlater hmem, Option.some.injEq, hnext] at hplace
  exact hothers other hmem hplace

/-- What a run that succeeds leaves behind: an artifact for every entry, and signatures of what the
entries held. -/
structure Leaves (signer : Signer) (layout : Layout) (paths : List Path) (w : World)
    (IsSignature : Bytes → Bytes → Prop) (artifacts : List SignedArtifact)
    (finished : World) : Prop where
  sources : artifacts.map SignedArtifact.source = paths
  /-- What is at a signature in the end was written in the turn of its entry, unless a later entry
  has its signature at the same place. -/
  signatures : ∀ front artifact later, artifacts = front ++ artifact :: later →
    ∃ ready begun document content, start signer paths w = .ok () ready ∧
      signAll signer layout (front.map SignedArtifact.source) ready = .ok front begun ∧
      SignedFrom signer layout begun artifact document content ∧
      IsSignature document content ∧
      ((∀ other ∈ later, other.signature.placeIn w.workingDirectory ≠
          artifact.signature.placeIn w.workingDirectory) →
        finished.files.read finished.workingDirectory artifact.signature = .ok content)
  /-- Two files share the place of their signatures exactly if the layout makes them clash. -/
  places : ∀ p ∈ artifacts, ∀ q ∈ artifacts,
    p.source.placeIn w.workingDirectory ≠ q.source.placeIn w.workingDirectory →
    (p.signature.placeIn w.workingDirectory = q.signature.placeIn w.workingDirectory ↔
      layout.Clash (Path.absolute ⟨.slash, w.workingDirectory⟩ p.source)
        (Path.absolute ⟨.slash, w.workingDirectory⟩ q.source))

/-- In a run that succeeds, a signature is lost only to that of a later entry with the same place,
and two files share a place exactly if they have one name and the layout takes their directories to
one. -/
theorem signatures_of_run (hsigner : signer.Writes IsSignature) (setup : World)
    (output? build? base? : Option Path)
    (h : signFiles signer
      (Layout.ofPaths ⟨.slash, setup.workingDirectory⟩ output? build? base?) paths w =
        .ok artifacts finished) :
    Leaves signer (Layout.ofPaths ⟨.slash, setup.workingDirectory⟩ output? build? base?) paths w
      IsSignature artifacts finished := by
  have hlayout := Layout.resolved_ofPaths setup.workingDirectory_resolved output? build? base?
  generalize Layout.ofPaths ⟨.slash, setup.workingDirectory⟩ output? build? base? = layout at *
  obtain ⟨_, ready, hstart, hrun⟩ := bind_eq_ok.1 h
  have hready := ((respects_start hsigner.toConfined paths).of_ok hstart).workingDirectory
  refine ⟨sources_of_signAll hrun, ?_, fun p hp q hq hne => ?_⟩
  · rintro front artifact later rfl
    obtain ⟨begun, document, content, hfront, hsigned, hsignature, hkept⟩ :=
      signature_kept hsigner hrun
    rw [hready] at hkept
    exact ⟨ready, begun, document, content, hstart, hfront, hsigned, hsignature, hkept⟩
  · have hdots := w.workingDirectory_resolved
    have hpPlace := signaturePlace?_of_signAll hsigner hrun hp
    have hqPlace := signaturePlace?_of_signAll hsigner hrun hq
    rw [hready] at hpPlace hqPlace
    obtain ⟨front, name, hpName⟩ := Layout.exists_name_of_signaturePlace? hdots hpPlace
    obtain ⟨back, other, hqName⟩ := Layout.exists_name_of_signaturePlace? hdots hqPlace
    rw [← Layout.signaturePlace?_eq_iff hlayout hdots hpName hqName hne, hpPlace, hqPlace,
      Option.some.injEq]

/-- A turn clears the place of its signature in a directory that is there. -/
theorem clearDestination_of_directory {source destination directory : Path} {place : Place}
    {w w' : World}
    (hplace : layout.place (Path.absolute ⟨.slash, w.workingDirectory⟩ source) =
      .ok ⟨destination, some directory⟩)
    (hlocate : w.files.locate w.workingDirectory directory = .ok place)
    (hat : w.files.at? place = some .directory)
    (hremove : (do
      if ← Act.pathExists destination then Act.removeFile destination
      return destination : Act Path) w = .ok destination w') :
    clearDestination layout source w = .ok destination w' := by
  refine bind_eq_ok.2 ⟨destination, w, bind_eq_ok.2 ⟨_, w, rfl, ?_⟩, hremove⟩
  refine bind_eq_ok.2 ⟨_, w, Act.ofExcept_eq_ok.2 ⟨hplace, rfl⟩, ?_⟩
  exact bind_eq_ok.2 ⟨(), w, Act.makeDirectories_of_directory hlocate hat, rfl⟩

/-- The two turns of a run, one after the other. -/
theorem signAll_pair {p q : Path} {a b : SignedArtifact} {u v : World}
    (hp : signOne signer layout p w = .ok a u) (hq : signOne signer layout q u = .ok b v) :
    signAll signer layout [p, q] w = .ok [a, b] v :=
  bind_eq_ok.2 ⟨a, u, hp, bind_eq_ok.2 ⟨[b], v, bind_eq_ok.2 ⟨b, v, hq, rfl⟩, rfl⟩⟩

section Gathered

/-- Two files below a base directory, and an output directory. -/
def gatheredWorld : World :=
  smallWorld [(["classes"], .directory), (["classes", "a"], .file [1]),
    (["classes", "b"], .file [2]), (["out"], .directory)]

def gatheredLayout : Layout :=
  Layout.ofPaths ⟨.slash, gatheredWorld.workingDirectory⟩ (some ⟨.relative, ["out"]⟩) none
    (some ⟨.relative, ["classes"]⟩)

def gatheredPaths : List Path := [⟨.relative, ["classes", "a"]⟩, ⟨.relative, ["classes", "b"]⟩]

/-- The signatures go to the output directory, at the places that the files have below the other
one. -/
theorem signatures_gathered :
    ∃ artifacts finished,
      signFiles Signer.stamp gatheredLayout gatheredPaths gatheredWorld = .ok artifacts finished ∧
      finished.files.read finished.workingDirectory ⟨.slash, ["out", "a.asc"]⟩ = .ok [0, 1] ∧
      finished.files.read finished.workingDirectory ⟨.slash, ["out", "b.asc"]⟩ = .ok [0, 2] ∧
      Leaves Signer.stamp gatheredLayout gatheredPaths gatheredWorld
        (fun document content => content = 0 :: document) artifacts finished := by
  obtain ⟨ready, next, finished, hstart, hfirst, hsecond, hread⟩ : ∃ ready next finished,
      start Signer.stamp gatheredPaths gatheredWorld = .ok () ready ∧
      signOne Signer.stamp gatheredLayout ⟨.relative, ["classes", "a"]⟩ ready =
        .ok ⟨⟨.relative, ["classes", "a"]⟩, ⟨.slash, ["out", "a.asc"]⟩, "stamp"⟩ next ∧
      signOne Signer.stamp gatheredLayout ⟨.relative, ["classes", "b"]⟩ next =
        .ok ⟨⟨.relative, ["classes", "b"]⟩, ⟨.slash, ["out", "b.asc"]⟩, "stamp"⟩ finished ∧
      finished.files.read finished.workingDirectory ⟨.slash, ["out", "a.asc"]⟩ = .ok [0, 1] ∧
      finished.files.read finished.workingDirectory ⟨.slash, ["out", "b.asc"]⟩ = .ok [0, 2] :=
    ⟨_, _, _, rfl,
      bind_eq_ok.2 ⟨_, _, clearDestination_of_directory rfl rfl rfl rfl, rfl⟩,
      bind_eq_ok.2 ⟨_, _, clearDestination_of_directory rfl rfl rfl rfl, rfl⟩, rfl, rfl⟩
  have hrun : signFiles Signer.stamp gatheredLayout gatheredPaths gatheredWorld =
      .ok [⟨⟨.relative, ["classes", "a"]⟩, ⟨.slash, ["out", "a.asc"]⟩, "stamp"⟩,
        ⟨⟨.relative, ["classes", "b"]⟩, ⟨.slash, ["out", "b.asc"]⟩, "stamp"⟩] finished :=
    bind_eq_ok.2 ⟨(), ready, hstart, signAll_pair hfirst hsecond⟩
  exact ⟨_, finished, hrun, hread.1, hread.2,
    signatures_of_run Signer.writes_stamp gatheredWorld _ none _ hrun⟩

end Gathered

section Mirrored

def sourceJar : Path := ⟨.relative, ["classes", "lib.jar"]⟩

def builtJar : Path := ⟨.relative, ["target", "classes", "lib.jar"]⟩

/-- Two files of one name, one of them below the build directory. -/
def mirroredWorld : World :=
  smallWorld [(["classes"], .directory), (["classes", "lib.jar"], .file [1]),
    (["target"], .directory), (["target", "classes"], .directory),
    (["target", "classes", "lib.jar"], .file [2]), (["out"], .directory),
    (["out", "classes"], .directory)]

def mirroredLayout : Layout :=
  Layout.ofPaths ⟨.slash, []⟩ (some ⟨.relative, ["out"]⟩) (some ⟨.relative, ["target"]⟩)
    (some ⟨.slash, []⟩)

/-- The one place of the signatures of both files. -/
def mirroredSignature : Path := ⟨.slash, ["out", "classes", "lib.jar.asc"]⟩

/-- Two files are signed, at one place, and the signature of the first one is lost. -/
theorem signature_overwritten :
    Signer.stamp.Writes (fun document content => content = 0 :: document) ∧
    mirroredWorld.files.read mirroredWorld.workingDirectory sourceJar = .ok [1] ∧
    mirroredWorld.files.read mirroredWorld.workingDirectory builtJar = .ok [2] ∧
    ∃ finished, signFiles Signer.stamp mirroredLayout [sourceJar, builtJar] mirroredWorld =
        .ok [⟨sourceJar, mirroredSignature, "stamp"⟩, ⟨builtJar, mirroredSignature, "stamp"⟩]
          finished ∧
      finished.files.read finished.workingDirectory mirroredSignature = .ok [0, 2] := by
  obtain ⟨ready, next, finished, hstart, hfirst, hsecond, hread⟩ : ∃ ready next finished,
      start Signer.stamp [sourceJar, builtJar] mirroredWorld = .ok () ready ∧
      signOne Signer.stamp mirroredLayout sourceJar ready =
        .ok ⟨sourceJar, mirroredSignature, "stamp"⟩ next ∧
      signOne Signer.stamp mirroredLayout builtJar next =
        .ok ⟨builtJar, mirroredSignature, "stamp"⟩ finished ∧
      finished.files.read finished.workingDirectory mirroredSignature = .ok [0, 2] :=
    ⟨_, _, _, rfl,
      bind_eq_ok.2 ⟨mirroredSignature, _, clearDestination_of_directory rfl rfl rfl rfl, rfl⟩,
      bind_eq_ok.2 ⟨mirroredSignature, _, clearDestination_of_directory rfl rfl rfl rfl, rfl⟩, rfl⟩
  exact ⟨Signer.writes_stamp, rfl, rfl, finished,
    bind_eq_ok.2 ⟨(), ready, hstart, signAll_pair hfirst hsecond⟩, hread⟩

end Mirrored

end Signatures

section Outdated

/-- If there is a file at the place of the signature of an entry, the run has put it there. -/
def Renewed (signer : Signer) (layout : Layout) (ready : World) (paths : List Path)
    (finished : World) (path : Path) : Prop :=
  ∀ place content, layout.signaturePlace? ready.workingDirectory path = some place →
    finished.files.at? place = some (.file content) →
    Puts signer layout ready paths place content

/-- A file at a place that no turn concerns is there all the time, so no call has put it there. -/
theorem not_puts_of_not_reached (hsigner : signer.Confined)
    (hplace : place ∉ reachedPlaces signer layout w paths)
    (hold : w.files.at? place = some (.file content)) :
    ¬Puts signer layout w paths place content := by
  rintro ⟨path, destination, begun, before, hreach, hclear, habsent, -⟩
  have hbegun := hreach.keeps hsigner
  have hbefore := keeps_clearDestination layout path begun
  rw [finalState_of_ok hclear] at hbefore
  have hother : layout.signaturePlace? begun.workingDirectory path ≠ some place := by
    intro hmem
    rw [hbegun.workingDirectory] at hmem
    exact hplace ⟨path, begun, hreach, hmem⟩
  exact habsent (hbefore.files.file _ _ hother (hbegun.files.file _ _ hplace hold))

/-- Each place of the signature of an entry that holds a file before a run is that of an entry that
the run comes to. -/
def Covers (signer : Signer) (layout : Layout) (ready : World) (paths : List Path)
    (w : World) : Prop :=
  ∀ path ∈ paths, ∀ place, layout.signaturePlace? w.workingDirectory path = some place →
    (∃ content, w.files.at? place = some (.file content)) →
    place ∈ reachedPlaces signer layout ready paths

/-- However a run ends, every file at the place of the signature of an entry has been put there by
the run exactly if the entries that the run comes to cover the places that held files before. -/
theorem renewed_iff (hsigner : signer.Confined) (setup : World)
    (output? build? base? : Option Path) (hformed : w.files.WellFormed)
    (hstart : start signer paths w = .ok () ready) :
    let layout := Layout.ofPaths ⟨.slash, setup.workingDirectory⟩ output? build? base?
    (∀ path ∈ paths, Renewed signer layout ready paths
      (finalState (signFiles signer layout paths) w) path) ↔
      Covers signer layout ready paths w := by
  intro layout
  have hlayout : layout.Resolved :=
    Layout.resolved_ofPaths setup.workingDirectory_resolved output? build? base?
  have hready := (respects_start hsigner paths).of_ok hstart
  rw [signFiles, finalState_bind_of_ok hstart, Covers, ← hready.workingDirectory, ← hready.files]
  rw [← hready.files] at hformed
  constructor
  · rintro hrenewed path hpath place hplace ⟨content, hold⟩
    by_contra hmem
    have hkept := (keeps_signAll hsigner layout paths ready).files.file _ _ hmem hold
    exact not_puts_of_not_reached hsigner hmem hold (hrenewed path hpath place content hplace hkept)
  · intro hcovers path hpath place content hplace hnew
    by_cases hold : ∃ stale, ready.files.at? place = some (.file stale)
    · obtain ⟨other, begun, hreach, hother⟩ := hcovers path hpath place hplace hold
      obtain ⟨stale, hstale⟩ := hold
      have hopens : ready.files.Opens place := hformed.opens (by rw [hstale]; rfl)
      exact hreach.puts hsigner hlayout hother hopens hnew
    · exact puts_of_new (fun hsame => hold ⟨content, hsame⟩) hnew

section Stopped

/-- Two entries, of which the signer of small runs refuses the first one. -/
def stoppedPaths : List Path := [⟨.relative, ["a"]⟩, ⟨.relative, ["b"]⟩]

/-- The second entry has a signature already. -/
def stoppedWorld : World :=
  smallWorld [(["a"], .file []), (["b"], .file [1]), (["b.asc"], .file [2])]

def besideLayout : Layout := Layout.ofPaths ⟨.slash, []⟩ none none none

/-- The condition for a run that stops at its first entry. -/
theorem renewed_iff_stopped :
    ∃ ready, start Signer.stamp stoppedPaths stoppedWorld = .ok () ready ∧
      ((∀ path ∈ stoppedPaths, Renewed Signer.stamp besideLayout ready stoppedPaths
        (finalState (signFiles Signer.stamp besideLayout stoppedPaths) stoppedWorld) path) ↔
      Covers Signer.stamp besideLayout ready stoppedPaths stoppedWorld) := by
  refine ⟨_, rfl, ?_⟩
  refine renewed_iff Signer.confined_stamp stoppedWorld none none none ?_ rfl
  exact FileTree.wellFormed_of_entries (by decide)

/-- The run fails at the first entry, and the signature of the second one is still the one from
before; no call of the run has put it there. -/
theorem outdated_signature_left :
    ∃ ready failure finished, start Signer.stamp stoppedPaths stoppedWorld = .ok () ready ∧
      signFiles Signer.stamp besideLayout stoppedPaths stoppedWorld = .error failure finished ∧
      besideLayout.signaturePlace? stoppedWorld.workingDirectory ⟨.relative, ["b"]⟩ =
        some ["b.asc"] ∧
      stoppedWorld.files.at? ["b.asc"] = some (.file [2]) ∧
      finished.files.at? ["b.asc"] = some (.file [2]) ∧
      ¬Renewed Signer.stamp besideLayout ready stoppedPaths finished ⟨.relative, ["b"]⟩ := by
  refine ⟨_, _, _, rfl, rfl, rfl, rfl, rfl, fun hrenewed => ?_⟩
  refine not_puts_of_not_reached Signer.confined_stamp ?_ rfl (hrenewed ["b.asc"] [2] rfl rfl)
  rintro ⟨path, begun, hreach, hplace⟩
  cases hreach with
  | turn w path later => exact absurd hplace (by decide)
  | later hturn hreach => cases hturn

end Stopped

end Outdated

end Batch

end ArtifactSigning
