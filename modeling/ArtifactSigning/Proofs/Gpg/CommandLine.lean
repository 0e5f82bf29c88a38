import ArtifactSigning.Gpg.Signer
import ArtifactSigning.Proofs.Gpg.VersionOrder
import ArtifactSigning.Proofs.Step

/-!
# The options on a command line

The tool reads the words of a command line as options, where some options take the next word as
their argument. Reading the words between the arguments of the user and the two files gives the
options that were written (`readOptions_words`), whatever texts their arguments are. Which of them
there are depends on the version.
-/
namespace ArtifactSigning.Gpg

open Step

/-- The options that take no argument. -/
def flagNames : List String :=
  ["--use-agent", "--no-use-agent", "--batch", "--no-tty", "--armor", "--detach-sign",
    "--no-default-keyring", "--lock-once", "--lock-multiple", "--lock-never"]

/-- The options that take the next word as their argument. -/
def settingNames : List String :=
  ["--homedir", "--pinentry-mode", "--passphrase-fd", "--local-user", "--status-fd",
    "--secret-keyring", "--keyring"]

/-- The options that words are read as. There are none if a word in the place of an option is not
known, or the last option lacks its argument. -/
def readOptions : List String → Option (List ToolOption)
  | [] => some []
  | name :: words =>
      if name ∈ flagNames then (readOptions words).map (flag name :: ·)
      else if name ∈ settingNames then
        match words with
        | [] => none
        | argument :: words => (readOptions words).map (setting name argument :: ·)
      else none

/-- The options that have one of the given names. -/
def named (names : List String) (options : List ToolOption) : List ToolOption :=
  options.filter (·.name ∈ names)

/-- An option that the tool reads as it was written. -/
inductive IsKnown : ToolOption → Prop
  | flag {name : String} (h : name ∈ flagNames) : IsKnown (flag name)
  | setting {name : String} (argument : String) (h : name ∈ settingNames) :
      IsKnown (setting name argument)

/-- What the version decides about the options. -/
structure FitsVersion (options : Options) (version : Version) (written : List ToolOption) :
    Prop where
  /-- Before 2.1 the tool is told either to use an agent or not to. -/
  agent : named ["--use-agent", "--no-use-agent"] written =
    if version.segments < [2, 1] then
      [flag (if options.useAgent then "--use-agent" else "--no-use-agent")]
    else []
  secretKeyring : named ["--secret-keyring"] written =
    if version.segments < [2, 1] then
      (nonEmpty options.secretKeyring?).toList.map (setting "--secret-keyring")
    else []
  /-- From 2.1 on the tool is told where the passphrase comes from, if not from a human. -/
  pinentry : named ["--pinentry-mode"] written =
    if version.segments < [2, 1] then []
    else if options.passphrase?.isSome then [setting "--pinentry-mode" "loopback"]
    else if options.interactive then []
    else [setting "--pinentry-mode" "error"]
  passphrase : named ["--passphrase-fd"] written =
    if options.passphrase?.isSome then [setting "--passphrase-fd" "0"] else []
  /-- A passphrase is only read in batch mode. -/
  batch : options.passphrase?.isSome = true → ¬version.segments < [2, 0] → flag "--batch" ∈ written

variable {options : Options} {version : Version} {name argument : String}
  {names words : List String} {written : List ToolOption} {w : World}

section Reading

theorem readOptions_flag (h : name ∈ flagNames) :
    readOptions (name :: words) = (readOptions words).map (flag name :: ·) := by
  cases words with
  | nil => exact if_pos h
  | cons argument words => exact if_pos h

theorem readOptions_setting (h : name ∈ settingNames) :
    readOptions (name :: argument :: words) =
      (readOptions words).map (setting name argument :: ·) := by
  have hnot : name ∉ flagNames := by
    have hdisjoint : ∀ name ∈ settingNames, name ∉ flagNames := by decide
    exact hdisjoint name h
  rw [readOptions, if_neg hnot, if_pos h]

theorem readOptions_words (h : ∀ option ∈ written, IsKnown option) :
    readOptions (written.flatMap ToolOption.words) = some written := by
  induction written with
  | nil => rfl
  | cons option written ih =>
      have hrest := ih fun other hother => h other (.tail _ hother)
      rw [List.flatMap_cons]
      cases h option List.mem_cons_self with
      | @flag name hname =>
          change readOptions (name :: written.flatMap ToolOption.words) = _
          rw [readOptions_flag hname, hrest, Option.map_some]
      | @setting name argument hname =>
          change readOptions (name :: argument :: written.flatMap ToolOption.words) = _
          rw [readOptions_setting hname, hrest, Option.map_some]

end Reading

section Known

/-- The options for locking. -/
def lockNames : List String := ["--lock-once", "--lock-multiple", "--lock-never"]

theorem exists_flag_of_lockOption? {option : ToolOption}
    (h : option ∈ (options.lockMode?.bind lockOption?).toList) :
    ∃ name ∈ lockNames, option = flag name := by
  obtain ⟨mode, -, hmode⟩ := Option.bind_eq_some_iff.1 (Option.mem_toList.1 h)
  rw [lockOption?] at hmode
  split at hmode
  · exact ⟨_, by decide, (Option.some.inj hmode).symm⟩
  · exact ⟨_, by decide, (Option.some.inj hmode).symm⟩
  · exact ⟨_, by decide, (Option.some.inj hmode).symm⟩
  · cases hmode

theorem isKnown_of_mem_map {α : Type} {items : List α} (text : α → String)
    (h : name ∈ settingNames) :
    ∀ option ∈ items.map (fun item => setting name (text item)), IsKnown option := by
  intro option hoption
  obtain ⟨item, -, rfl⟩ := List.mem_map.1 hoption
  exact .setting (text item) h

theorem isKnown_of_mem_ite {condition : Prop} [Decidable condition] {others : List ToolOption}
    (hwritten : ∀ option ∈ written, IsKnown option) (hothers : ∀ option ∈ others, IsKnown option) :
    ∀ option ∈ if condition then written else others, IsKnown option := by
  split
  · exact hwritten
  · exact hothers

theorem isKnown_passphraseOptions (version : Version) :
    ∀ option ∈ passphraseOptions version, IsKnown option := by
  simp only [passphraseOptions, List.forall_mem_append, List.forall_mem_singleton]
  refine ⟨⟨isKnown_of_mem_ite ?_ nofun, isKnown_of_mem_ite ?_ nofun⟩, .setting _ (by decide)⟩
  · exact List.forall_mem_singleton.2 (.flag (by decide))
  · exact List.forall_mem_singleton.2 (.setting _ (by decide))

theorem isKnown_batchOptions (options : Options) (version : Version) :
    ∀ option ∈ batchOptions options version, IsKnown option := by
  simp only [batchOptions, List.forall_mem_append, List.forall_mem_cons]
  refine ⟨⟨.flag (by decide), .flag (by decide), nofun⟩, isKnown_of_mem_ite ?_ nofun⟩
  exact List.forall_mem_singleton.2 (.setting _ (by decide))

theorem isKnown_toolOptions (options : Options) (version : Version) (detailed : Bool) :
    ∀ option ∈ toolOptions options version detailed, IsKnown option := by
  simp only [toolOptions, List.forall_mem_append]
  refine ⟨⟨⟨⟨⟨⟨⟨⟨⟨⟨?home, isKnown_of_mem_ite ?agent nofun⟩,
    isKnown_of_mem_ite (isKnown_passphraseOptions version) nofun⟩, ?key⟩, ?kind⟩,
    isKnown_of_mem_ite ?status nofun⟩,
    isKnown_of_mem_ite nofun (isKnown_batchOptions options version)⟩,
    isKnown_of_mem_ite nofun ?keyrings⟩, isKnown_of_mem_ite ?secretKeyring nofun⟩,
    ?publicKeyring⟩, ?lock⟩
  case home => exact isKnown_of_mem_map _ (by decide)
  case agent =>
    refine List.forall_mem_singleton.2 (.flag ?_)
    cases options.useAgent <;> decide
  case key => exact isKnown_of_mem_map _ (by decide)
  case kind =>
    have hdetach : IsKnown (flag "--detach-sign") := .flag (by decide)
    exact List.forall_mem_cons.2 ⟨.flag (by decide), List.forall_mem_singleton.2 hdetach⟩
  case status => exact List.forall_mem_singleton.2 (.setting _ (by decide))
  case keyrings => exact List.forall_mem_singleton.2 (.flag (by decide))
  case secretKeyring => exact isKnown_of_mem_map _ (by decide)
  case publicKeyring => exact isKnown_of_mem_map _ (by decide)
  case lock =>
    intro option hoption
    obtain ⟨name, hname, rfl⟩ := exists_flag_of_lockOption? hoption
    have hlock : ∀ name ∈ lockNames, name ∈ flagNames := by decide
    exact .flag (hlock name hname)

end Known

section Named

@[simp] theorem name_flag (name : String) : (flag name).name = name := rfl

@[simp] theorem name_setting (name argument : String) : (setting name argument).name = name := rfl

@[simp] theorem named_nil : named names [] = [] := rfl

@[simp] theorem named_append (others : List ToolOption) :
    named names (written ++ others) = named names written ++ named names others :=
  List.filter_append ..

@[simp] theorem named_cons (option : ToolOption) : named names (option :: written) =
    if option.name ∈ names then option :: named names written else named names written := by
  simp only [named, List.filter_cons, decide_eq_true_eq]

@[simp] theorem named_ite {condition : Prop} [Decidable condition] (others : List ToolOption) :
    named names (if condition then written else others) =
      if condition then named names written else named names others := apply_ite ..

theorem named_eq_nil (h : ∀ option ∈ written, option.name ∉ names) : named names written = [] :=
  List.filter_eq_nil_iff.2 fun option hoption => by simpa using h option hoption

theorem named_eq_self (h : ∀ option ∈ written, option.name ∈ names) :
    named names written = written :=
  List.filter_eq_self.2 fun option hoption => decide_eq_true (h option hoption)

theorem named_map {α : Type} (name : String) (text : α → String) (items : List α) :
    named names (items.map fun item => setting name (text item)) =
      if name ∈ names then items.map fun item => setting name (text item) else [] := by
  by_cases h : name ∈ names
  · rw [if_pos h, named_eq_self]
    simpa using fun _ _ => h
  · rw [if_neg h, named_eq_nil]
    simpa using fun _ _ => h

@[simp] theorem named_map_homedir (homes : List Path) :
    named names (homes.map fun home => setting "--homedir" home.text) =
      if "--homedir" ∈ names then homes.map fun home => setting "--homedir" home.text else [] :=
  named_map ..

@[simp] theorem named_map_setting (name : String) (arguments : List String) :
    named names (arguments.map (setting name)) =
      if name ∈ names then arguments.map (setting name) else [] :=
  named_map name id arguments

theorem named_lock (h : ∀ name ∈ lockNames, name ∉ names) :
    named names (options.lockMode?.bind lockOption?).toList = [] := by
  refine named_eq_nil fun option hoption => ?_
  obtain ⟨name, hname, rfl⟩ := exists_flag_of_lockOption? hoption
  exact h name hname

/-- The options that are the same for all versions, whether there is a passphrase or not. -/
def plainNames : List String :=
  ["--homedir", "--local-user", "--armor", "--detach-sign", "--status-fd", "--no-default-keyring",
    "--keyring"] ++ lockNames

/-- Where the other options come from. -/
theorem named_toolOptions (h : ∀ name ∈ plainNames, name ∉ names) (options : Options)
    (version : Version) (detailed : Bool) : named names (toolOptions options version detailed) =
      (if version.isBefore agentVersion then
        named names [flag (if options.useAgent then "--use-agent" else "--no-use-agent")]
      else []) ++
      (if options.passphrase?.isSome then named names (passphraseOptions version) else []) ++
      (if options.interactive then [] else named names (batchOptions options version)) ++
      (if version.isBefore agentVersion then
        named names ((nonEmpty options.secretKeyring?).toList.map (setting "--secret-keyring"))
      else []) := by
  obtain ⟨hplain, hlock⟩ := List.forall_mem_append.1 h
  simp only [List.forall_mem_cons] at hplain
  simp [toolOptions, hplain, named_lock hlock]

end Named

section Versions

theorem isBefore_agentVersion :
    version.isBefore agentVersion = decide (version.segments < [2, 1]) := by
  rw [Bool.eq_iff_iff, Version.isBefore_iff, decide_eq_true_iff, agentVersion]

theorem isAtLeast_agentVersion :
    version.isAtLeast agentVersion = !decide (version.segments < [2, 1]) := by
  rw [Bool.eq_iff_iff, Version.isAtLeast_iff, Bool.not_eq_true', decide_eq_false_iff_not,
    agentVersion]

/-- The options are those that the version allows for. -/
theorem fitsVersion_toolOptions (options : Options) (version : Version) (detailed : Bool) :
    FitsVersion options version (toolOptions options version detailed) where
  agent := by
    rw [named_toolOptions (by decide), isBefore_agentVersion]
    cases options.useAgent <;> simp [passphraseOptions, batchOptions]
  secretKeyring := by
    rw [named_toolOptions (by decide), isBefore_agentVersion]
    cases options.useAgent <;> simp [passphraseOptions, batchOptions]
  pinentry := by
    rw [named_toolOptions (by decide), isBefore_agentVersion, passphraseOptions, batchOptions,
      isAtLeast_agentVersion]
    by_cases hold : version.segments < [2, 1]
    · cases options.useAgent <;> simp [hold]
    · cases options.passphrase? <;> simp [hold]
  passphrase := by
    rw [named_toolOptions (by decide)]
    cases options.useAgent <;> simp [passphraseOptions, batchOptions]
  batch := by
    intro hheld hversion
    have hbatch : flag "--batch" ∈ passphraseOptions version := by
      have hleast : version.isAtLeast batchVersion = true := Version.isAtLeast_iff.2 hversion
      simp [passphraseOptions, hleast]
    simp [toolOptions, hheld, hbatch]

/-- Once the version is known, there is a command line. -/
theorem commandFor_of_version (options : Options) (source destination : Path)
    (h : w.version? = some version) : ∃ d, commandFor options source destination w =
      .ok (command options version w.detailed source destination) d := by
  rw [commandFor, bind_of_ok _ (get_eq_ok w), h]
  dsimp only
  split
  · exact ⟨_, rfl⟩
  · exact ⟨w, rfl⟩

end Versions

/-- A command line is the executable, the arguments of the user, options that fit the version, and
the two files. A version counts as 2.1 or later if it continues 2.1. -/
theorem commandFor_fits_version (options : Options) (source destination : Path)
    (h : w.version? = some version) : (∃ generated written d,
      commandFor options source destination w = .ok (options.executable ::
        (options.arguments ++ generated ++ ["--output", destination.text, source.text])) d ∧
      readOptions generated = some written ∧ FitsVersion options version written) ∧
    (version.isBefore agentVersion = true ↔ version.segments < [2, 1]) ∧
    ([2, 1] <+: version.segments → version.isAtLeast agentVersion = true) := by
  refine ⟨?_, Version.isBefore_iff, Version.isAtLeast_of_prefix⟩
  obtain ⟨d, hcommand⟩ := commandFor_of_version options source destination h
  refine ⟨(toolOptions options version w.detailed).flatMap ToolOption.words,
    toolOptions options version w.detailed, d, ?_,
    readOptions_words (isKnown_toolOptions options version w.detailed),
    fitsVersion_toolOptions options version w.detailed⟩
  rw [hcommand, command]
  simp only [List.append_assoc, List.cons_append, List.nil_append]

/-- Options with the name of a key that reads like an option itself. -/
def oddlyNamedOptions : Options where
  executable := "gpg"
  home? := none
  keyName? := some "--pinentry-mode"
  passphrase? := some (.ofString "secret")
  useAgent := true
  interactive := false
  defaultKeyring := true
  secretKeyring? := some "secring.gpg"
  publicKeyring? := none
  lockMode? := some "NEVER"
  arguments := ["--verbose"]
  limit? := none

/-- The name of the key is read as an argument, and the passphrase is asked for in one way only. -/
theorem commandFor_fits_version_with_odd_name :
    let w := { World.start .empty [] 0 ⟨.absent, []⟩ with version? := some ⟨[2, 1, 0]⟩ }
    (w : World).version? = some ⟨[2, 1, 0]⟩ ∧ ∃ generated written d,
      commandFor oddlyNamedOptions (.ofText "a") (.ofText "a.asc") w =
        .ok ("gpg" :: (["--verbose"] ++ generated ++ ["--output", "a.asc", "a"])) d ∧
      readOptions generated = some written ∧
      named ["--pinentry-mode"] written = [setting "--pinentry-mode" "loopback"] ∧
      named ["--use-agent", "--no-use-agent"] written = [] := by
  intro w
  have hsource : (Path.ofText "a").text = "a" := by decide +kernel
  have hdestination : (Path.ofText "a.asc").text = "a.asc" := by decide +kernel
  obtain ⟨⟨generated, written, d, hcommand, hread, hfits⟩, -⟩ :=
    commandFor_fits_version oddlyNamedOptions (.ofText "a") (.ofText "a.asc")
      (show w.version? = some ⟨[2, 1, 0]⟩ from rfl)
  rw [hsource, hdestination] at hcommand
  exact ⟨rfl, generated, written, d, hcommand, hread, hfits.pinentry, hfits.agent⟩

end ArtifactSigning.Gpg
