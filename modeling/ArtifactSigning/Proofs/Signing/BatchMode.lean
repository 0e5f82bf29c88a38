import ArtifactSigning.Proofs.Agent.Writing
import ArtifactSigning.Proofs.Credential.AgentSearch
import ArtifactSigning.Proofs.Signing.Confinement
import ArtifactSigning.Proofs.Signing.Contacts

/-!
# Nobody is asked in batch mode

A signer that is made from settings for batch mode never asks a human. It consults none of the
loaders that may ask one, it asks agents for cached passphrases alone, and the tool is told not to
ask on its own. The one exception is what the environment brings into an exchange with an agent.
-/
namespace ArtifactSigning

open Step World

section Tool

variable {options : Gpg.Options} {version : Version} {w d : World}

/-- Behind the word that makes it sign, the tool is told not to ask anybody. -/
def Gpg.AsksNobody (options : Options) (version : Version) (words : List String) : Prop :=
  ∃ before after, words = before ++ "--detach-sign" :: after ∧
    ["--batch", "--no-tty"] <:+: after ∧
    (options.passphrase? = none → version.isAtLeast agentVersion = true →
      ["--pinentry-mode", "error"] <:+: after)

theorem Gpg.words_batchOptions (options : Options) (version : Version) :
    (batchOptions options version).flatMap ToolOption.words = ["--batch", "--no-tty"] ++
      if options.passphrase?.isNone && version.isAtLeast agentVersion
      then ["--pinentry-mode", "error"] else [] := by
  rw [batchOptions]
  split <;> rfl

theorem Gpg.toolOptions_of_batch (h : options.interactive = false) (version : Version)
    (detailed : Bool) : ∃ front middle back, toolOptions options version detailed =
      front ++ [flag "--armor", flag "--detach-sign"] ++ middle ++ batchOptions options version ++
        back := by
  rw [toolOptions, h, List.append_assoc, List.append_assoc, List.append_assoc]
  exact ⟨_, _, _, rfl⟩

theorem Gpg.asksNobody_command (h : options.interactive = false) (version : Version)
    (detailed : Bool) (source destination : Path) :
    AsksNobody options version (command options version detailed source destination) := by
  obtain ⟨front, middle, back, htool⟩ := toolOptions_of_batch h version detailed
  refine ⟨
    [options.executable] ++ options.arguments ++ front.flatMap ToolOption.words ++ ["--armor"],
    middle.flatMap ToolOption.words ++ (batchOptions options version).flatMap ToolOption.words ++
      (back.flatMap ToolOption.words ++ ["--output", destination.text, source.text]), ?_, ?_, ?_⟩
  · rw [command, htool]
    simp only [List.flatMap_append, List.append_assoc]
    rfl
  · rw [words_batchOptions]
    exact (List.infix_append' _ _ _).trans (List.prefix_append _ _).isInfix
  · intro hnone hversion
    have hsilent : (options.passphrase?.isNone && version.isAtLeast agentVersion) = true := by
      rw [hnone, hversion]
      rfl
    rw [words_batchOptions, if_pos hsilent]
    exact ((List.suffix_append _ _).trans (List.suffix_append _ _)).isInfix.trans
      (List.prefix_append _ _).isInfix

/-- The tool is asked for its version, or signs without asking anybody. Its options are those for a
known version. -/
def Gpg.contacts (options : Options) (known : Version → Prop) : Contacts :=
  .tool fun call => call.command = [options.executable, "--version"] ∨
    ∃ version detailed source destination, known version ∧
      call.command = command options version detailed source destination ∧
      AsksNobody options version call.command

theorem Gpg.staysWithin_prepare (options : Options) (known : Version → Prop) :
    Respects (StaysWithin (contacts options known)) (prepare options) :=
  respects_prepare options (fun _ _ => .of_contacted _ rfl)
    (fun _ => ⟨rfl, .refl _ _, .refl _ _, .concat _ (.inl rfl)⟩) fun _ _ => .of_contacted _ rfl

/-- The tool has been run for the version that is kept. -/
def Gpg.RunsKept (options : Options) (before after : World) : Prop :=
  after.version? = before.version? ∧
    before.StaysWithin (contacts options (before.version? = some ·)) after

instance (options : Gpg.Options) : IsPreorder World (Gpg.RunsKept options) where
  refl w := ⟨rfl, refl_of (StaysWithin _) w⟩
  trans u v w h h' := by
    refine ⟨h'.1.trans h.1, trans_of (StaysWithin _) h.2 ?_⟩
    rw [← h.1]
    exact h'.2

theorem Gpg.RunsKept.of_same (options : Gpg.Options) (hversion : d.version? = w.version?)
    (h : d.contacted = w.contacted) : RunsKept options w d := ⟨hversion, .of_contacted _ h⟩

/-- The command for a file has the options for the version that is kept. -/
theorem Gpg.commandFor_eq_ok {source destination : Path} {words : List String}
    (h : commandFor options source destination w = .ok words d) :
    ∃ version, w.version? = some version ∧
      words = command options version w.detailed source destination := by
  rw [commandFor, bind_of_ok _ (get_eq_ok w)] at h
  cases hversion : w.version? with
  | none =>
      rw [hversion] at h
      exact absurd h throw_ne_ok
  | some version =>
      rw [hversion] at h
      dsimp only at h
      refine ⟨version, rfl, ?_⟩
      split at h
      · obtain ⟨_, _, -, h⟩ := bind_eq_ok.1 h
        exact (pure_eq_ok.1 h).1.symm
      · exact (pure_eq_ok.1 h).1.symm

/-- The command has been run, and nothing else has changed that counts. -/
def Gpg.RunsOnly (command : List String) (before after : World) : Prop :=
  after.version? = before.version? ∧
    before.StaysWithin (.tool fun call => call.command = command) after

instance (command : List String) : IsPreorder World (Gpg.RunsOnly command) where
  refl w := ⟨rfl, refl_of (StaysWithin _) w⟩
  trans _ _ _ h h' := ⟨h'.1.trans h.1, trans_of (StaysWithin _) h.2 h'.2⟩

theorem Gpg.runsOnly_run (options : Options) (command : List String) (target : Path) :
    Respects (RunsOnly command) (run options command target) :=
  respects_run options (fun _ _ => ⟨rfl, .of_contacted _ rfl⟩)
    (fun _ => Act.respects_changeFiles (fun _ _ _ => ⟨rfl, .of_contacted _ rfl⟩) target)
    fun _ _ _ => ⟨rfl, rfl, .refl _ _, .refl _ _, .concat _ rfl⟩

/-- A command that asks nobody may be run for its version. -/
theorem Gpg.RunsOnly.runsKept {version : Version} {detailed : Bool} {source destination : Path}
    (h : RunsOnly (command options version detailed source destination) w d)
    (hbatch : options.interactive = false) (hversion : w.version? = some version) :
    RunsKept options w d := by
  refine ⟨h.1, h.2.mono (fun _ => id) (fun _ => id) fun call hcall => .inr ?_⟩
  refine ⟨version, detailed, source, destination, hversion, hcall, ?_⟩
  rw [hcall]
  exact asksNobody_command hbatch version detailed source destination

theorem Gpg.runsKept_fill (h : options.interactive = false) (source temporary : Path) :
    Respects (RunsKept options) (fill options source temporary) := by
  have hcommand : Respects (RunsKept options) (commandFor options source temporary) :=
    respects_commandFor options (fun _ _ => .of_same options rfl rfl) source temporary
  intro w
  rw [fill]
  cases hwords : commandFor options source temporary w with
  | error failure d =>
      rw [finalState_bind_of_error hwords]
      exact hcommand.of_error hwords
  | ok words d =>
      rw [finalState_bind_of_ok hwords]
      have hd := hcommand.of_ok hwords
      obtain ⟨version, hversion, rfl⟩ := commandFor_eq_ok hwords
      have hrun := (runsOnly_run options (command options version w.detailed source temporary)
        temporary).bind fun _ => respects_checkWritten source temporary
      exact trans_of (RunsKept options) hd ((hrun d).runsKept h (hd.1.trans hversion))

theorem Gpg.runsKept_signNow (h : options.interactive = false) (source : Path)
    (destination? : Option Path) :
    Respects (RunsKept options) (signNow options source destination?) := by
  refine respects_signNow options (fun _ _ => .of_same options rfl rfl) fun path _ => ?_
  exact Act.respects_replaceBy_of_blind (fun _ _ => .of_same options rfl rfl)
    (fun _ _ => .of_same options rfl rfl) (runsKept_fill h source) path

/-- However signing ends, the tool has been run for the version that is kept then. -/
theorem Gpg.staysWithin_sign (h : options.interactive = false) (source : Path)
    (destination? : Option Path) (w : World) :
    w.StaysWithin
      (contacts options ((finalState (sign options source destination?) w).version? = some ·))
      (finalState (sign options source destination?) w) := by
  have hsign (d : World) := runsKept_signNow h source destination? d
  rw [sign_eq, finalState_get_bind]
  split
  · cases hprepare : prepare options w with
    | error failure d =>
        rw [finalState_bind_of_error hprepare]
        exact (staysWithin_prepare options _).of_error hprepare
    | ok _ d =>
        rw [finalState_bind_of_ok hprepare]
        refine trans_of (StaysWithin _) ((staysWithin_prepare options _).of_ok hprepare) ?_
        rw [(hsign d).1]
        exact (hsign d).2
  · rw [(hsign w).1]
    exact (hsign w).2

end Tool

section Embedded

variable {credentials : Credentials} {environment : Variables} {resolver : Resolver}
  {allowed : Contacts}

theorem Embedded.staysWithin_sign (h : resolver.Respects (StaysWithin allowed)) (source : Path)
    (destination? : Option Path) :
    Respects (StaysWithin allowed) (sign resolver source destination?) := by
  have hfiles (w : World) (files) : w.StaysWithin allowed { w with files := files } :=
    .of_contacted allowed rfl
  refine respects_sign h (fun _ _ => .of_contacted allowed rfl) fun path text _ => ?_
  refine Act.respects_replaceBy_of_blind hfiles (fun _ _ => .of_contacted allowed rfl)
    (fun temporary => (Act.respects_ofExcept _).bind fun octets => ?_) path
  exact Act.respects_changeFiles (fun w files _ => hfiles w files) temporary

/-- Only loaders that cannot ask a human are asked, and agents are asked for cached passphrases
alone. -/
def Credentials.contacts (credentials : Credentials) (environment : Variables) : Contacts where
  asks note := ∃ source, credentials.sources[note.1]? = some source ∧ source.interactive = false
  writes sent := ∀ text, sent.2 = some text → Agent.AsksCacheOnly environment text
  runs _ := False

/-- Credentials for batch mode. The agents are offered the values of `environment`. -/
structure Credentials.Batch (credentials : Credentials) (environment : Variables) : Prop where
  interactive : credentials.interactive = false
  environment : ∀ agents, .agents agents ∈ credentials.sources → agents.environment = environment

theorem Credentials.source_of_active (h : credentials.interactive = false) {index : Nat}
    {loader : Loader} (hmem : (index, loader) ∈ credentials.resolver.active) :
    ∃ source, credentials.sources[index]? = some source ∧ source.loader = loader ∧
      source.interactive = false := by
  obtain ⟨hloader, hactive⟩ := Resolver.mem_active_iff.1 hmem
  rw [resolver, List.getElem?_map, Option.map_eq_some_iff] at hloader
  obtain ⟨source, hsource, rfl⟩ := hloader
  have hallowed : (credentials.interactive || !source.interactive) = true := hactive
  rw [h] at hallowed
  exact ⟨source, hsource, rfl, by simpa using hallowed⟩

/-- Without a human to ask, an agent is asked for cached passphrases alone. -/
theorem AgentSource.staysWithin_askAgent {agents : AgentSource}
    (hinteractive : agents.interactive = false) (henvironment : agents.environment = environment)
    (key : SecretKey) (path : String) :
    Respects (StaysWithin (credentials.contacts environment))
      (Act.askAgent path agents.environment (agents.request key)) := by
  refine Act.respects_askAgent fun w peer =>
    ⟨rfl, .refl _ _, .concat _ fun text hsent => ?_, .refl _ _⟩
  rw [henvironment] at hsent
  refine Agent.asksCacheOnly_of_sent ?_ hsent
  change (!agents.interactive) = true
  rw [hinteractive]
  rfl

theorem Credentials.Batch.respects (h : credentials.Batch environment) :
    credentials.resolver.Respects (StaysWithin (credentials.contacts environment)) where
  log _ _ := .of_contacted _ rfl
  consult loader hmem _ _ := by
    obtain ⟨source, hsource, -, hinteractive⟩ := source_of_active h.interactive hmem
    exact ⟨rfl, .concat _ ⟨source, hsource, hinteractive⟩, .refl _ _, .refl _ _⟩
  loader loader hmem := by
    obtain ⟨source, hsource, hloader, hinteractive⟩ := source_of_active h.interactive hmem
    rw [← hloader]
    refine CredentialSource.respects_loader (fun _ _ => .of_contacted _ rfl) ?_
    rintro agents key path rfl
    exact AgentSource.staysWithin_askAgent hinteractive
      (h.environment agents (List.mem_of_getElem? hsource)) key path

end Embedded

namespace Backend

variable {backend : Backend} {settings : Settings} {environment : Variables}
  {system : String → Option String} {prompt? : Option (Act RawText)} {w w₁ : World}

/-- The contacts of a signer in batch mode. The tool is run for known versions. -/
def contacts (environment : Variables) (known : Version → Prop) : Backend → Contacts
  | .gpg options => Gpg.contacts options known
  | .embedded credentials => credentials.contacts environment

/-- The signer is one for batch mode. -/
def Batch (environment : Variables) : Backend → Prop
  | .gpg options => options.interactive = false
  | .embedded credentials => credentials.Batch environment

theorem staysWithin_perform_embedded {credentials : Credentials} (h : credentials.Batch environment)
    (call : SignerCall) : Respects (StaysWithin (credentials.contacts environment))
      ((Backend.embedded credentials).signer.perform call) := by
  have hkey := Embedded.respects_resolvedKey h.respects fun _ _ => .of_contacted _ rfl
  cases call with
  | prepare => exact Embedded.respects_prepare h.respects fun _ _ => .of_contacted _ rfl
  | describe => exact (hkey.bind fun _ => respects_pure _).bind fun _ => respects_pure _
  | sign source destination? =>
      exact (Embedded.staysWithin_sign h.respects source destination?).bind fun _ => respects_pure _

/-- However a call ends, it has kept to the contacts. The version is the one that is kept then. -/
theorem staysWithin_perform (h : backend.Batch environment) (call : SignerCall) (w : World) :
    let v := finalState (backend.signer.perform call) w
    w.StaysWithin (backend.contacts environment (v.version? = some ·)) v := by
  cases backend with
  | embedded credentials => exact staysWithin_perform_embedded h call w
  | gpg options =>
      cases call with
      | prepare => exact Gpg.staysWithin_prepare options _ w
      | describe => exact .of_contacted _ rfl
      | sign source destination? =>
          rw [show finalState ((gpg options).signer.perform (.sign source destination?)) w =
            finalState (Gpg.sign options source destination?) w from finalState_bind_pure _ _ _]
          exact Gpg.staysWithin_sign h source destination? w

/-- In batch mode a human is not asked for the passphrase. -/
theorem askHuman_of_batch (h : settings.interactive = false) :
    askHuman settings prompt? = throw (.configuration .batchPassphrase) := by
  rw [askHuman.eq_def, h]
  rfl

theorem passphrase_of_batch (h : settings.interactive = false) :
    passphrase settings environment prompt? = passphrase settings environment none := by
  simp only [passphrase, askHuman_of_batch h]

theorem ofSettings_of_batch (h : settings.interactive = false) :
    ofSettings settings environment system prompt? =
      ofSettings settings environment system none := by
  simp only [ofSettings, passphrase_of_batch h]

theorem staysWithin_passphrase (h : settings.interactive = false) :
    Respects (StaysWithin .none) (passphrase settings environment none) := by
  refine (Act.respects_ofExcept _).bind fun _ => ?_
  split
  · have hlog (w : World) (entry) : w.StaysWithin .none { w with log := w.log ++ [entry] } :=
      .of_contacted _ rfl
    exact (Act.respects_report_of hlog _ _ _).bind fun _ => respects_pure _
  · split
    · exact respects_pure _
    · rw [askHuman_of_batch h]
      exact (respects_throw _).bind fun _ => respects_pure _

/-- A signer is made without any contact. -/
theorem staysWithin_ofSettings (h : settings.interactive = false) :
    Respects (StaysWithin .none) (ofSettings settings environment system none) := by
  rw [ofSettings]
  split
  · exact (staysWithin_passphrase h).bind fun _ => respects_pure _
  · split
    · exact (staysWithin_passphrase h).bind fun _ =>
        (Act.respects_ofExcept _).bind fun _ => respects_pure _
    · exact respects_throw _

/-- The agents of the user are offered the values of the environment. -/
theorem environment_of_sources {found : List CredentialSource}
    (h : sources settings environment system = .ok found) {agents : AgentSource}
    (hmem : .agents agents ∈ found) : agents.environment = environment := by
  obtain ⟨path, -, h⟩ := except_bind_eq_ok.1 h
  dsimp only at h
  split at h
  · obtain ⟨home, -, h⟩ := except_bind_eq_ok.1 h
    obtain rfl := Except.ok.inj h
    simp only [List.cons_append, List.nil_append, List.mem_cons, List.not_mem_nil, or_false,
      reduceCtorEq, false_or, CredentialSource.agents.injEq] at hmem
    rw [hmem]
    rfl
  · obtain rfl := Except.ok.inj h
    simp at hmem

theorem batch_of_ofSettings (h : settings.interactive = false)
    (hmade : ofSettings settings environment system prompt? w = .ok backend w₁) :
    backend.Batch environment := by
  rw [ofSettings] at hmade
  split at hmade
  · obtain ⟨_, _, -, hmade⟩ := bind_eq_ok.1 hmade
    obtain ⟨rfl, -⟩ := pure_eq_ok.1 hmade
    exact h
  · split at hmade
    · obtain ⟨_, _, -, hmade⟩ := bind_eq_ok.1 hmade
      obtain ⟨found, _, hsources, hmade⟩ := bind_eq_ok.1 hmade
      obtain ⟨rfl, -⟩ := pure_eq_ok.1 hmade
      exact ⟨h, fun _ => environment_of_sources (Act.ofExcept_eq_ok.1 hsources).1⟩
    · exact absurd hmade throw_ne_ok

/-- Contacts for a known version are contacts for some version. -/
theorem staysWithin_of_known {known : Version → Prop} {u v : World}
    (h : u.StaysWithin (backend.contacts environment known) v) :
    u.StaysWithin (backend.contacts environment fun _ => True) v := by
  cases backend with
  | embedded credentials => exact h
  | gpg options =>
      refine h.mono (fun _ => id) (fun _ => id) fun call hcall => hcall.imp_right ?_
      rintro ⟨version, detailed, source, destination, -, hcommand⟩
      exact ⟨version, detailed, source, destination, trivial, hcommand⟩

/-- Settings for batch mode make a signer that asks nobody. A human who could be asked makes no
difference when it is made, and nobody else is turned to. Afterwards every call keeps to the
contacts of batch mode, for the version that is kept then, and so does every sequence of calls. -/
theorem batch_mode_asks_nobody (h : settings.interactive = false)
    (environment : Variables) (system : String → Option String) (prompt? : Option (Act RawText)) :
    ofSettings settings environment system prompt? =
      ofSettings settings environment system none ∧
    Respects (StaysWithin .none) (ofSettings settings environment system prompt?) ∧
    ∀ ⦃backend w w₁⦄, ofSettings settings environment system prompt? w = .ok backend w₁ →
      (∀ call u, let v := finalState (backend.signer.perform call) u
        u.StaysWithin (backend.contacts environment (v.version? = some ·)) v) ∧
      ∀ ⦃u v⦄, backend.signer.Runs u v →
        u.StaysWithin (backend.contacts environment fun _ => True) v := by
  refine ⟨ofSettings_of_batch h, ?_, fun backend w w₁ hmade => ?_⟩
  · rw [ofSettings_of_batch h]
    exact staysWithin_ofSettings h
  · have hbatch := batch_of_ofSettings h hmade
    refine ⟨staysWithin_perform hbatch, fun u v hrun => hrun.staysWithin fun call u => ?_⟩
    exact staysWithin_of_known (staysWithin_perform hbatch call u)

/-- Settings for batch mode with a key file and an agent. -/
def batchSettings : Settings where
  signer := Embedded.name
  interactive := false
  executable? := none
  home? := none
  keyName? := none
  useAgent := true
  defaultKeyring := true
  secretKeyring? := none
  publicKeyring? := none
  lockMode? := none
  arguments := []
  toolLimit? := none
  passphraseVariable := "PGPSIGN_GPG_PASSPHRASE"
  passphrase? := none
  keyFile? := some ⟨.relative, ["key"]⟩
  fingerprint? := none
  sockets := "agent"
  agentLimit? := none
  configDirectory? := some ⟨.slash, ["home"]⟩
  outputDirectory? := none

/-- A user whose key is locked, and who has an agent that greets. -/
def lockedWorld : World :=
  { AgentSource.worldOf [("/home/agent", AgentSource.agentOf ["OK"] .close)] with
    files := ⟨[(["home"], .directory), (["home", "key"], .file
      [0xC5, 22, 4, 0, 0, 0, 1, 1, 0, 1, 1, 0, 1, 1, 3, 1, 2, 3, 4, 5, 6, 7, 8, 9])]⟩ }

/-- Where the home directory of the user is. -/
def lockedUser (name : String) : Option String := if name = "HOME" then some "/home" else none

theorem locked_key_asks_nobody :
    let environment : Variables := fun name => (lockedUser name).map .ofString
    ∃ backend,
      ofSettings batchSettings environment lockedUser none lockedWorld = .ok backend lockedWorld ∧
        ∀ v, backend.signer.Runs lockedWorld v →
          lockedWorld.StaysWithin (backend.contacts environment fun _ => True) v := by
  intro environment
  have hmade : ∃ backend, ofSettings batchSettings environment lockedUser none lockedWorld =
      .ok backend lockedWorld := ⟨_, rfl⟩
  have hbatch : batchSettings.interactive = false := rfl
  obtain ⟨-, -, hcalls⟩ := batch_mode_asks_nobody hbatch environment lockedUser none
  obtain ⟨backend, hmade⟩ := hmade
  exact ⟨backend, hmade, fun v hrun => (hcalls hmade).2 hrun⟩

/-- A terminal whose name holds a request of its own. -/
def craftedTerminal : Variables := fun name =>
  if name = "TERM" then some (.ofString "x\nGET_PASSPHRASE 1 X X X") else none

/-- The name of the terminal is written to the agent as it is, and the request in it does not say
that nobody is to be asked. -/
theorem crafted_terminal_asks : ∃ backend,
    ofSettings batchSettings craftedTerminal lockedUser none lockedWorld = .ok backend lockedWorld ∧
      ∃ path text line,
        (path, some text) ∈ (finalState backend.signer.prepare lockedWorld).agentSent ∧
        line ∈ Text.separated '\n' text.toList ∧ "GET_PASSPHRASE".toList <+: line ∧
        ¬"GET_PASSPHRASE --no-ask".toList <+: line := by
  refine ⟨_, rfl, "/home/agent", "OPTION ttytype=x\nGET_PASSPHRASE 1 X X X\n",
    "GET_PASSPHRASE 1 X X X".toList, ?_, ?_, by decide, by decide⟩
  · decide +kernel
  · decide +kernel

end Backend

end ArtifactSigning
