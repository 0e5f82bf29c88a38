import ArtifactSigning.Credential.Resolver
import ArtifactSigning.Proofs.File.Keeping

/-!
# What asking for credentials leads to

A resolver reads files and talks to agents through its loaders; of its own it makes notes and
reports and nothing else. So a relation between worlds holds across a whole resolution if it holds
across these and across what the active loaders do.
-/
namespace ArtifactSigning

open Step

variable {r : World → World → Prop} [IsPreorder World r]

/-- However asking the loader ends, it leads to a related world. -/
structure Loader.Respects (r : World → World → Prop) (loader : Loader) : Prop where
  material : Step.Respects r loader.material
  fingerprint : Step.Respects r loader.fingerprint
  passphrase : ∀ key, Step.Respects r (loader.passphrase key)

theorem Act.respects_askAgent {path : String} {environment : Variables}
    {request : Agent.Request}
    (h : ∀ (w : World) (peer : Agent.Peer), r w { w with
      agentSent := w.agentSent ++ [(path, (Agent.converse peer path environment request).sent)]
      log := w.log ++ (Agent.converse peer path environment request).log }) :
    Respects r (askAgent path environment request) := by
  intro w
  rw [askAgent, finalState_get_bind]
  cases Agent.reach (w.agents.lookup path) path with
  | error failure => exact refl_of r w
  | ok peer => exact trans_of r (h w peer) (respects_ofExcept _ _)

/-- An agent without a passphrase ends the search, or the next one is asked. -/
theorem AgentSource.search_of_error {source : AgentSource} {key : SecretKey} {path : Path}
    {paths : List Path} {w d : World} {failure : Failure}
    (h : Act.askAgent path.text source.environment (source.request key) w = .error failure d) :
    ∃ next : Act (Option RawText), source.search key (path :: paths) w = next d ∧
      (next = throw failure ∨ ∃ text,
        next = (do Act.debug .loaders text; return none) ∨
        next = (do Act.debug .loaders text; source.search key paths)) := by
  rw [search]
  simp only [h]
  split
  · rename_i heq
    cases heq
  · rename_i heq
    cases heq
    exact ⟨_, rfl, .inr ⟨_, .inl rfl⟩⟩
  · rename_i heq
    cases heq
    exact ⟨_, rfl, .inr ⟨_, .inr rfl⟩⟩
  · rename_i heq
    cases heq
    exact ⟨_, rfl, .inl rfl⟩

section Sources

variable (hlog : ∀ w entry, r w { w with log := w.log ++ [entry] })
include hlog

theorem AgentSource.respects_search {source : AgentSource} {key : SecretKey}
    (hask : ∀ path : Path,
      Respects r (Act.askAgent path.text source.environment (source.request key)))
    (paths : List Path) : Respects r (source.search key paths) := by
  induction paths with
  | nil => exact respects_pure _
  | cons path paths ih =>
      intro w
      cases hrun : Act.askAgent path.text source.environment (source.request key) w with
      | ok passphrase d =>
          have hend : source.search key (path :: paths) w =
              .ok (some (.ofString passphrase)) d := by
            rw [search]
            simp only [hrun]
          rw [finalState_of_ok hend]
          exact (hask path).of_ok hrun
      | error failure d =>
          obtain ⟨next, hend, hnext⟩ := search_of_error hrun
          have hrest : Respects r next := by
            rcases hnext with rfl | ⟨text, rfl | rfl⟩
            · exact respects_throw _
            · exact (Act.respects_report_of hlog _ _ _).bind fun _ => respects_pure _
            · exact (Act.respects_report_of hlog _ _ _).bind fun _ => ih
          rw [finalState, hend]
          exact trans_of r ((hask path).of_error hrun) (hrest d)

theorem KeyFile.respects_material (file : KeyFile) : Respects r file.material := by
  refine (Act.respects_isFile _).bind fun found => ?_
  split
  · refine (Act.respects_readFile _).bind fun content => ?_
    split
    · exact (respects_throw _).bind fun _ => respects_pure _
    · exact respects_pure _
  · exact (Act.respects_report_of hlog _ _ _).bind fun _ => respects_pure _

/-- Among the sources only agents are talked to. -/
theorem CredentialSource.respects_loader {source : CredentialSource}
    (hask : ∀ agents key path, source = .agents agents →
      Respects r (Act.askAgent path agents.environment (agents.request key))) :
    source.loader.Respects r := by
  cases source with
  | environment lookup names =>
      refine ⟨?_, ?_, fun key => respects_pure _⟩
      · change Respects r (CredentialSource.material (.environment lookup names))
        rw [CredentialSource.material]
        split
        · exact respects_pure _
        · exact respects_pure _
        · exact Act.respects_ofExcept _
      · change Respects r (CredentialSource.fingerprint (.environment lookup names))
        rw [CredentialSource.fingerprint]
        split
        · exact respects_pure _
        · exact respects_pure _
        · exact Act.respects_ofExcept _
  | keyFile file =>
      exact ⟨file.respects_material hlog, Act.respects_ofExcept _, fun key => respects_pure _⟩
  | agents source =>
      refine ⟨respects_pure _, respects_pure _, fun key => ?_⟩
      exact AgentSource.respects_search hlog (fun path => hask source key path.text rfl) _

end Sources

section Resolving

variable {resolver : Resolver}

/-- A loader is active if it has its place in the list and may be asked. -/
theorem Resolver.mem_active_iff {index : Nat} {loader : Loader} :
    (index, loader) ∈ resolver.active ↔ resolver.loaders[index]? = some loader ∧
      (resolver.interactive || !loader.interactive) = true := by
  rw [active, List.mem_filter, and_congr_left_iff]
  intro _
  rw [List.mem_map]
  constructor
  · rintro ⟨⟨value, place⟩, hmem, heq⟩
    cases heq
    exact List.mem_zipIdx_iff_getElem?.1 hmem
  · intro h
    exact ⟨(loader, index), List.mem_zipIdx_iff_getElem?.2 h, rfl⟩

theorem Resolver.respects_first? {α : Type} {what : String} {question : Question}
    {load : Loader → Act (Option α)} {loaders : List (Nat × Loader)}
    (hlog : ∀ w entry, r w { w with log := w.log ++ [entry] })
    (hnote : ∀ loader ∈ loaders, ∀ w,
      r w { w with consulted := w.consulted ++ [(loader.1, question)] })
    (h : ∀ loader ∈ loaders, Respects r (load loader.2)) :
    Respects r (first? what question load loaders) := by
  induction loaders with
  | nil => exact respects_pure _
  | cons loader loaders ih =>
      obtain ⟨index, loader⟩ := loader
      have hconsult : Respects r (consult index question) := hnote _ List.mem_cons_self
      refine hconsult.bind fun _ => (h _ List.mem_cons_self).bind fun found => ?_
      cases found with
      | some value => exact (Act.respects_report_of hlog _ _ _).bind fun _ => respects_pure _
      | none =>
          exact ih (fun loader hmem => hnote loader (.tail _ hmem))
            fun loader hmem => h loader (.tail _ hmem)

/-- All that a resolver does leads to related worlds. -/
structure Resolver.Respects (r : World → World → Prop) (resolver : Resolver) : Prop where
  log : ∀ w entry, r w { w with log := w.log ++ [entry] }
  consult : ∀ loader ∈ resolver.active, ∀ w question,
    r w { w with consulted := w.consulted ++ [(loader.1, question)] }
  loader : ∀ loader ∈ resolver.active, loader.2.Respects r

namespace Resolver.Respects

omit [IsPreorder World r] in
theorem mono {r' : World → World → Prop} (h : resolver.Respects r)
    (himp : ∀ w w', r w w' → r' w w') : resolver.Respects r' where
  log w entry := himp _ _ (h.log w entry)
  consult loader hmem w question := himp _ _ (h.consult loader hmem w question)
  loader loader hmem := by
    have hloader := h.loader loader hmem
    exact ⟨hloader.material.mono himp, hloader.fingerprint.mono himp,
      fun key => (hloader.passphrase key).mono himp⟩

theorem selectKey (h : resolver.Respects r) : Step.Respects r resolver.selectKey := by
  have hnote (question) (loader) (hmem : loader ∈ resolver.active) (w : World) :=
    h.consult loader hmem w question
  refine (respects_first? h.log (hnote _) fun loader hmem => (h.loader loader hmem).material).bind
    fun found => ?_
  cases found with
  | none => exact respects_throw _
  | some material =>
      refine (respects_first? h.log (hnote _) fun loader hmem =>
        (h.loader loader hmem).fingerprint).bind fun fingerprint? => ?_
      refine (Act.respects_ofExcept _).bind fun rings => ?_
      split
      · split
        · exact respects_pure _
        · exact (respects_throw _).bind fun _ => respects_pure _
      · exact respects_throw _

theorem passphraseFor (h : resolver.Respects r) (key : SecretKey) :
    Step.Respects r (resolver.passphraseFor key) := by
  rw [Resolver.passphraseFor]
  split
  · split
    · exact respects_pure _
    · refine (respects_first? h.log (fun loader hmem w => h.consult loader hmem w _)
        fun loader hmem => (h.loader loader hmem).passphrase key).bind fun found => ?_
      split
      · exact respects_pure _
      · exact respects_throw _
  · exact respects_pure _

theorem resolve (h : resolver.Respects r) : Step.Respects r resolver.resolve := by
  refine h.selectKey.bind fun key => respects_get.bind fun w => ?_
  refine (Act.respects_ofExcept _).bind fun _ => (h.passphraseFor key).bind fun passphrase? => ?_
  refine (Act.respects_ofExcept _).bind fun resolved => ?_
  refine (Act.respects_report_of h.log _ _ _).bind fun _ => ?_
  exact (Act.respects_report_of h.log _ _ _).bind fun _ => respects_pure _

end Resolver.Respects

end Resolving

end ArtifactSigning
