import ArtifactSigning.Proofs.Credential.Asking
import ArtifactSigning.Proofs.Credential.Resolution

/-!
# Whom a resolver asks

A resolver keeps a record of the loaders that it asks and of what it asks them for. It asks for key
material, then for a fingerprint, and for a passphrase only if the selected key cannot be unlocked
without one; each time it asks the active loaders in order, up to the first one that has a value. A
loader that fails is the last one to be asked.
-/
namespace ArtifactSigning

open Step

/-- In both worlds the record of who was asked is the same. -/
def World.SameRecord (w w' : World) : Prop := w'.consulted = w.consulted

instance : IsPreorder World World.SameRecord where
  refl _ := rfl
  trans _ _ _ h h' := h'.trans h

/-- The record is the resolver's own: whatever the loader does, it makes no entry. -/
abbrev Loader.KeepsRecord (loader : Loader) : Prop := loader.Respects World.SameRecord

theorem CredentialSource.keepsRecord (source : CredentialSource) : source.loader.KeepsRecord :=
  CredentialSource.respects_loader (fun _ _ => rfl) fun _ _ _ _ =>
    Act.respects_askAgent fun _ _ => rfl

/-- The failure of a result that is one. -/
def failureOf? {α : Type} : Except Failure α → Option Failure
  | .ok _ => none
  | .error failure => some failure

namespace Resolver

variable {α : Type} {r : Resolver} {w w₁ w₂ w' : World} {loaders asked : List (Nat × Loader)}

/-- A search through loaders, the loaders that it asks, and what comes of it: all up to the first
one with a value or a failure are asked, or all of them. -/
inductive Search (what : String) (question : Question) (load : Loader → Act (Option α)) :
    List (Nat × Loader) → World → List (Nat × Loader) → Except Failure (Option α) → World → Prop
  | value {before : List (Nat × Loader)} {index : Nat} {loader : Loader}
      {later : List (Nat × Loader)} {w w₁ w₂ : World} {value : α}
      (hbefore : Silent question load before w w₁)
      (h : load loader (asking w₁ index question) = .ok (some value) w₂) :
      Search what question load (before ++ (index, loader) :: later) w
        (before ++ [(index, loader)]) (.ok (some value)) (reporting w₂ what loader)
  | failure {before : List (Nat × Loader)} {index : Nat} {loader : Loader}
      {later : List (Nat × Loader)} {w w₁ w₂ : World} {failure : Failure}
      (hbefore : Silent question load before w w₁)
      (h : load loader (asking w₁ index question) = .error failure w₂) :
      Search what question load (before ++ (index, loader) :: later) w
        (before ++ [(index, loader)]) (.error failure) w₂
  | silent {loaders : List (Nat × Loader)} {w w₁ : World} (h : Silent question load loaders w w₁) :
      Search what question load loaders w loaders (.ok none) w₁

/-- The entries of the record for loaders that are asked one question. -/
def entriesOf (question : Question) (asked : List (Nat × Loader)) : List (Nat × Question) :=
  asked.map fun loader => (loader.1, question)

section Searching

variable {what : String} {question : Question} {load : Loader → Act (Option α)}
  {result : Except Failure (Option α)}

theorem Search.firstOf (h : Search what question load loaders w asked result w') :
    FirstOf what question load loaders w result w' := by
  cases h with
  | value hbefore h => exact .value hbefore h
  | failure hbefore h => exact .failure hbefore h
  | silent h => exact .silent h

/-- Every search asks some loaders. -/
theorem exists_search (what : String) (question : Question) (load : Loader → Act (Option α))
    (loaders : List (Nat × Loader)) (w : World) :
    ∃ asked result w', Search what question load loaders w asked result w' := by
  obtain ⟨result, w', h⟩ := exists_firstOf what question load loaders w
  cases h with
  | value hbefore h => exact ⟨_, _, _, .value hbefore h⟩
  | failure hbefore h => exact ⟨_, _, _, .failure hbefore h⟩
  | silent h => exact ⟨_, _, _, .silent h⟩

theorem Search.subset (h : Search what question load loaders w asked result w') :
    asked ⊆ loaders := by
  cases h with
  | value hbefore h => simp
  | failure hbefore h => simp
  | silent h => simp

section Record

variable (hload : ∀ loader ∈ loaders, Step.Respects World.SameRecord (load loader.2))
include hload

theorem Silent.consulted (h : Silent question load loaders w w') :
    w'.consulted = w.consulted ++ entriesOf question loaders := by
  induction h with
  | nil w => simp [entriesOf]
  | cons h hrest ih =>
    have hkept := (hload _ List.mem_cons_self).of_ok h
    rw [ih fun loader hmem => hload loader (.tail _ hmem), hkept]
    simp [asking, entriesOf]

/-- The record grows by the loaders that are asked, in order. -/
theorem Search.consulted (h : Search what question load loaders w asked result w') :
    w'.consulted = w.consulted ++ entriesOf question asked := by
  cases h with
  | silent h => exact h.consulted hload
  | @value before index loader later _ w₁ w₂ value hbefore h =>
    have hsilent := hbefore.consulted fun loader hmem => hload loader (by simp [hmem])
    have hkept := (hload (index, loader) (by simp)).of_ok h
    change w₂.consulted = _
    rw [hkept, asking, hsilent]
    simp [entriesOf]
  | @failure before index loader later _ w₁ w₂ failure hbefore h =>
    have hsilent := hbefore.consulted fun loader hmem => hload loader (by simp [hmem])
    have hkept := (hload (index, loader) (by simp)).of_error h
    rw [hkept, asking, hsilent]
    simp [entriesOf]

end Record

end Searching

section Calls

/-- A search among the active loaders for key material. -/
abbrev MaterialSearch (r : Resolver) :
    World → List (Nat × Loader) → Except Failure (Option Bytes) → World → Prop :=
  Search "key ring material" .material Loader.material r.active

/-- A search among the active loaders for a fingerprint. -/
abbrev FingerprintSearch (r : Resolver) :
    World → List (Nat × Loader) → Except Failure (Option Bytes) → World → Prop :=
  Search "key fingerprint" .fingerprint Loader.fingerprint r.active

/-- A search among the active loaders for the passphrase of a key. -/
abbrev PassphraseSearch (r : Resolver) (key : SecretKey) :
    World → List (Nat × Loader) → Except Failure (Option RawText) → World → Prop :=
  Search "passphrase" (.passphrase key.fingerprintText) (fun loader => loader.passphrase key)
    r.active

/-- The key can only be unlocked by a passphrase that a loader has: it holds its private part, has
not expired and is encrypted, and the resolver has no passphrase of its own. -/
structure NeedsLoader (r : Resolver) (now : Rat) (key : SecretKey) : Prop where
  hasPrivatePart : key.hasPrivatePart = true
  not_expired : ¬Expired key now
  isEncrypted : key.isEncrypted = true
  not_own : r.passphrase? = none

/-- The key is the first wanted one of the rings in some material. -/
def Selected (material : Bytes) (fingerprint? : Option Bytes) (key : SecretKey) : Prop :=
  ∃ rings, KeyRing.ofMaterial material = .ok rings ∧
    IsFirst (Wanted fingerprint?) (KeyRing.allKeys rings) key

/-- The entries that a resolution makes, and the failure of the loader that ends it, if one does. -/
inductive Entries (r : Resolver) (w : World) : List (Nat × Question) → Option Failure → Prop
  /-- Without material nothing else is asked for. -/
  | material {materials : List (Nat × Loader)} {result : Except Failure (Option Bytes)} {w₁ : World}
      (h : r.MaterialSearch w materials result w₁)
      (hnone : ∀ material, result ≠ .ok (some material)) :
      Entries r w (entriesOf .material materials) (failureOf? result)
  /-- Unless the key needs it, no passphrase is asked for. -/
  | fingerprint {materials fingerprints : List (Nat × Loader)} {material : Bytes}
      {result : Except Failure (Option Bytes)} {w₁ w₂ : World}
      (hmaterial : r.MaterialSearch w materials (.ok (some material)) w₁)
      (h : r.FingerprintSearch w₁ fingerprints result w₂)
      (hneeds : ∀ fingerprint? key, result = .ok fingerprint? →
        Selected material fingerprint? key → ¬r.NeedsLoader w₂.now key) :
      Entries r w (entriesOf .material materials ++ entriesOf .fingerprint fingerprints)
        (failureOf? result)
  | passphrase {materials fingerprints passphrases : List (Nat × Loader)} {material : Bytes}
      {fingerprint? : Option Bytes} {key : SecretKey} {result : Except Failure (Option RawText)}
      {w₁ w₂ w₃ : World} (hmaterial : r.MaterialSearch w materials (.ok (some material)) w₁)
      (hfingerprint : r.FingerprintSearch w₁ fingerprints (.ok fingerprint?) w₂)
      (hselected : Selected material fingerprint? key) (hneeds : r.NeedsLoader w₂.now key)
      (h : r.PassphraseSearch key w₂ passphrases result w₃) :
      Entries r w (entriesOf .material materials ++ entriesOf .fingerprint fingerprints ++
        entriesOf (.passphrase key.fingerprintText) passphrases) (failureOf? result)

variable {entries : List (Nat × Question)} {failure? : Option Failure} {key : SecretKey}
  {material : Bytes} {fingerprint? : Option Bytes}

/-- Every resolution makes some entries. -/
theorem exists_entries (r : Resolver) (w : World) :
    ∃ entries failure?, r.Entries w entries failure? := by
  obtain ⟨materials, result, w₁, hmaterial⟩ := exists_search "key ring material" .material
    Loader.material r.active w
  by_cases hfound : ∃ material, result = .ok (some material)
  · obtain ⟨material, rfl⟩ := hfound
    obtain ⟨fingerprints, result, w₂, hfingerprint⟩ := exists_search "key fingerprint" .fingerprint
      Loader.fingerprint r.active w₁
    by_cases hneeds : ∃ fingerprint? key, result = .ok fingerprint? ∧
        Selected material fingerprint? key ∧ r.NeedsLoader w₂.now key
    · obtain ⟨fingerprint?, key, rfl, hselected, hneeds⟩ := hneeds
      obtain ⟨passphrases, result, w₃, hpassphrase⟩ := exists_search "passphrase"
        (.passphrase key.fingerprintText) (fun loader => loader.passphrase key) r.active w₂
      exact ⟨_, _, .passphrase hmaterial hfingerprint hselected hneeds hpassphrase⟩
    · refine ⟨_, _, .fingerprint hmaterial hfingerprint ?_⟩
      intro fingerprint? key hresult hselected hkey
      exact hneeds ⟨fingerprint?, key, hresult, hselected, hkey⟩
  · refine ⟨_, _, .material hmaterial ?_⟩
    intro material hresult
    exact hfound ⟨material, hresult⟩

/-- Only active loaders are asked. -/
theorem Entries.exists_active (h : r.Entries w entries failure?) {entry : Nat × Question}
    (hmem : entry ∈ entries) : ∃ loader, (entry.1, loader) ∈ r.active := by
  have hasked : ∀ {question : Question} {asked : List (Nat × Loader)}, asked ⊆ r.active →
      entry ∈ entriesOf question asked → ∃ loader, (entry.1, loader) ∈ r.active := by
    intro question asked hsubset hmem
    obtain ⟨⟨index, loader⟩, hloader, rfl⟩ := List.mem_map.1 hmem
    exact ⟨loader, hsubset hloader⟩
  cases h with
  | material h _ => exact hasked h.subset hmem
  | fingerprint hmaterial h _ =>
    rcases List.mem_append.1 hmem with hmem | hmem
    · exact hasked hmaterial.subset hmem
    · exact hasked h.subset hmem
  | passphrase hmaterial hfingerprint _ _ h =>
    rcases List.mem_append.1 hmem with hmem | hmem
    · rcases List.mem_append.1 hmem with hmem | hmem
      · exact hasked hmaterial.subset hmem
      · exact hasked hfingerprint.subset hmem
    · exact hasked h.subset hmem

/-- What is done with a key and its passphrase. -/
def unlockBy (key : SecretKey) (passphrase? : Option RawText) : Act ResolvedKey := do
  let resolved ← Act.ofExcept (ResolvedKey.ofKey key passphrase?)
  Act.debug .keys s!"Unlocked {key.algorithm.name} key {key.fingerprintText}"
  Act.debug .credentials s!"Selected {key.algorithm.name} key {key.fingerprintText} for signing"
  return resolved

/-- What is done with the selected key. -/
def unlockSelected (r : Resolver) (key : SecretKey) : Act ResolvedKey := do
  Act.ofExcept (key.checkExpiry (← get).now)
  let passphrase? ← r.passphraseFor key
  unlockBy key passphrase?

theorem resolve_eq (r : Resolver) : r.resolve = r.selectKey >>= r.unlockSelected := rfl

/-- After the passphrase nobody is asked. -/
theorem sameRecord_unlockBy (key : SecretKey) (passphrase? : Option RawText) :
    Step.Respects World.SameRecord (unlockBy key passphrase?) := by
  have hlog : ∀ (w : World) (entry : LogEntry),
      World.SameRecord w { w with log := w.log ++ [entry] } := fun _ _ => rfl
  refine (Act.respects_ofExcept _).bind fun resolved => ?_
  refine (Act.respects_report_of hlog _ _ _).bind fun _ => ?_
  refine (Act.respects_report_of hlog _ _ _).bind fun _ => ?_
  exact respects_pure resolved

/-- A usable key that needs no loader has its passphrase without asking. -/
theorem passphraseFor_of_not_needsLoader (h : ¬r.NeedsLoader w.now key)
    (hprivate : key.hasPrivatePart = true) (hexpired : ¬Expired key w.now) :
    ∃ passphrase?, r.passphraseFor key w = .ok passphrase? w := by
  by_cases hencrypted : key.isEncrypted = true
  · cases hown : r.passphrase? with
    | some own => exact ⟨some own, passphraseFor_of_unlockedBy (.own hencrypted hown)⟩
    | none => exact absurd ⟨hprivate, hexpired, hencrypted, hown⟩ h
  · exact ⟨none, passphraseFor_of_unlockedBy (.nothing (by simpa using hencrypted))⟩

/-- A key that needs no loader is unlocked, or is not, without asking. -/
theorem consulted_unlockSelected (h : ¬r.NeedsLoader w.now key)
    (hprivate : key.hasPrivatePart = true) :
    (finalState (r.unlockSelected key) w).consulted = w.consulted := by
  rw [unlockSelected, finalState_get_bind]
  by_cases hexpired : Expired key w.now
  · rw [checkExpiry_of_expired hexpired]
    rfl
  · obtain ⟨passphrase?, hpassphrase⟩ := passphraseFor_of_not_needsLoader h hprivate hexpired
    have hrest := Step.Respects.after (sameRecord_unlockBy key) (r.passphraseFor key) w
    rw [finalState_of_ok hpassphrase] at hrest
    rw [checkExpiry_of_not_expired hexpired]
    exact hrest

theorem Search.given {materials fingerprints : List (Nat × Loader)}
    (hmaterial : r.MaterialSearch w materials (.ok (some material)) w₁)
    (hfingerprint : r.FingerprintSearch w₁ fingerprints (.ok fingerprint?) w₂) :
    r.Given w material fingerprint? w₂ := ⟨w₁, hmaterial.firstOf, hfingerprint.firstOf⟩

/-- Once material and fingerprint are there, nobody is asked unless the selected key needs it. -/
theorem consulted_of_given (hgiven : r.Given w material fingerprint? w₁)
    (hneeds : ∀ key, Selected material fingerprint? key → ¬r.NeedsLoader w₁.now key) :
    (finalState r.resolve w).consulted = w₁.consulted := by
  have hselect := selectKey_of_given hgiven
  cases hrings : KeyRing.ofMaterial material with
  | error failure =>
    rw [hrings] at hselect
    rw [resolve_eq, finalState_bind_of_error (hselect.trans rfl)]
  | ok rings =>
    rw [hrings, selectFrom_ok] at hselect
    cases hkey : KeyRing.select? rings fingerprint? with
    | none =>
      rw [hkey] at hselect
      rw [resolve_eq, finalState_bind_of_error hselect]
    | some key =>
      rw [hkey] at hselect
      by_cases hprivate : key.hasPrivatePart = true
      · simp only [if_pos hprivate] at hselect
        rw [resolve_eq, finalState_bind_of_ok hselect]
        exact consulted_unlockSelected
          (hneeds key ⟨rings, hrings, select?_eq_some_iff.1 hkey⟩) hprivate
      · simp only [if_neg hprivate] at hselect
        rw [resolve_eq, finalState_bind_of_error hselect]

theorem Selected.chosen (h : Selected material fingerprint? key)
    (hgiven : r.Given w material fingerprint? w₁) : r.Chosen w key w₁ := by
  obtain ⟨rings, hrings, hfirst⟩ := h
  exact ⟨material, fingerprint?, rings, hgiven, hrings, hfirst⟩

/-- A key that needs a loader is unlocked after the search for its passphrase. -/
theorem consulted_of_search {passphrases : List (Nat × Loader)}
    {result : Except Failure (Option RawText)} (hchosen : r.Chosen w key w₁)
    (hneeds : r.NeedsLoader w₁.now key)
    (h : r.PassphraseSearch key w₁ passphrases result w₂) :
    (finalState r.resolve w).consulted = w₂.consulted := by
  have husable : r.Usable w key w₁ := ⟨hchosen, hneeds.hasPrivatePart, hneeds.not_expired⟩
  have hsearch := h.firstOf.first?_eq
  have hfor : finalState (r.passphraseFor key) w₁ = w₂ := by
    rw [passphraseFor, if_pos hneeds.isEncrypted, hneeds.not_own]
    rcases result with failure | none | passphrase
    · exact finalState_of_error (bind_of_error _ hsearch)
    · exact finalState_of_error (bind_of_ok _ hsearch)
    · exact finalState_of_ok (bind_of_ok _ hsearch)
  rw [finalState, resolve_of_usable husable, ← hfor]
  exact Step.Respects.after (sameRecord_unlockBy key) (r.passphraseFor key) w₁

/-- The record of a resolution consists of its entries. -/
theorem Entries.consulted (h : r.Entries w entries failure?)
    (hkeeps : ∀ loader ∈ r.active, loader.2.KeepsRecord) :
    (finalState r.resolve w).consulted = w.consulted ++ entries := by
  have hmaterialKeeps := fun loader hmem => (hkeeps loader hmem).material
  have hfingerprintKeeps := fun loader hmem => (hkeeps loader hmem).fingerprint
  cases h with
  | @material materials result w₁ h hnone =>
    have hsearch := h.firstOf.first?_eq
    rw [← h.consulted hmaterialKeeps]
    rcases result with failure | none | material
    · rw [finalState_of_error (resolve_of_selectKey (bind_of_error _ hsearch))]
    · rw [finalState_of_error (resolve_of_selectKey (bind_of_ok _ hsearch))]
    · exact absurd rfl (hnone material)
  | @fingerprint materials fingerprints material result w₁ w₂ hmaterial h hneeds =>
    rw [← List.append_assoc, ← hmaterial.consulted hmaterialKeeps,
      ← h.consulted hfingerprintKeeps]
    rcases result with failure | fingerprint?
    · have hselect : r.selectKey w = .error failure w₂ :=
        (bind_of_ok _ hmaterial.firstOf.first?_eq).trans (bind_of_error _ h.firstOf.first?_eq)
      rw [finalState_of_error (resolve_of_selectKey hselect)]
    · exact consulted_of_given (hmaterial.given h) fun key => hneeds fingerprint? key rfl
  | @passphrase materials fingerprints passphrases material fingerprint? key result w₁ w₂ w₃
      hmaterial hfingerprint hselected hneeds h =>
    rw [← List.append_assoc, ← List.append_assoc, ← hmaterial.consulted hmaterialKeeps,
      ← hfingerprint.consulted hfingerprintKeeps,
      ← h.consulted fun loader hmem => (hkeeps loader hmem).passphrase key]
    exact consulted_of_search (hselected.chosen (hmaterial.given hfingerprint)) hneeds h

/-- A loader that fails ends the resolution with its failure. -/
theorem Entries.resolve_eq {failure : Failure} (h : r.Entries w entries (some failure)) :
    ∃ w', r.resolve w = .error failure w' := by
  -- A search that has not failed has no failure to report, so only the failed ones are left.
  generalize hfailed : some failure = failed? at h
  apply FailsFirst.resolve_eq
  cases h with
  | @material materials result w₁ h hnone =>
    cases result with
    | ok found => cases hfailed
    | error cause =>
      cases hfailed
      exact .material h.firstOf
  | @fingerprint materials fingerprints material result w₁ w₂ hmaterial h hneeds =>
    cases result with
    | ok found => cases hfailed
    | error cause =>
      cases hfailed
      exact .fingerprint hmaterial.firstOf h.firstOf
  | @passphrase materials fingerprints passphrases material fingerprint? key result w₁ w₂ w₃
      hmaterial hfingerprint hselected hneeds h =>
    cases result with
    | ok found => cases hfailed
    | error cause =>
      cases hfailed
      have hchosen : r.Chosen w key w₂ := hselected.chosen (hmaterial.given hfingerprint)
      exact .passphrase ⟨hchosen, hneeds.hasPrivatePart, hneeds.not_expired⟩ hneeds.isEncrypted
        hneeds.not_own h.firstOf

/-- Whom a resolution asks, and for what. The record grows by the entries of the searches and by
nothing else: for material, for a fingerprint if there is material, and for the passphrase of the
selected key if it needs a loader. A loader that fails ends the resolution with its failure. A
loader that may bother a human is not asked unless that is allowed. The record is the resolver's
own, so that loaders of every kind keep it. -/
theorem consulted_by_resolve (r : Resolver) (w : World)
    (hkeeps : ∀ loader ∈ r.active, loader.2.KeepsRecord) :
    (∀ entries, (finalState r.resolve w).consulted = w.consulted ++ entries ↔
      ∃ failure?, r.Entries w entries failure?) ∧
    (∀ entries failure, r.Entries w entries (some failure) →
      ∃ w', r.resolve w = .error failure w') ∧
    ∀ entries failure?, r.Entries w entries failure? → ∀ entry ∈ entries,
      ∃ loader, r.loaders[entry.1]? = some loader ∧
        (r.interactive = false → loader.interactive = false) := by
  refine ⟨fun entries => ⟨?_, ?_⟩, fun _ _ => Entries.resolve_eq, ?_⟩
  · intro hgrown
    obtain ⟨made, failure?, hmade⟩ := exists_entries r w
    -- Every resolution makes some entries, and the record leaves no choice which.
    have hsame := hgrown.symm.trans (hmade.consulted hkeeps)
    rw [List.append_cancel_left hsame]
    exact ⟨failure?, hmade⟩
  · intro h
    obtain ⟨failure?, hmade⟩ := h
    exact hmade.consulted hkeeps
  · intro entries failure? hmade entry hmem
    obtain ⟨loader, hactive⟩ := hmade.exists_active hmem
    obtain ⟨hplace, hallowed⟩ := mem_active_iff.1 hactive
    refine ⟨loader, hplace, ?_⟩
    intro hmode
    simpa [hmode] using hallowed

end Calls

/-- A resolver that may not bother a human, with three sources: agents that might do so, a key file
and variables. -/
def unattended : Resolver where
  loaders :=
    [.agents ⟨["agent"], ⟨.slash, ["home"]⟩, true, none, fun _ => none, .keyId⟩,
      .keyFile ⟨⟨.slash, ["key"]⟩, none⟩,
      .environment (fun name => some (.ofString name)) .usual].map CredentialSource.loader
  interactive := false
  passphrase? := none

/-- Without a key file the material is that of the variables, and their fingerprint ends the
resolution; the agents are not asked. -/
theorem consulted_by_unattended :
    let w := World.start ⟨[]⟩ [] 0 ⟨.absent, []⟩
    (∀ loader ∈ unattended.active, loader.2.KeepsRecord) ∧
      ∃ failure?, unattended.Entries w
        [(1, .material), (2, .material), (1, .fingerprint), (2, .fingerprint)] failure? := by
  intro w
  have hkeeps : ∀ loader ∈ unattended.active, loader.2.KeepsRecord := by
    intro loader hmem
    obtain ⟨hplace, -⟩ := mem_active_iff.1 hmem
    have hsource := List.mem_of_getElem? hplace
    obtain ⟨source, -, heq⟩ := List.mem_map.1 hsource
    rw [← heq]
    exact source.keepsRecord
  exact ⟨hkeeps, ((consulted_by_resolve unattended w hkeeps).1 _).1 rfl⟩

end Resolver

end ArtifactSigning
