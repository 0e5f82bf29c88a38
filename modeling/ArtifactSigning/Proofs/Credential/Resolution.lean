import ArtifactSigning.Credential.Resolver
import ArtifactSigning.Proofs.Step

/-!
# What a resolver hands out

Each credential comes from the first active loader that has it, whatever the loaders do when they
are asked. The key is the first wanted one of the rings in the material. It is handed out only if it
holds its private part, has not expired and unlocks; otherwise the resolver fails at the first stage
that fails.
-/
namespace ArtifactSigning

open Step

/-- The first element with a property. -/
def IsFirst {α : Type} (p : α → Prop) (items : List α) (a : α) : Prop :=
  ∃ before after, items = before ++ a :: after ∧ p a ∧ ∀ other ∈ before, ¬p other

namespace Resolver

variable {α : Type} {w w₁ w₂ w₃ : World} {index : Nat} {loader : Loader}
  {loaders later : List (Nat × Loader)} {value : α} {failure : Failure}

/-- The world after it has been noted that a loader is asked. -/
def asking (w : World) (index : Nat) (question : Question) : World :=
  { w with consulted := w.consulted ++ [(index, question)] }

/-- The world after it has been reported which loader had a value. -/
def reporting (w : World) (what : String) (loader : Loader) : World :=
  { w with log := w.log ++ [⟨.credentials, .debug, s!"Using {what} from {loader.name}"⟩] }

/-- The loaders are asked one after the other, and none of them has a value. -/
inductive Silent (question : Question) (load : Loader → Act (Option α)) :
    List (Nat × Loader) → World → World → Prop
  | nil (w : World) : Silent question load [] w w
  | cons {index : Nat} {loader : Loader} {loaders : List (Nat × Loader)} {w w₁ w₂ : World}
      (h : load loader (asking w index question) = .ok none w₁)
      (hrest : Silent question load loaders w₁ w₂) :
      Silent question load ((index, loader) :: loaders) w w₂

/-- What comes of asking the loaders: the value or the failure of the first that is not silent, or
no value if all are silent. -/
inductive FirstOf (what : String) (question : Question) (load : Loader → Act (Option α)) :
    List (Nat × Loader) → World → Except Failure (Option α) → World → Prop
  | value {before : List (Nat × Loader)} {index : Nat} {loader : Loader}
      {later : List (Nat × Loader)} {w w₁ w₂ : World} {value : α}
      (hbefore : Silent question load before w w₁)
      (h : load loader (asking w₁ index question) = .ok (some value) w₂) :
      FirstOf what question load (before ++ (index, loader) :: later) w (.ok (some value))
        (reporting w₂ what loader)
  | failure {before : List (Nat × Loader)} {index : Nat} {loader : Loader}
      {later : List (Nat × Loader)} {w w₁ w₂ : World} {failure : Failure}
      (hbefore : Silent question load before w w₁)
      (h : load loader (asking w₁ index question) = .error failure w₂) :
      FirstOf what question load (before ++ (index, loader) :: later) w (.error failure) w₂
  | silent {loaders : List (Nat × Loader)} {w w₁ : World} (h : Silent question load loaders w w₁) :
      FirstOf what question load loaders w (.ok none) w₁

section Searching

variable {what : String} {question : Question} {load : Loader → Act (Option α)}

theorem consult_eq_ok (w : World) (index : Nat) (question : Question) :
    consult index question w = .ok () (asking w index question) := rfl

theorem first?_cons_of_none (h : load loader (asking w index question) = .ok none w₁) :
    first? what question load ((index, loader) :: later) w =
      first? what question load later w₁ := by
  rw [first?, bind_of_ok _ (consult_eq_ok w index question)]
  exact bind_of_ok _ h

theorem first?_cons_of_some (h : load loader (asking w index question) = .ok (some value) w₁) :
    first? what question load ((index, loader) :: later) w =
      .ok (some value) (reporting w₁ what loader) := by
  rw [first?, bind_of_ok _ (consult_eq_ok w index question), bind_of_ok _ h]
  rfl

theorem first?_cons_of_error (h : load loader (asking w index question) = .error failure w₁) :
    first? what question load ((index, loader) :: later) w = .error failure w₁ := by
  rw [first?, bind_of_ok _ (consult_eq_ok w index question)]
  exact bind_of_error _ h

/-- Silent loaders leave the question to the later ones. -/
theorem Silent.first?_append (h : Silent question load loaders w w₁) :
    first? what question load (loaders ++ later) w = first? what question load later w₁ := by
  induction h with
  | nil w => rfl
  | cons h _ ih => rw [List.cons_append, first?_cons_of_none h, ih]

/-- A search ends as the first loader that is not silent says. -/
theorem FirstOf.first?_eq {result : Except Failure (Option α)}
    (h : FirstOf what question load loaders w result w₁) :
    first? what question load loaders w = Act.ofExcept result w₁ := by
  cases h with
  | value hbefore h => rw [hbefore.first?_append, first?_cons_of_some h]; rfl
  | failure hbefore h => rw [hbefore.first?_append, first?_cons_of_error h]; rfl
  | silent h => rw [← List.append_nil loaders, h.first?_append]; rfl

theorem FirstOf.cons {result : Except Failure (Option α)}
    (h : load loader (asking w index question) = .ok none w₁)
    (hrest : FirstOf what question load later w₁ result w₂) :
    FirstOf what question load ((index, loader) :: later) w result w₂ := by
  cases hrest with
  | value hbefore h' => exact .value (.cons h hbefore) h'
  | failure hbefore h' => exact .failure (.cons h hbefore) h'
  | silent h' => exact .silent (.cons h h')

/-- Every search has an end. -/
theorem exists_firstOf (what : String) (question : Question) (load : Loader → Act (Option α))
    (loaders : List (Nat × Loader)) (w : World) :
    ∃ result w', FirstOf what question load loaders w result w' := by
  induction loaders generalizing w with
  | nil => exact ⟨_, w, .silent (.nil w)⟩
  | cons loader loaders ih =>
      obtain ⟨index, loader⟩ := loader
      cases h : load loader (asking w index question) with
      | error failure d => exact ⟨_, d, .failure (.nil w) h⟩
      | ok found d =>
          cases found with
          | some value => exact ⟨_, _, .value (.nil w) h⟩
          | none =>
              obtain ⟨result, e, hrest⟩ := ih d
              exact ⟨result, e, hrest.cons h⟩

/-- The relation is what a search does, no more and no less. -/
theorem first?_eq_iff {result : Except Failure (Option α)} :
    first? what question load loaders w = Act.ofExcept result w₁ ↔
      FirstOf what question load loaders w result w₁ := by
  refine ⟨fun h => ?_, FirstOf.first?_eq⟩
  obtain ⟨other, d, hfirst⟩ := exists_firstOf what question load loaders w
  have heq := h.symm.trans hfirst.first?_eq
  cases result <;> cases other <;> cases heq <;> exact hfirst

end Searching

section Stages

variable {r : Resolver} {key : SecretKey} {material : Bytes} {fingerprint? : Option Bytes}
  {rings : List KeyRing} {passphrase? : Option RawText}

/-- What comes of asking the active loaders for key material. -/
abbrev Material (r : Resolver) : World → Except Failure (Option Bytes) → World → Prop :=
  FirstOf "key ring material" .material Loader.material r.active

/-- What comes of asking the active loaders for a fingerprint. -/
abbrev Fingerprint (r : Resolver) : World → Except Failure (Option Bytes) → World → Prop :=
  FirstOf "key fingerprint" .fingerprint Loader.fingerprint r.active

/-- What comes of asking the active loaders for the passphrase of a key. -/
abbrev Passphrase (r : Resolver) (key : SecretKey) :
    World → Except Failure (Option RawText) → World → Prop :=
  FirstOf "passphrase" (.passphrase key.fingerprintText) (fun loader => loader.passphrase key)
    r.active

/-- The key is one that a fingerprint names; without a fingerprint, one with its private part. -/
def Wanted (fingerprint? : Option Bytes) (key : SecretKey) : Prop :=
  match fingerprint? with
  | some fingerprint => key.fingerprint = fingerprint
  | none => key.hasPrivatePart = true

/-- The loaders have material, and a fingerprint or none. -/
def Given (r : Resolver) (w : World) (material : Bytes) (fingerprint? : Option Bytes)
    (w' : World) : Prop :=
  ∃ w₁, r.Material w (.ok (some material)) w₁ ∧ r.Fingerprint w₁ (.ok fingerprint?) w'

/-- The key is the first wanted one of the rings in the given material. -/
def Chosen (r : Resolver) (w : World) (key : SecretKey) (w' : World) : Prop :=
  ∃ material fingerprint? rings, r.Given w material fingerprint? w' ∧
    KeyRing.ofMaterial material = .ok rings ∧
    IsFirst (Wanted fingerprint?) (KeyRing.allKeys rings) key

/-- The key has expired by the clock. -/
def Expired (key : SecretKey) (now : Rat) : Prop :=
  key.validSeconds ≠ 0 ∧ ((key.created + key.validSeconds : Nat) : Rat) < now

/-- The chosen key can be unlocked, if its passphrase is known. -/
structure Usable (r : Resolver) (w : World) (key : SecretKey) (w' : World) : Prop where
  chosen : r.Chosen w key w'
  hasPrivatePart : key.hasPrivatePart = true
  not_expired : ¬Expired key w'.now

/-- The passphrase by which a key is unlocked: none if the key needs none, the one of the resolver
if it has one, else that of the first active loader with one. -/
inductive UnlockedBy (r : Resolver) (key : SecretKey) (w : World) : Option RawText → World → Prop
  | nothing (h : key.isEncrypted = false) : UnlockedBy r key w none w
  | own {passphrase : RawText} (h : key.isEncrypted = true)
      (hown : r.passphrase? = some passphrase) : UnlockedBy r key w (some passphrase) w
  | loaded {passphrase : RawText} {w' : World} (h : key.isEncrypted = true)
      (hown : r.passphrase? = none) (hloaded : r.Passphrase key w (.ok (some passphrase)) w') :
      UnlockedBy r key w (some passphrase) w'

/-- The first stage that fails, and how. -/
inductive FailsFirst (r : Resolver) (w : World) : Failure → Prop
  | noMaterial {w₁ : World} (h : r.Material w (.ok none) w₁) :
      FailsFirst r w (.credential .noMaterial)
  | material {failure : Failure} {w₁ : World} (h : r.Material w (.error failure) w₁) :
      FailsFirst r w failure
  | fingerprint {failure : Failure} {material : Bytes} {w₁ w₂ : World}
      (hmaterial : r.Material w (.ok (some material)) w₁)
      (h : r.Fingerprint w₁ (.error failure) w₂) : FailsFirst r w failure
  | unparsable {failure : Failure} {material : Bytes} {fingerprint? : Option Bytes} {w₁ : World}
      (hgiven : r.Given w material fingerprint? w₁)
      (h : KeyRing.ofMaterial material = .error failure) : FailsFirst r w failure
  | noKey {material : Bytes} {fingerprint? : Option Bytes} {rings : List KeyRing} {w₁ : World}
      (hgiven : r.Given w material fingerprint? w₁)
      (hrings : KeyRing.ofMaterial material = .ok rings)
      (h : ∀ key ∈ KeyRing.allKeys rings, ¬Wanted fingerprint? key) :
      FailsFirst r w (.credential .noKey)
  | noPrivatePart {key : SecretKey} {w₁ : World} (hchosen : r.Chosen w key w₁)
      (h : key.hasPrivatePart = false) : FailsFirst r w (.credential .noPrivateKey)
  | expired {key : SecretKey} {w₁ : World} (hchosen : r.Chosen w key w₁)
      (hprivate : key.hasPrivatePart = true) (h : Expired key w₁.now) :
      FailsFirst r w (.expired (key.created + key.validSeconds))
  | noPassphrase {key : SecretKey} {w₁ w₂ : World} (husable : r.Usable w key w₁)
      (hencrypted : key.isEncrypted = true) (hown : r.passphrase? = none)
      (h : r.Passphrase key w₁ (.ok none) w₂) : FailsFirst r w (.credential .noPassphrase)
  | passphrase {failure : Failure} {key : SecretKey} {w₁ w₂ : World} (husable : r.Usable w key w₁)
      (hencrypted : key.isEncrypted = true) (hown : r.passphrase? = none)
      (h : r.Passphrase key w₁ (.error failure) w₂) : FailsFirst r w failure
  | locked {failure : Failure} {key : SecretKey} {passphrase? : Option RawText} {w₁ w₂ : World}
      (husable : r.Usable w key w₁) (hpassphrase : r.UnlockedBy key w₁ passphrase? w₂)
      (h : key.unlock passphrase? = .error failure) : FailsFirst r w failure

theorem select?_eq_some_iff :
    KeyRing.select? rings fingerprint? = some key ↔
      IsFirst (Wanted fingerprint?) (KeyRing.allKeys rings) key := by
  rw [KeyRing.select?, List.find?_eq_some_iff_append]
  cases fingerprint? <;> simp [IsFirst, Wanted, and_left_comm]

theorem select?_eq_none_iff :
    KeyRing.select? rings fingerprint? = none ↔
      ∀ key ∈ KeyRing.allKeys rings, ¬Wanted fingerprint? key := by
  rw [KeyRing.select?, List.find?_eq_none]
  cases fingerprint? <;> simp [Wanted]

theorem checkExpiry_of_expired {now : Rat} (h : Expired key now) :
    key.checkExpiry now = .error (.expired (key.created + key.validSeconds)) := by
  rw [SecretKey.checkExpiry, if_neg h.1]
  exact if_pos h.2

theorem checkExpiry_of_not_expired {now : Rat} (h : ¬Expired key now) :
    key.checkExpiry now = .ok () := by
  rw [SecretKey.checkExpiry]
  by_cases hever : key.validSeconds = 0
  · rw [if_pos hever]
  · rw [if_neg hever]
    exact if_neg fun hlt => h ⟨hever, hlt⟩

theorem ofKey_of_error (h : key.unlock passphrase? = .error failure) :
    ResolvedKey.ofKey key passphrase? = .error failure := by
  rw [ResolvedKey.ofKey]
  split
  · rename_i heq
    cases h.symm.trans heq
  · rename_i heq
    cases h.symm.trans heq
    rfl

theorem ofKey_of_ok {privateKey : PrivateKey} (h : key.unlock passphrase? = .ok privateKey) :
    ResolvedKey.ofKey key passphrase? = .ok ⟨key, privateKey, passphrase?, h⟩ := by
  rw [ResolvedKey.ofKey]
  split
  · rename_i heq
    cases h.symm.trans heq
    rfl
  · rename_i heq
    cases h.symm.trans heq

/-- The key among the rings in the given material. -/
def selectFrom (rings : Except Failure (List KeyRing)) (fingerprint? : Option Bytes) :
    Act SecretKey := do
  let some key := KeyRing.select? (← Act.ofExcept rings) fingerprint?
    | throw (.credential .noKey)
  unless key.hasPrivatePart do throw (.credential .noPrivateKey)
  return key

theorem selectKey_of_given (h : r.Given w material fingerprint? w₁) :
    r.selectKey w = selectFrom (KeyRing.ofMaterial material) fingerprint? w₁ := by
  obtain ⟨d, hmaterial, hfingerprint⟩ := h
  rw [selectKey, bind_of_ok _ hmaterial.first?_eq]
  exact bind_of_ok _ hfingerprint.first?_eq

/-- Among rings, the first wanted key is selected. -/
theorem selectFrom_ok (rings : List KeyRing) (fingerprint? : Option Bytes) (w : World) :
    selectFrom (.ok rings) fingerprint? w =
      match KeyRing.select? rings fingerprint? with
      | none => .error (.credential .noKey) w
      | some key =>
          if key.hasPrivatePart then .ok key w else .error (.credential .noPrivateKey) w := by
  rw [selectFrom, bind_of_ok _ (show Act.ofExcept (.ok rings) w = .ok rings w from rfl)]
  cases KeyRing.select? rings fingerprint? with
  | none => rfl
  | some key =>
      dsimp only
      cases key.hasPrivatePart <;> rfl

theorem selectKey_of_chosen (h : r.Chosen w key w₁) :
    r.selectKey w =
      if key.hasPrivatePart then .ok key w₁ else .error (.credential .noPrivateKey) w₁ := by
  obtain ⟨material, fingerprint?, rings, hgiven, hrings, hfirst⟩ := h
  rw [selectKey_of_given hgiven, hrings, selectFrom_ok, select?_eq_some_iff.2 hfirst]

theorem passphraseFor_of_unlockedBy (h : r.UnlockedBy key w passphrase? w₁) :
    r.passphraseFor key w = .ok passphrase? w₁ := by
  rw [passphraseFor]
  cases h with
  | nothing h =>
      rw [h]
      rfl
  | own h hown =>
      rw [if_pos h, hown]
      rfl
  | loaded h hown hloaded =>
      rw [if_pos h, hown]
      exact bind_of_ok _ hloaded.first?_eq

/-- A usable key is unlocked by its passphrase. -/
theorem resolve_of_usable (h : r.Usable w key w₁) :
    r.resolve w = (do
      let passphrase? ← r.passphraseFor key
      let resolved ← Act.ofExcept (ResolvedKey.ofKey key passphrase?)
      Act.debug .keys s!"Unlocked {key.algorithm.name} key {key.fingerprintText}"
      Act.debug .credentials
        s!"Selected {key.algorithm.name} key {key.fingerprintText} for signing"
      return resolved : Act ResolvedKey) w₁ := by
  have hkey : r.selectKey w = .ok key w₁ := by
    rw [selectKey_of_chosen h.chosen, if_pos h.hasPrivatePart]
  rw [resolve, bind_of_ok _ hkey, bind_of_ok _ (get_eq_ok w₁),
    checkExpiry_of_not_expired h.not_expired]
  rfl

theorem resolve_of_unlocked {privateKey : PrivateKey} (husable : r.Usable w key w₁)
    (hpassphrase : r.UnlockedBy key w₁ passphrase? w₂)
    (h : key.unlock passphrase? = .ok privateKey) :
    ∃ w', r.resolve w = .ok ⟨key, privateKey, passphrase?, h⟩ w' := by
  rw [resolve_of_usable husable, bind_of_ok _ (passphraseFor_of_unlockedBy hpassphrase),
    ofKey_of_ok h]
  exact ⟨_, rfl⟩

theorem resolve_of_selectKey (h : r.selectKey w = .error failure w₁) :
    r.resolve w = .error failure w₁ := bind_of_error _ h

/-- The resolver fails as the first stage that fails. -/
theorem FailsFirst.resolve_eq (h : r.FailsFirst w failure) :
    ∃ w', r.resolve w = .error failure w' := by
  cases h with
  | noMaterial h => exact ⟨_, resolve_of_selectKey (bind_of_ok _ h.first?_eq)⟩
  | material h => exact ⟨_, resolve_of_selectKey (bind_of_error _ h.first?_eq)⟩
  | fingerprint hmaterial h =>
      exact ⟨_, resolve_of_selectKey
        ((bind_of_ok _ hmaterial.first?_eq).trans (bind_of_error _ h.first?_eq))⟩
  | unparsable hgiven h =>
      have hkey := selectKey_of_given hgiven
      rw [h] at hkey
      exact ⟨_, resolve_of_selectKey hkey⟩
  | noKey hgiven hrings h =>
      have hkey := selectKey_of_given hgiven
      rw [hrings, selectFrom_ok, select?_eq_none_iff.2 h] at hkey
      exact ⟨_, resolve_of_selectKey hkey⟩
  | noPrivatePart hchosen h =>
      have hkey := selectKey_of_chosen hchosen
      rw [h] at hkey
      exact ⟨_, resolve_of_selectKey hkey⟩
  | expired hchosen hprivate h =>
      have hkey := selectKey_of_chosen hchosen
      rw [if_pos hprivate] at hkey
      rw [resolve, bind_of_ok _ hkey, bind_of_ok _ (get_eq_ok _), checkExpiry_of_expired h]
      exact ⟨_, rfl⟩
  | noPassphrase husable hencrypted hown h =>
      rw [resolve_of_usable husable, passphraseFor, if_pos hencrypted, hown]
      exact ⟨_, bind_of_error _ (bind_of_ok _ h.first?_eq)⟩
  | passphrase husable hencrypted hown h =>
      rw [resolve_of_usable husable, passphraseFor, if_pos hencrypted, hown]
      exact ⟨_, bind_of_error _ (bind_of_error _ h.first?_eq)⟩
  | locked husable hpassphrase h =>
      rw [resolve_of_usable husable, bind_of_ok _ (passphraseFor_of_unlockedBy hpassphrase),
        ofKey_of_error h]
      exact ⟨_, rfl⟩

/-- The loaders and the rings yield a key, or one of the stages up to there fails first. -/
theorem chosen_or_failsFirst (r : Resolver) (w : World) :
    (∃ key w₁, r.Chosen w key w₁) ∨ ∃ failure, r.FailsFirst w failure := by
  obtain ⟨material, w₁, hmaterial⟩ := exists_firstOf "key ring material" .material
    Loader.material r.active w
  rcases material with failure | none | material
  · exact .inr ⟨failure, .material hmaterial⟩
  · exact .inr ⟨_, .noMaterial hmaterial⟩
  obtain ⟨fingerprint, w₂, hfingerprint⟩ := exists_firstOf "key fingerprint" .fingerprint
    Loader.fingerprint r.active w₁
  rcases fingerprint with failure | fingerprint?
  · exact .inr ⟨failure, .fingerprint hmaterial hfingerprint⟩
  have hgiven : r.Given w material fingerprint? w₂ := ⟨w₁, hmaterial, hfingerprint⟩
  cases hrings : KeyRing.ofMaterial material with
  | error failure => exact .inr ⟨failure, .unparsable hgiven hrings⟩
  | ok rings =>
      cases hkey : KeyRing.select? rings fingerprint? with
      | none => exact .inr ⟨_, .noKey hgiven hrings (select?_eq_none_iff.1 hkey)⟩
      | some key =>
          exact .inl ⟨key, w₂, material, fingerprint?, rings, hgiven, hrings,
            select?_eq_some_iff.1 hkey⟩

theorem Usable.of_chosen (h : r.Chosen w key w₁) :
    r.Usable w key w₁ ∨ ∃ failure, r.FailsFirst w failure := by
  cases hprivate : key.hasPrivatePart with
  | false => exact .inr ⟨_, .noPrivatePart h hprivate⟩
  | true =>
      by_cases hexpired : Expired key w₁.now
      · exact .inr ⟨_, .expired h hprivate hexpired⟩
      · exact .inl ⟨h, hprivate, hexpired⟩

theorem Usable.unlockedBy_or_failsFirst (h : r.Usable w key w₁) :
    (∃ passphrase? w₂, r.UnlockedBy key w₁ passphrase? w₂) ∨
      ∃ failure, r.FailsFirst w failure := by
  cases hencrypted : key.isEncrypted with
  | false => exact .inl ⟨none, w₁, .nothing hencrypted⟩
  | true =>
      cases hown : r.passphrase? with
      | some passphrase => exact .inl ⟨_, w₁, .own hencrypted hown⟩
      | none =>
          obtain ⟨found, w₂, hfound⟩ := exists_firstOf "passphrase"
            (.passphrase key.fingerprintText) (fun loader => loader.passphrase key) r.active w₁
          rcases found with failure | none | passphrase
          · exact .inr ⟨failure, .passphrase h hencrypted hown hfound⟩
          · exact .inr ⟨_, .noPassphrase h hencrypted hown hfound⟩
          · exact .inl ⟨_, w₂, .loaded hencrypted hown hfound⟩

/-- A usable key is unlocked, or a stage fails first. -/
theorem unlocked_or_failsFirst (r : Resolver) (w : World) :
    (∃ key w₁ passphrase? w₂ privateKey, r.Usable w key w₁ ∧
      r.UnlockedBy key w₁ passphrase? w₂ ∧ key.unlock passphrase? = .ok privateKey) ∨
      ∃ failure, r.FailsFirst w failure := by
  rcases chosen_or_failsFirst r w with ⟨key, w₁, hchosen⟩ | hfails
  · rcases Usable.of_chosen hchosen with husable | hfails
    · rcases husable.unlockedBy_or_failsFirst with ⟨passphrase?, w₂, hpassphrase⟩ | hfails
      · cases hunlock : key.unlock passphrase? with
        | error failure => exact .inr ⟨failure, .locked husable hpassphrase hunlock⟩
        | ok privateKey =>
            exact .inl ⟨key, w₁, passphrase?, w₂, privateKey, husable, hpassphrase, hunlock⟩
      · exact .inr hfails
    · exact .inr hfails
  · exact .inr hfails

end Stages

theorem not_expired_iff {key : SecretKey} {now : Rat} : ¬Expired key now ↔
    key.validSeconds = 0 ∨ now ≤ ((key.created + key.validSeconds : Nat) : Rat) := by
  rw [Expired, Classical.not_and_iff_not_or_not, Classical.not_not, Rat.not_lt]

/-- Which key a resolver hands out, and otherwise how it fails. The key is handed out if every stage
succeeds: there is material, the loaders have a fingerprint or none, the material can be read, the
key is the first wanted one, holds its private part, has not expired and unlocks by the passphrase
that is taken for it. -/
theorem resolve_outcome (r : Resolver) (w : World) :
    (∀ resolved, (∃ w', r.resolve w = .ok resolved w') ↔
      ∃ material w₁ fingerprint? w₂ rings passphrase? w₃,
        r.Material w (.ok (some material)) w₁ ∧ r.Fingerprint w₁ (.ok fingerprint?) w₂ ∧
        KeyRing.ofMaterial material = .ok rings ∧
        IsFirst (Wanted fingerprint?) (KeyRing.allKeys rings) resolved.key ∧
        resolved.key.hasPrivatePart = true ∧
        (resolved.key.validSeconds = 0 ∨
          w₂.now ≤ ((resolved.key.created + resolved.key.validSeconds : Nat) : Rat)) ∧
        r.UnlockedBy resolved.key w₂ passphrase? w₃ ∧
        resolved.key.unlock passphrase? = .ok resolved.privateKey) ∧
    ∀ failure, (∃ w', r.resolve w = .error failure w') ↔ r.FailsFirst w failure := by
  refine ⟨fun resolved => ⟨?_, ?_⟩, fun failure => ⟨?_, FailsFirst.resolve_eq⟩⟩
  · rintro ⟨w', hresolved⟩
    rcases unlocked_or_failsFirst r w with
      ⟨key, w₂, passphrase?, w₃, privateKey, husable, hpassphrase, hunlock⟩ | ⟨failure, hfails⟩
    · obtain ⟨e, hend⟩ := resolve_of_unlocked husable hpassphrase hunlock
      cases hend.symm.trans hresolved
      obtain ⟨material, fingerprint?, rings, ⟨w₁, hmaterial, hfingerprint⟩, hrings, hfirst⟩ :=
        husable.chosen
      exact ⟨material, w₁, fingerprint?, w₂, rings, passphrase?, w₃, hmaterial, hfingerprint,
        hrings, hfirst, husable.hasPrivatePart, not_expired_iff.1 husable.not_expired,
        hpassphrase, hunlock⟩
    · obtain ⟨e, hend⟩ := hfails.resolve_eq
      cases hend.symm.trans hresolved
  · rintro ⟨material, w₁, fingerprint?, w₂, rings, passphrase?, w₃, hmaterial, hfingerprint,
      hrings, hfirst, hprivate, hvalid, hpassphrase, hunlock⟩
    have husable : r.Usable w resolved.key w₂ :=
      ⟨⟨material, fingerprint?, rings, ⟨w₁, hmaterial, hfingerprint⟩, hrings, hfirst⟩, hprivate,
        not_expired_iff.2 hvalid⟩
    exact resolve_of_unlocked husable hpassphrase hunlock
  · rintro ⟨w', hfailed⟩
    rcases unlocked_or_failsFirst r w with
      ⟨key, w₂, passphrase?, w₃, privateKey, husable, hpassphrase, hunlock⟩ | ⟨cause, hfails⟩
    · obtain ⟨e, hend⟩ := resolve_of_unlocked husable hpassphrase hunlock
      cases hend.symm.trans hfailed
    · obtain ⟨e, hend⟩ := hfails.resolve_eq
      cases hend.symm.trans hfailed
      exact hfails

end Resolver

end ArtifactSigning
