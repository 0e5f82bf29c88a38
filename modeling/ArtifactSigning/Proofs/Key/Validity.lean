import ArtifactSigning.Proofs.Credential.Resolution
import Mathlib.Data.List.Induction
import Mathlib.Data.List.Pairwise

/-!
# How long a key is valid

Self-signatures of some kinds decide on the validity of a key, and of these only the newest one
counts, the first one if several are equally new. So a signature that is older or of another kind
changes nothing wherever it is put in, a newer one takes over, and the order matters only among
equally old ones. A key is refused after the instant that it reports as its end.
-/
namespace ArtifactSigning

/-- The creation time of a signature; one without a time counts as the oldest. -/
def SelfSignature.time (s : SelfSignature) : Nat := s.created?.getD 0

namespace SecretKey

variable {key : SecretKey} {s : SelfSignature} {signatures front back : List SelfSignature}

/-- The key with other self-signatures. -/
def withSignatures (key : SecretKey) (signatures : List SelfSignature) : SecretKey :=
  { key with selfSignatures := signatures }

/-- The signature is of a kind that decides on the validity of the key: for a subkey the one by
which it is bound, for a primary key the four certifications and the direct signature. -/
def Decides (key : SecretKey) (s : SelfSignature) : Prop :=
  if key.isSubkey then s.kind = 0x18 else s.kind ∈ [0x10, 0x11, 0x12, 0x13, 0x1F]

instance (key : SecretKey) : DecidablePred key.Decides := fun s =>
  inferInstanceAs (Decidable (if key.isSubkey then s.kind = 0x18
    else s.kind ∈ [0x10, 0x11, 0x12, 0x13, 0x1F]))

/-- Among some signatures, none that decides is newer. -/
def IsNewest (key : SecretKey) (signatures : List SelfSignature) (s : SelfSignature) : Prop :=
  key.Decides s ∧ ∀ other ∈ signatures, key.Decides other → other.time ≤ s.time

instance (key : SecretKey) (signatures : List SelfSignature) :
    DecidablePred (key.IsNewest signatures) := fun s =>
  inferInstanceAs (Decidable (key.Decides s ∧
    ∀ other ∈ signatures, key.Decides other → other.time ≤ s.time))

theorem contains_validityKinds (key : SecretKey) (s : SelfSignature) :
    key.validityKinds.contains s.kind = decide (key.Decides s) := by
  unfold validityKinds
  by_cases h : key.isSubkey <;>
    simp [Decides, h, SelfSignature.subkeyKinds, SelfSignature.primaryKinds]

/-- Going through signatures, the later of two is taken over only if it is newer. -/
theorem later_eq (best s : SelfSignature) :
    later best s = if best.time < s.time then s else best := rfl

/-- What is left in the end is the first one of the greatest time. -/
theorem foldl_later (first : SelfSignature) (others : List SelfSignature) :
    ∃ before after, first :: others = before ++ others.foldl later first :: after ∧
      (∀ s ∈ before, s.time < (others.foldl later first).time) ∧
      ∀ s ∈ after, s.time ≤ (others.foldl later first).time := by
  induction others using List.reverseRecOn with
  | nil => exact ⟨[], [], by simp⟩
  | append_singleton others s ih =>
    obtain ⟨before, after, heq, hbefore, hafter⟩ := ih
    rw [List.foldl_append, List.foldl_cons, List.foldl_nil, later_eq, ← List.cons_append, heq]
    generalize others.foldl later first = best at *
    by_cases hnewer : best.time < s.time
    · rw [if_pos hnewer]
      refine ⟨before ++ best :: after, [], by simp, ?_, by simp⟩
      intro other hother
      simp only [List.mem_append, List.mem_cons] at hother
      rcases hother with hother | rfl | hother
      · exact Nat.lt_trans (hbefore other hother) hnewer
      · exact hnewer
      · exact Nat.lt_of_le_of_lt (hafter other hother) hnewer
    · rw [if_neg hnewer]
      refine ⟨before, after ++ [s], by simp, hbefore, ?_⟩
      intro other hother
      simp only [List.mem_append, List.mem_singleton] at hother
      rcases hother with hother | rfl
      · exact hafter other hother
      · exact Nat.le_of_not_lt hnewer

theorem find?_of_foldl_later (first : SelfSignature) (others : List SelfSignature) :
    (first :: others).find? (fun s => ∀ other ∈ first :: others, other.time ≤ s.time) =
      some (others.foldl later first) := by
  obtain ⟨before, after, heq, hbefore, hafter⟩ := foldl_later first others
  generalize others.foldl later first = newest at *
  rw [List.find?_eq_some_iff_append, heq]
  have hnewest : ∀ other ∈ before ++ newest :: after, other.time ≤ newest.time := by
    intro other hother
    simp only [List.mem_append, List.mem_cons] at hother
    rcases hother with hother | rfl | hother
    · exact Nat.le_of_lt (hbefore other hother)
    · exact Nat.le_refl _
    · exact hafter other hother
  refine ⟨by simpa using hnewest, before, after, rfl, ?_⟩
  intro other hother
  have hless := hbefore other hother
  simp only [Bool.not_eq_eq_eq_not, Bool.not_true, decide_eq_false_iff_not]
  intro hall
  have hle := hall newest (by simp)
  omega

/-- The newest self-signature is looked for among those that decide. -/
theorem newestSelfSignature?_eq (key : SecretKey) :
    key.newestSelfSignature? = key.selfSignatures.find? fun s =>
      decide (key.IsNewest key.selfSignatures s) := by
  have hfilter : (key.selfSignatures.filter fun s => key.validityKinds.contains s.kind) =
      key.selfSignatures.filter fun s => decide (key.Decides s) :=
    List.filter_congr fun s _ => contains_validityKinds key s
  have hfind : (key.selfSignatures.find? fun s => decide (key.IsNewest key.selfSignatures s)) =
      (key.selfSignatures.filter fun s => decide (key.Decides s)).find? fun s =>
        ∀ other ∈ key.selfSignatures.filter fun s => decide (key.Decides s),
          other.time ≤ s.time := by
    rw [List.find?_filter]
    congr 1
    ext s
    rw [decide_eq_decide]
    simp [IsNewest]
  rw [hfind, newestSelfSignature?, hfilter]
  cases key.selfSignatures.filter fun s => decide (key.Decides s) with
  | nil => rfl
  | cons first others => exact (find?_of_foldl_later first others).symm

/-- A key without signatures that decide is valid for ever; otherwise the first of the newest ones
says for how long. -/
theorem validSeconds_eq (key : SecretKey) :
    (∃ s, IsFirst (key.IsNewest key.selfSignatures) key.selfSignatures s ∧
      key.validSeconds = s.keyExpiration?.getD 0) ∨
    (∀ s ∈ key.selfSignatures, ¬key.Decides s) ∧ key.validSeconds = 0 := by
  unfold validSeconds
  cases hnewest : key.newestSelfSignature? with
  | some s =>
    rw [newestSelfSignature?_eq, List.find?_eq_some_iff_append] at hnewest
    obtain ⟨hs, before, after, heq, hbefore⟩ := hnewest
    refine .inl ⟨s, ⟨before, after, heq, by simpa using hs, ?_⟩, rfl⟩
    intro other hother
    simpa using hbefore other hother
  | none =>
    refine .inr ⟨?_, rfl⟩
    intro s hmem hs
    unfold newestSelfSignature? at hnewest
    split at hnewest
    · rename_i hnil
      have hmem' : s ∈ key.selfSignatures.filter fun s => key.validityKinds.contains s.kind := by
        rw [List.mem_filter, contains_validityKinds]
        exact ⟨hmem, decide_eq_true hs⟩
      rw [hnil] at hmem'
      exact List.not_mem_nil hmem'
    · cases hnewest

theorem newestSelfSignature?_withSignatures (key : SecretKey) (signatures : List SelfSignature) :
    (key.withSignatures signatures).newestSelfSignature? =
      signatures.find? fun s => decide (key.IsNewest signatures s) :=
  newestSelfSignature?_eq (key.withSignatures signatures)

theorem mem_insert_iff {other : SelfSignature} :
    other ∈ front ++ s :: back ↔ other = s ∨ other ∈ front ++ back := by
  simp only [List.mem_append, List.mem_cons]
  tauto

/-- A signature that does not decide, or is older than another one that does. -/
def Outdated (key : SecretKey) (signatures : List SelfSignature) (s : SelfSignature) : Prop :=
  ¬key.Decides s ∨ ∃ other ∈ signatures, key.Decides other ∧ s.time < other.time

/-- A signature that decides and is newer than all others that do. -/
def Renews (key : SecretKey) (signatures : List SelfSignature) (s : SelfSignature) : Prop :=
  key.Decides s ∧ ∀ other ∈ signatures, key.Decides other → other.time < s.time

theorem Outdated.isNewest_iff (h : key.Outdated (front ++ back) s) (t : SelfSignature) :
    key.IsNewest (front ++ s :: back) t ↔ key.IsNewest (front ++ back) t := by
  simp only [IsNewest, mem_insert_iff, forall_eq_or_imp, and_congr_right_iff]
  intro _
  refine ⟨And.right, fun hnewest => ⟨fun hdecides => ?_, hnewest⟩⟩
  rcases h with h | ⟨other, hother, hdecides', hless⟩
  · exact absurd hdecides h
  · have hle := hnewest other hother hdecides'
    omega

theorem Outdated.not_isNewest (h : key.Outdated signatures s) : ¬key.IsNewest signatures s := by
  rintro ⟨hdecides, hnewest⟩
  rcases h with h | ⟨other, hother, hdecides', hless⟩
  · exact h hdecides
  · have hle := hnewest other hother hdecides'
    omega

/-- An outdated signature changes nothing, wherever it is put in. -/
theorem Outdated.newestSelfSignature?_eq (h : key.Outdated (front ++ back) s) :
    (key.withSignatures (front ++ s :: back)).newestSelfSignature? =
      (key.withSignatures (front ++ back)).newestSelfSignature? := by
  simp only [newestSelfSignature?_withSignatures, h.isNewest_iff, List.find?_append,
    List.find?_cons, h.not_isNewest, decide_false]

/-- A signature that is newer than all others takes over, wherever it is put in. -/
theorem Renews.newestSelfSignature?_eq (h : key.Renews (front ++ back) s) :
    (key.withSignatures (front ++ s :: back)).newestSelfSignature? = some s := by
  have hnewest : key.IsNewest (front ++ s :: back) s := by
    refine ⟨h.1, fun other hother hdecides => ?_⟩
    rcases mem_insert_iff.1 hother with rfl | hother
    · exact Nat.le_refl _
    · exact Nat.le_of_lt (h.2 other hother hdecides)
  rw [newestSelfSignature?_withSignatures, List.find?_eq_some_iff_append]
  refine ⟨decide_eq_true hnewest, front, back, rfl, fun other hother => ?_⟩
  have hnot : ¬key.IsNewest (front ++ s :: back) other := by
    rintro ⟨hdecides, hall⟩
    have hless := h.2 other (List.mem_append_left _ hother) hdecides
    have hle := hall s (mem_insert_iff.2 (.inl rfl)) h.1
    omega
  simpa using hnot

/-- Of the signatures that decide, no two are equally old. -/
def DistinctTimes (key : SecretKey) (signatures : List SelfSignature) : Prop :=
  signatures.Pairwise fun s t => key.Decides s → key.Decides t → s.time ≠ t.time

instance (key : SecretKey) : Std.Symm fun s t : SelfSignature =>
    key.Decides s → key.Decides t → s.time ≠ t.time :=
  ⟨fun _ _ h ht hs => (h hs ht).symm⟩

/-- Without equally old signatures, only one is the newest. -/
theorem DistinctTimes.newestSelfSignature?_eq_some_iff (h : key.DistinctTimes signatures) :
    (key.withSignatures signatures).newestSelfSignature? = some s ↔
      s ∈ signatures ∧ key.IsNewest signatures s := by
  rw [newestSelfSignature?_withSignatures]
  constructor
  · intro hfound
    exact ⟨List.mem_of_find?_eq_some hfound, by simpa using List.find?_some hfound⟩
  · rintro ⟨hmem, hnewest⟩
    cases hfound : signatures.find? fun t => decide (key.IsNewest signatures t) with
    | none =>
      have hnot := List.find?_eq_none.1 hfound s hmem
      exact absurd (decide_eq_true hnewest) hnot
    | some t =>
      have hmem' := List.mem_of_find?_eq_some hfound
      have hnewest' : key.IsNewest signatures t := by simpa using List.find?_some hfound
      have htime : t.time = s.time :=
        Nat.le_antisymm (hnewest.2 t hmem' hnewest'.1) (hnewest'.2 s hmem hnewest.1)
      by_contra hne
      rw [Option.some.injEq] at hne
      exact h.forall hmem' hmem hne hnewest'.1 hnewest.1 htime

/-- Without equally old signatures, their order does not matter. -/
theorem DistinctTimes.newestSelfSignature?_perm {reordered : List SelfSignature}
    (h : key.DistinctTimes signatures) (hperm : reordered.Perm signatures) :
    (key.withSignatures reordered).newestSelfSignature? =
      (key.withSignatures signatures).newestSelfSignature? := by
  have h' : key.DistinctTimes reordered := (hperm.pairwise_iff fun h ht hs => (h hs ht).symm).2 h
  ext s
  rw [h'.newestSelfSignature?_eq_some_iff, h.newestSelfSignature?_eq_some_iff]
  simp only [IsNewest, hperm.mem_iff]

theorem validSeconds_of_newest
    (h : (key.withSignatures signatures).newestSelfSignature? = key.newestSelfSignature?) :
    (key.withSignatures signatures).validSeconds = key.validSeconds := by
  rw [validSeconds, validSeconds, h]

/-- The check counts the end of the validity anew, and agrees with the end that is reported. -/
theorem checkExpiry_eq_expiresAt? (key : SecretKey) (now : Rat) :
    key.checkExpiry now =
      match key.expiresAt? with
      | none => .ok ()
      | some instant => if (instant : Rat) < now then .error (.expired instant) else .ok () := by
  rw [checkExpiry, expiresAt?]
  split <;> rfl

/-- A key is refused exactly after the instant that it reports as its end. -/
theorem checkExpiry_eq_error_iff {now : Rat} {failure : Failure} :
    key.checkExpiry now = .error failure ↔
      0 < key.validSeconds ∧ ((key.created + key.validSeconds : Nat) : Rat) < now ∧
        key.expiresAt? = some (key.created + key.validSeconds) ∧
        failure = .expired (key.created + key.validSeconds) := by
  by_cases hexpired : Resolver.Expired key now
  · rw [Resolver.checkExpiry_of_expired hexpired, expiresAt?, if_neg hexpired.1]
    have hpositive := Nat.pos_of_ne_zero hexpired.1
    simp only [Except.error.injEq, hpositive, hexpired.2, true_and]
    exact eq_comm
  · rw [Resolver.checkExpiry_of_not_expired hexpired]
    constructor
    · intro h
      cases h
    · rintro ⟨hpositive, hless, -⟩
      exact absurd ⟨Nat.ne_of_gt hpositive, hless⟩ hexpired

/-- The validity of a key is that of its newest self-signature, and none without one. It does not
change if an outdated signature is put in, it is that of a signature that renews it, and it does not
depend on the order of signatures of distinct times. The key is refused when it is over. -/
theorem validity_follows_newest (key : SecretKey) :
    ((∃ s, IsFirst (key.IsNewest key.selfSignatures) key.selfSignatures s ∧
        key.validSeconds = s.keyExpiration?.getD 0) ∨
      (∀ s ∈ key.selfSignatures, ¬key.Decides s) ∧ key.validSeconds = 0) ∧
    (∀ front back s, key.selfSignatures = front ++ back →
      (key.Outdated key.selfSignatures s →
        (key.withSignatures (front ++ s :: back)).validSeconds = key.validSeconds) ∧
      (key.Renews key.selfSignatures s →
        (key.withSignatures (front ++ s :: back)).validSeconds = s.keyExpiration?.getD 0)) ∧
    (∀ reordered, reordered.Perm key.selfSignatures → key.DistinctTimes key.selfSignatures →
      (key.withSignatures reordered).validSeconds = key.validSeconds) ∧
    ∀ now failure, key.checkExpiry now = .error failure ↔
      0 < key.validSeconds ∧ ((key.created + key.validSeconds : Nat) : Rat) < now ∧
        key.expiresAt? = some (key.created + key.validSeconds) ∧
        failure = .expired (key.created + key.validSeconds) := by
  refine ⟨validSeconds_eq key, ?_, ?_, fun _ _ => checkExpiry_eq_error_iff⟩
  · intro front back s heq
    rw [heq]
    constructor
    · intro houtdated
      apply validSeconds_of_newest
      rw [houtdated.newestSelfSignature?_eq, ← heq]
      rfl
    · intro hrenews
      rw [validSeconds, hrenews.newestSelfSignature?_eq]
      rfl
  · intro reordered hperm hdistinct
    exact validSeconds_of_newest (hdistinct.newestSelfSignature?_perm hperm)

/-- Of two equally old certifications the first one counts. -/
example (key : SecretKey) (h : key.isSubkey = false) :
    (key.withSignatures [⟨0x13, some 5, some 60, none, none⟩,
      ⟨0x10, some 5, some 90, none, none⟩]).validSeconds = 60 := by
  simp [validSeconds, newestSelfSignature?, validityKinds, withSignatures, h, later,
    SelfSignature.primaryKinds]

end SecretKey

end ArtifactSigning
