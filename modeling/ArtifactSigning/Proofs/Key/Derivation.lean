import ArtifactSigning.Key.StringToKey
import ArtifactSigning.Proofs.Key.Primitives

/-!
# What a passphrase is hashed as

`StringToKey.fed?` gives the octets that a specifier makes of a passphrase. The derived key consists
of the first octets of their digests behind no zero octet, one, two and so on, however the hash
functions absorb them.
-/
namespace ArtifactSigning

theorem flatten_replicate_flatten (m n : Nat) (bytes : Bytes) :
    (List.replicate m (List.replicate n bytes).flatten).flatten =
      (List.replicate (m * n) bytes).flatten := by
  induction m with
  | zero => simp
  | succ m ih =>
      rw [List.replicate_succ, List.flatten_cons, ih, Nat.succ_mul, Nat.add_comm,
        ← List.replicate_append_replicate, List.flatten_append]

theorem length_flatten_replicate (n : Nat) (bytes : Bytes) :
    (List.replicate n bytes).flatten.length = n * bytes.length := by
  simp [List.length_flatten]

/-- A repetition begins with as many whole blocks of repetitions as fit. -/
theorem repeatTo_blocks {count n : Nat} {bytes : Bytes} (hbytes : bytes ≠ []) :
    (List.replicate (count / (n * bytes.length)) (List.replicate n bytes).flatten).flatten ++
        repeatTo (count % (n * bytes.length)) bytes = repeatTo count bytes := by
  have hpos : 0 < bytes.length := List.length_pos_iff.2 hbytes
  have hcount := Nat.div_add_mod count (n * bytes.length)
  generalize count / (n * bytes.length) = whole at hcount ⊢
  generalize count % (n * bytes.length) = left at hcount ⊢
  have hsum : count = left + whole * n * bytes.length := by
    rw [← hcount, Nat.mul_comm (n * bytes.length), Nat.mul_assoc, Nat.add_comm]
  have hdiv : count / bytes.length = whole * n + left / bytes.length := by
    rw [hsum, Nat.add_mul_div_right _ _ hpos, Nat.add_comm]
  have hmod : count % bytes.length = left % bytes.length := by
    rw [hsum, Nat.add_mul_mod_self_right]
  rw [repeatTo, repeatTo, hdiv, hmod, flatten_replicate_flatten, ← List.append_assoc,
    ← List.flatten_append, List.replicate_append_replicate]

namespace BlockHash.Context

variable {h : BlockHash}

theorem repeat_update (c : Context h) (n : Nat) (block : Bytes) :
    Nat.repeat (·.update block) n c = c.update (List.replicate n block).flatten := by
  induction n with
  | zero => rfl
  | succ n ih =>
      rw [Nat.repeat, ih, ← update_append, List.replicate_succ', List.flatten_append,
        List.flatten_singleton]

/-- Absorbing a repetition block by block is absorbing it octet by octet. -/
theorem updateRepeated_eq (c : Context h) (count : Nat) (bytes : Bytes) :
    c.updateRepeated count bytes = c.update (repeatTo count bytes) := by
  by_cases hbytes : bytes = []
  · simp [updateRepeated, hbytes, repeatTo]
  · simp only [updateRepeated, List.isEmpty_iff, if_neg hbytes, repeat_update, ← update_append,
      length_flatten_replicate, repeatTo_blocks hbytes]

end BlockHash.Context

namespace StringToKey

variable {primitives : Primitives} {specifier : StringToKey} {hash : HashAlgorithm}
  {passphrase fed : Bytes}

/-- The octets that are hashed for a passphrase, if the kind of the specifier has a rule. -/
def fed? (specifier : StringToKey) (passphrase : Bytes) : Option Bytes :=
  match specifier with
  | .simple _ => some passphrase
  | .salted _ salt => some (salt ++ passphrase)
  | .iterated _ salt count =>
      some (repeatTo (max count (salt ++ passphrase).length) (salt ++ passphrase))
  | .placeholder .. | .reserved .. => none

theorem feed_eq {h : BlockHash} {c : BlockHash.Context h}
    (hfed : specifier.fed? passphrase = some fed) :
    specifier.feed passphrase c = .ok (c.update fed) := by
  cases specifier with
  | simple | salted =>
      cases hfed
      rfl
  | iterated =>
      cases hfed
      rw [feed, BlockHash.Context.updateRepeated_eq]
  | placeholder | reserved => cases hfed

theorem digestBehind_eq (hfed : specifier.fed? passphrase = some fed) (zeros : Nat) :
    specifier.digestBehind primitives hash passphrase zeros =
      .ok (primitives.hash hash (List.replicate zeros 0 ++ fed)) := by
  rw [digestBehind, feed_eq hfed, ← BlockHash.Context.update_append]
  rfl

/-- The digests of some octets behind no zero octet, one, two and so on. -/
def digests (primitives : Primitives) (hash : HashAlgorithm) (fed : Bytes) (count : Nat) : Bytes :=
  (List.range count).flatMap fun zeros => primitives.hash hash (List.replicate zeros 0 ++ fed)

theorem length_digests (hsizes : primitives.FixedSizes) (count : Nat) :
    (digests primitives hash fed count).length = count * hash.size := by
  simp [digests, List.length_flatMap, hsizes.length_hash, List.map_const']

/-- The number of digests that `size` octets need. -/
def digestCount (hash : HashAlgorithm) (size : Nat) : Nat := (size + hash.size - 1) / hash.size

theorem le_digestCount (hash : HashAlgorithm) (size : Nat) :
    size ≤ digestCount hash size * hash.size := by
  have hpos := hash.size_pos
  have hdiv := Nat.div_add_mod (size + hash.size - 1) hash.size
  have hmod := Nat.mod_lt (size + hash.size - 1) hpos
  rw [Nat.mul_comm] at hdiv
  rw [digestCount]
  omega

/-- A derived key is the front of the digests. -/
theorem deriveKeyWith_eq (hhash : HashAlgorithm.ofId specifier.hash = .ok hash)
    (hfed : specifier.fed? passphrase = some fed) (size : Nat) :
    specifier.deriveKeyWith primitives passphrase size =
      .ok ((digests primitives hash fed (digestCount hash size)).take size) := by
  rw [deriveKeyWith]
  by_cases hsize : size = 0
  · rw [if_pos hsize, hsize, List.take_zero]
  · have hsteps : specifier.digestBehind primitives hash passphrase =
        fun zeros => pure (primitives.hash hash (List.replicate zeros 0 ++ fed)) :=
      funext (digestBehind_eq hfed)
    rw [if_neg hsize, hhash]
    have hdigests : (List.range (digestCount hash size)).mapM
        (specifier.digestBehind primitives hash passphrase) =
          .ok ((List.range (digestCount hash size)).map fun zeros =>
            primitives.hash hash (List.replicate zeros 0 ++ fed)) := by
      rw [hsteps, List.mapM_pure]
      rfl
    exact congrArg (·.map fun digests => digests.flatten.take size) hdigests

/-- A key of every size is derived. -/
theorem exists_deriveKeyWith (hsizes : primitives.FixedSizes)
    (hhash : HashAlgorithm.ofId specifier.hash = .ok hash)
    (hfed : specifier.fed? passphrase = some fed) (size : Nat) :
    ∃ key, specifier.deriveKeyWith primitives passphrase size = .ok key ∧ key.length = size := by
  refine ⟨_, deriveKeyWith_eq hhash hfed size, ?_⟩
  rw [List.length_take, length_digests hsizes]
  exact Nat.min_eq_left (le_digestCount hash size)

end StringToKey

end ArtifactSigning
