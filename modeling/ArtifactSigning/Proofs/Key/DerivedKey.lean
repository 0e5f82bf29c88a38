import ArtifactSigning.Proofs.Key.Derivation

/-!
# Derived keys as fronts of endless strings

Both what is hashed for a passphrase and the key that is derived are the front of endlessly many
octets: of a repetition of salt and passphrase, and of digests one after the other. `IsFront` says
this of any endless sequence of parts; fronts of one sequence are unique, and a shorter one is a
prefix of a longer one. The derivation is then what the standard says it is, for every passphrase
and every size of the key.
-/
namespace ArtifactSigning

variable {parts : Nat → Bytes} {bytes bytes' : Bytes} {count count' n : Nat}

/-- The first parts of a sequence, one after the other. -/
def joined (parts : Nat → Bytes) (n : Nat) : Bytes := (List.range n).flatMap parts

/-- The octets are the first `count` ones of the endlessly many parts. -/
def IsFront (count : Nat) (parts : Nat → Bytes) (bytes : Bytes) : Prop :=
  ∃ n, count ≤ (joined parts n).length ∧ bytes = (joined parts n).take count

theorem joined_prefix (parts : Nat → Bytes) {m : Nat} (h : n ≤ m) :
    joined parts n <+: joined parts m := by
  obtain ⟨more, rfl⟩ := Nat.exists_eq_add_of_le h
  rw [joined, joined, List.range_add, List.flatMap_append]
  exact List.prefix_append _ _

namespace IsFront

theorem length_eq (h : IsFront count parts bytes) : bytes.length = count := by
  obtain ⟨n, hle, rfl⟩ := h
  rw [List.length_take, Nat.min_eq_left hle]

/-- However many parts are taken, the front is the same. -/
theorem eq_take {m : Nat} (h : IsFront count parts bytes) (hm : count ≤ (joined parts m).length) :
    bytes = (joined parts m).take count := by
  obtain ⟨n, hn, rfl⟩ := h
  rcases Nat.le_total n m with hle | hle
  · obtain ⟨more, hmore⟩ := joined_prefix parts hle
    rw [← hmore, List.take_append_of_le_length hn]
  · obtain ⟨more, hmore⟩ := joined_prefix parts hle
    rw [← hmore, List.take_append_of_le_length hm]

/-- A shorter front is a prefix of a longer one. -/
theorem isPrefix (h : IsFront count parts bytes) (h' : IsFront count' parts bytes')
    (hle : count ≤ count') : bytes <+: bytes' := by
  obtain ⟨m, hm, rfl⟩ := h'
  have htake : bytes = ((joined parts m).take count').take count := by
    rw [List.take_take, Nat.min_eq_left hle, h.eq_take (Nat.le_trans hle hm)]
  rw [htake]
  exact List.take_prefix _ _

theorem unique (h : IsFront count parts bytes) (h' : IsFront count parts bytes') :
    bytes = bytes' :=
  (h.isPrefix h' (Nat.le_refl _)).eq_of_length (h.length_eq.trans h'.length_eq.symm)

end IsFront

theorem joined_const (n : Nat) (bytes : Bytes) :
    joined (fun _ => bytes) n = (List.replicate n bytes).flatten := by
  simp [joined, List.flatMap_def, List.map_const']

/-- A repetition is the front of an endless one. -/
theorem isFront_repeatTo (count : Nat) (h : bytes ≠ []) :
    IsFront count (fun _ => bytes) (repeatTo count bytes) := by
  have hpos : 0 < bytes.length := List.length_pos_iff.2 h
  have hmod := Nat.mod_lt count hpos
  have hdiv := Nat.div_add_mod count bytes.length
  refine ⟨count / bytes.length + 1, ?_, ?_⟩
  · rw [joined_const, length_flatten_replicate, Nat.succ_mul, Nat.mul_comm]
    omega
  · have hwhole : (List.replicate (count / bytes.length) bytes).flatten.length ≤ count := by
      rw [length_flatten_replicate]
      exact Nat.div_mul_le_self _ _
    have hleft : count - count / bytes.length * bytes.length = count % bytes.length := by
      rw [Nat.mul_comm]
      omega
    rw [joined_const, repeatTo, List.replicate_succ', List.flatten_append, List.flatten_singleton,
      List.take_append, List.take_of_length_le hwhole, length_flatten_replicate, hleft]

namespace BlockHash.Context

variable {h : BlockHash} {c : Context h}

/-- Absorbing a repetition by large blocks is absorbing the front of an endless one. -/
theorem updateRepeated_eq_of_isFront (hbytes : bytes ≠ [])
    (hfront : IsFront count (fun _ => bytes) bytes') :
    c.updateRepeated count bytes = c.update bytes' := by
  rw [updateRepeated_eq, (isFront_repeatTo count hbytes).unique hfront]

end BlockHash.Context

namespace StringToKey

variable {specifier : StringToKey} {passphrase s : Bytes} {primitives : Primitives}
  {hash : HashAlgorithm}

/-- Whether there is a rule by which a key is derived. -/
def hasRule : StringToKey → Bool
  | .simple _ | .salted .. | .iterated .. => true
  | .placeholder .. | .reserved .. => false

/-- What a specifier makes of a passphrase: the passphrase alone, behind the salt, or in an endless
repetition with the salt, of which at least one round is hashed. -/
inductive Hashed : StringToKey → Bytes → Bytes → Prop
  | simple {hash : Int} {passphrase : Bytes} : Hashed (.simple hash) passphrase passphrase
  | salted {hash : Int} {salt passphrase : Bytes} :
      Hashed (.salted hash salt) passphrase (salt ++ passphrase)
  | iterated {hash : Int} {salt passphrase s : Bytes} {count : Nat}
      (hne : salt ++ passphrase ≠ [])
      (h : IsFront (max count (salt ++ passphrase).length) (fun _ => salt ++ passphrase) s) :
      Hashed (.iterated hash salt count) passphrase s
  | nothing {hash : Int} {count : Nat} : Hashed (.iterated hash [] count) [] []

/-- A specifier with a rule hashes something for every passphrase. -/
theorem exists_hashed (h : specifier.hasRule) (passphrase : Bytes) :
    ∃ s, Hashed specifier passphrase s ∧ specifier.fed? passphrase = some s := by
  cases specifier with
  | simple hash => exact ⟨_, .simple, rfl⟩
  | salted hash salt => exact ⟨_, .salted, rfl⟩
  | iterated hash salt count =>
      by_cases hne : salt ++ passphrase = []
      · obtain ⟨rfl, rfl⟩ := List.append_eq_nil_iff.1 hne
        exact ⟨[], .nothing, by simp [fed?, repeatTo]⟩
      · exact ⟨_, .iterated hne (isFront_repeatTo _ hne), rfl⟩
  | placeholder hash mode => cases h
  | reserved kind hash => cases h

/-- A derived key is the front of endlessly many digests. -/
theorem exists_isFront_of_fed (hsizes : primitives.FixedSizes)
    (hhash : HashAlgorithm.ofId specifier.hash = .ok hash)
    (hfed : specifier.fed? passphrase = some s) (size : Nat) :
    ∃ key, specifier.deriveKeyWith primitives passphrase size = .ok key ∧
      IsFront size (fun zeros => primitives.hash hash (List.replicate zeros 0 ++ s)) key := by
  refine ⟨_, deriveKeyWith_eq hhash hfed size, digestCount hash size, ?_, rfl⟩
  exact Nat.le_trans (le_digestCount hash size) (Nat.le_of_eq (length_digests hsizes _).symm)

/-- The key that is derived from a passphrase is the front of the digests of what the specifier
makes of it, behind no zero octet, one, two and so on. So it has the size that is asked for and is
a prefix of every longer key. Repeated octets are absorbed as they follow one another, however they
are cut into blocks. -/
theorem deriveKey_isFront :
    (∀ (specifier : StringToKey) hash passphrase, specifier.hasRule →
      HashAlgorithm.ofId specifier.hash = .ok hash →
        ∃ s, Hashed specifier passphrase s ∧ ∀ size, ∃ key,
          specifier.deriveKey passphrase size = .ok key ∧
            IsFront size (fun zeros => hash.hash (List.replicate zeros 0 ++ s)) key ∧
            key.length = size ∧
            ∀ more, size ≤ more → ∃ longer, specifier.deriveKey passphrase more = .ok longer ∧
              key <+: longer) ∧
      ∀ (h : BlockHash) (c : BlockHash.Context h) count bytes,
        (bytes = [] → c.updateRepeated count bytes = c) ∧
          ∀ s, bytes ≠ [] → IsFront count (fun _ => bytes) s →
            c.updateRepeated count bytes = c.update s := by
  constructor
  · intro specifier hash passphrase hrule hhash
    obtain ⟨s, hs, hfed⟩ := exists_hashed hrule passphrase
    refine ⟨s, hs, fun size => ?_⟩
    have hkeys := exists_isFront_of_fed Primitives.fixedSizes_standard hhash hfed
    obtain ⟨key, hkey, hfront⟩ := hkeys size
    refine ⟨key, hkey, hfront, hfront.length_eq, fun more hmore => ?_⟩
    obtain ⟨longer, hlonger, hfront'⟩ := hkeys more
    exact ⟨longer, hlonger, hfront.isPrefix hfront' hmore⟩
  · intro h c count bytes
    refine ⟨?_, fun s hbytes hfront => c.updateRepeated_eq_of_isFront hbytes hfront⟩
    rintro rfl
    rfl

/-- A key of forty octets from more than a block of repetitions, which do not divide the block. -/
theorem deriveKey_isFront_behind_block :
    (∃ s, Hashed (.iterated 8 [1, 2, 3, 4, 5, 6, 7, 8] 70000) [0x61, 0x62] s ∧ ∃ key longer,
      deriveKey (.iterated 8 [1, 2, 3, 4, 5, 6, 7, 8] 70000) [0x61, 0x62] 40 = .ok key ∧
        IsFront 40 (fun zeros => HashAlgorithm.sha256.hash (List.replicate zeros 0 ++ s)) key ∧
        key.length = 40 ∧
        deriveKey (.iterated 8 [1, 2, 3, 4, 5, 6, 7, 8] 70000) [0x61, 0x62] 80 = .ok longer ∧
        key <+: longer) ∧
      Sha256.sha256.start.updateRepeated 70000 [] = Sha256.sha256.start ∧
      ∃ s, IsFront 70000 (fun _ => [1, 2, 3]) s ∧
        Sha256.sha256.start.updateRepeated 70000 [1, 2, 3] = Sha256.sha256.start.update s := by
  obtain ⟨s, hs, hkeys⟩ := deriveKey_isFront.1 (.iterated 8 [1, 2, 3, 4, 5, 6, 7, 8] 70000) .sha256
    [0x61, 0x62] rfl rfl
  obtain ⟨key, hkey, hfront, hlength, hlonger⟩ := hkeys 40
  obtain ⟨longer, hlonger, hprefix⟩ := hlonger 80 (by decide)
  have hne : ([1, 2, 3] : Bytes) ≠ [] := by decide
  have hrepeated := isFront_repeatTo 70000 hne
  exact ⟨⟨s, hs, key, longer, hkey, hfront, hlength, hlonger, hprefix⟩,
    (deriveKey_isFront.2 _ _ _ _).1 rfl, _, hrepeated,
    (deriveKey_isFront.2 _ _ _ _).2 _ hne hrepeated⟩

end StringToKey

end ArtifactSigning
