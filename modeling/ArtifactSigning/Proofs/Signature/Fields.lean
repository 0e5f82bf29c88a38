import ArtifactSigning.Key.Unlock
import ArtifactSigning.Proofs.Packet.Integer
import ArtifactSigning.Proofs.Step

/-!
# What the fields of a signature say

The private operation of a key gives a string of octets or a pair of numbers. `Carries` says how the
fields of a signature hold this result, for every algorithm that signs; zeros at the front of the
octets are left out where they are written as a number.
-/
namespace ArtifactSigning

open Reading PrivateNumbers Step

/-- Two multiprecision integers as strings of octets. -/
def readOctetsPair : Reading (Bytes × Bytes) := do
  let first ← integerOctets
  let second ← integerOctets
  return (first, second)

/-- Two multiprecision integers as a signature pair. -/
def readPair : Reading SignaturePair := do
  let r ← integer
  let s ← integer
  return ⟨r, s⟩

/-- The fields hold the result of the private operation on a digest, and nothing else. -/
inductive Carries (operations : PrivateOperations) (hash : HashAlgorithm) (digest : Bytes) :
    PrivateKey → Bytes → Prop
  /-- One number, which fills the octets of the modulus. -/
  | rsa {algorithm : KeyAlgorithm} {numbers : Rsa.PrivateKey} {signature octets fields : Bytes}
      (halgorithm : algorithm ∈ [.rsa, .rsaSignOnly])
      (hsign : operations.rsa numbers hash digest = .ok signature)
      (hread : Reads integerOctets fields octets)
      (hpad : leftPad (octetsFor (bitLength numbers.modulus)) octets = signature) :
      Carries operations hash digest ⟨algorithm, .rsa numbers⟩ fields
  | dsa {numbers : Dsa.PrivateKey} {pair : SignaturePair} {fields : Bytes}
      (hsign : operations.dsa numbers hash digest = .ok pair) (hread : Reads readPair fields pair) :
      Carries operations hash digest ⟨.dsa, .dsa numbers⟩ fields
  | ecdsa {numbers : Ecdsa.PrivateKey} {pair : SignaturePair} {fields : Bytes}
      (hsign : operations.ecdsa numbers hash digest = .ok pair)
      (hread : Reads readPair fields pair) :
      Carries operations hash digest ⟨.ecdsa, .ecdsa numbers⟩ fields
  /-- Two numbers, which fill the two halves of a signature of 64 octets. -/
  | eddsaLegacy {seed signature first second fields : Bytes}
      (hsign : operations.edwards .ed25519 seed digest = signature)
      (hlength : signature.length = 64) (hread : Reads readOctetsPair fields (first, second))
      (hfirst : leftPad 32 first = signature.take 32)
      (hsecond : leftPad 32 second = signature.drop 32) :
      Carries operations hash digest ⟨.eddsaLegacy, .edwards .ed25519 seed⟩ fields
  | ed25519 {seed fields : Bytes} (hsign : operations.edwards .ed25519 seed digest = fields) :
      Carries operations hash digest ⟨.ed25519, .edwards .ed25519 seed⟩ fields
  | ed448 {seed fields : Bytes} (hsign : operations.edwards .ed448 seed digest = fields) :
      Carries operations hash digest ⟨.ed448, .edwards .ed448 seed⟩ fields

/-- A signature of octets is as long as the modulus, or as two numbers of the curve. -/
structure PrivateOperations.FixedSizes (operations : PrivateOperations) : Prop where
  length_rsa : ∀ {numbers hash digest signature},
    operations.rsa numbers hash digest = .ok signature →
      signature.length = octetsFor (bitLength numbers.modulus)
  length_edwards : ∀ curve seed digest,
    (operations.edwards curve seed digest).length = curve.size + curve.size

theorem Rsa.PrivateKey.length_sign {numbers : Rsa.PrivateKey} {hash : HashAlgorithm}
    {digest signature : Bytes} (h : numbers.sign hash digest = .ok signature) :
    signature.length = octetsFor (bitLength numbers.modulus) := by
  rw [sign] at h
  simp only at h
  split at h
  · cases h
  · split at h
    · cases h
    · rw [← Except.ok.inj h, length_bigEndian]

theorem EdwardsCurve.length_littleEndian (width n : Nat) :
    (littleEndian width n).length = width := by
  rw [littleEndian, List.length_reverse, length_bigEndian]

theorem EdwardsCurve.length_sign (curve : EdwardsCurve) (seed message : Bytes) :
    (curve.sign seed message).length = curve.size + curve.size := by
  simp only [sign, encode, List.length_append, length_littleEndian]

/-- The operations of this library make signatures of fixed sizes. -/
theorem PrivateOperations.fixedSizes_standard : standard.FixedSizes where
  length_rsa := Rsa.PrivateKey.length_sign
  length_edwards := EdwardsCurve.length_sign

theorem PrivateNumbers.checked_eq_ok {value a : α} {passes : Bool} {c d : Cursor}
    (h : checked value passes c = .ok a d) : value = a := by
  rw [checked] at h
  split at h
  · exact (pure_eq_ok.1 h).1
  · exact absurd h throw_ne_ok

/-- The curve of a key is the one of its algorithm. -/
theorem PrivateNumbers.curve_of_read {algorithm : KeyAlgorithm} {part : PublicPart}
    {c d : Cursor} {curve : EdwardsCurve} {seed : Bytes}
    (h : PrivateNumbers.read algorithm part c = .ok (.edwards curve seed) d) :
    (algorithm = .ed448 ∧ curve = .ed448) ∨ (algorithm ≠ .ed448 ∧ curve = .ed25519) := by
  unfold PrivateNumbers.read at h
  split at h
  case h_1 | h_2 | h_3 =>
    obtain ⟨_, _, -, h⟩ := bind_eq_ok.1 h
    obtain ⟨_, _, -, h⟩ := bind_eq_ok.1 h
    obtain ⟨_, _, -, h⟩ := bind_eq_ok.1 h
    exact nomatch checked_eq_ok h
  case h_4 =>
    obtain ⟨_, _, -, h⟩ := bind_eq_ok.1 h
    exact nomatch checked_eq_ok h
  case h_5 identifier _ =>
    cases hcurve : Curve.ofIdentifier? identifier with
    | none =>
        rw [hcurve] at h
        exact absurd h throw_ne_ok
    | some found =>
        rw [hcurve] at h
        obtain ⟨_, _, -, h⟩ := bind_eq_ok.1 h
        exact nomatch checked_eq_ok h
  case h_6 =>
    split at h
    · obtain ⟨_, _, -, h⟩ := bind_eq_ok.1 h
      have hnumbers := checked_eq_ok h
      cases hnumbers
      exact .inr ⟨by decide, rfl⟩
    · exact absurd h throw_ne_ok
  case h_7 =>
    obtain ⟨_, _, -, h⟩ := bind_eq_ok.1 h
    cases (pure_eq_ok.1 h).1
    exact .inr ⟨by decide, rfl⟩
  case h_8 =>
    obtain ⟨_, _, -, h⟩ := bind_eq_ok.1 h
    cases (pure_eq_ok.1 h).1
    exact .inl ⟨rfl, rfl⟩
  case h_9 => exact nomatch (pure_eq_ok.1 h).1

/-- A key whose curve, if it has one on the Edwards form, is that of its algorithm. -/
def PrivateKey.HasOwnCurve (key : PrivateKey) : Prop :=
  ∀ curve seed, key.numbers = .edwards curve seed →
    (key.algorithm = .ed448 ∧ curve = .ed448) ∨ (key.algorithm ≠ .ed448 ∧ curve = .ed25519)

/-- An unlocked key is read from the material in the secret part. -/
theorem SecretKey.exists_read_of_unlockWith {primitives : Primitives} {key : SecretKey}
    {passphrase? : Option RawText} {privateKey : PrivateKey}
    (h : key.unlockWith primitives passphrase? = .ok privateKey) :
    ∃ c d, PrivateKey.read key.algorithm key.publicPart c = .ok privateKey d := by
  rw [unlockWith] at h
  split at h
  · obtain ⟨plain, -, h⟩ := except_bind_eq_ok.1 h
    split at h
    · cases h
    · obtain ⟨d, hread⟩ := onBytes_eq_ok.1 h
      exact ⟨_, d, hread⟩
  · cases h

/-- An unlocked key is one of its algorithm. -/
theorem SecretKey.unlock_eq_ok {key : SecretKey} {passphrase? : Option RawText}
    {privateKey : PrivateKey} (h : key.unlock passphrase? = .ok privateKey) :
    privateKey.algorithm = key.algorithm ∧ privateKey.HasOwnCurve := by
  obtain ⟨c, d, hread⟩ := exists_read_of_unlockWith h
  obtain ⟨numbers, hnumbers, rfl⟩ := map_eq_ok.1 hread
  refine ⟨rfl, fun curve seed hcurve => ?_⟩
  simp only at hcurve
  rw [hcurve] at hnumbers
  exact PrivateNumbers.curve_of_read hnumbers

theorem readPair_of_encodePair {pair : SignaturePair} {fields : Bytes}
    (h : PrivateKey.encodePair pair = .ok fields) : Reads readPair fields pair := by
  obtain ⟨r, hr, h⟩ := except_bind_eq_ok.1 h
  obtain ⟨s, hs, h⟩ := except_bind_eq_ok.1 h
  obtain rfl := Except.ok.inj h
  exact (reads_integer_of_encodeInteger hr).bind (reads_integer_of_encodeInteger hs).bind_pure

theorem readOctetsPair_of_encodeOctets {first second first' second' : Bytes}
    (hfirst : encodeOctets first = .ok first') (hsecond : encodeOctets second = .ok second') :
    ∃ octets octets', Reads readOctetsPair (first' ++ second') (octets, octets') ∧
      leftPad first.length octets = first ∧ leftPad second.length octets' = second := by
  obtain ⟨octets, hread, hpad⟩ := reads_of_encodeOctets hfirst
  obtain ⟨octets', hread', hpad'⟩ := reads_of_encodeOctets hsecond
  exact ⟨octets, octets', hread.bind hread'.bind_pure, hpad, hpad'⟩

/-- The two halves of a signature on the curve, each as a number, carry the signature. -/
theorem carries_of_encodeHalves {operations : PrivateOperations} {hash : HashAlgorithm}
    {seed digest fields : Bytes} (hsizes : operations.FixedSizes)
    (h : (do
      let signature := operations.edwards .ed25519 seed digest
      return (← encodeOctets (signature.take EdwardsCurve.ed25519.size)) ++
        (← encodeOctets (signature.drop EdwardsCurve.ed25519.size)) : Except Failure Bytes) =
      .ok fields) :
    Carries operations hash digest ⟨.eddsaLegacy, .edwards .ed25519 seed⟩ fields := by
  obtain ⟨first', hfirst, h⟩ := except_bind_eq_ok.1 h
  obtain ⟨second', hsecond, h⟩ := except_bind_eq_ok.1 h
  obtain rfl := Except.ok.inj h
  obtain ⟨first, second, hread, hpad, hpad'⟩ := readOctetsPair_of_encodeOctets hfirst hsecond
  have hsize : EdwardsCurve.ed25519.size = 32 := rfl
  have hlength : (operations.edwards .ed25519 seed digest).length = 64 := by
    rw [hsizes.length_edwards, hsize]
  rw [hsize, List.length_take, hlength] at hpad
  rw [hsize, List.length_drop, hlength] at hpad'
  exact .eddsaLegacy rfl hlength hread hpad hpad'

/-- What a private key makes of a digest carries the result of its private operation. -/
theorem PrivateKey.carries_of_signWith {operations : PrivateOperations} {key : PrivateKey}
    {digest fields : Bytes} {hashId : Int} {hash : HashAlgorithm}
    (hsizes : operations.FixedSizes) (hcurve : key.HasOwnCurve)
    (hhash : HashAlgorithm.forSignature hashId = .ok hash)
    (h : key.signWith operations digest hashId = .ok fields) :
    Carries operations hash digest key fields := by
  obtain ⟨algorithm, numbers⟩ := key
  unfold signWith at h
  rw [hhash] at h
  split at h
  case h_1 numbers halgorithm hnumbers | h_2 numbers halgorithm hnumbers =>
    cases halgorithm
    cases hnumbers
    obtain ⟨_, hfound, h⟩ := except_bind_eq_ok.1 h
    cases hfound
    obtain ⟨signature, hsign, h⟩ := except_bind_eq_ok.1 h
    obtain ⟨octets, hread, hpad⟩ := reads_of_encodeOctets h
    rw [hsizes.length_rsa hsign] at hpad
    exact .rsa (by decide) hsign hread hpad
  case h_3 numbers halgorithm hnumbers =>
    cases halgorithm
    cases hnumbers
    obtain ⟨_, hfound, h⟩ := except_bind_eq_ok.1 h
    cases hfound
    obtain ⟨pair, hsign, h⟩ := except_bind_eq_ok.1 h
    exact .dsa hsign (readPair_of_encodePair h)
  case h_4 numbers halgorithm hnumbers =>
    cases halgorithm
    cases hnumbers
    obtain ⟨_, hfound, h⟩ := except_bind_eq_ok.1 h
    cases hfound
    obtain ⟨pair, hsign, h⟩ := except_bind_eq_ok.1 h
    exact .ecdsa hsign (readPair_of_encodePair h)
  case h_5 curve seed halgorithm hnumbers =>
    cases halgorithm
    cases hnumbers
    obtain rfl : curve = .ed25519 := ((hcurve curve seed rfl).resolve_left (by simp)).2
    exact carries_of_encodeHalves hsizes h
  case h_6 curve seed halgorithm hnumbers =>
    cases halgorithm
    cases hnumbers
    obtain rfl : curve = .ed25519 := ((hcurve curve seed rfl).resolve_left (by simp)).2
    exact .ed25519 (Except.ok.inj h)
  case h_7 curve seed halgorithm hnumbers =>
    cases halgorithm
    cases hnumbers
    obtain rfl : curve = .ed448 := ((hcurve curve seed rfl).resolve_right (by simp)).2
    exact .ed448 (Except.ok.inj h)
  case h_8 => cases h

theorem length_of_encodePair {pair : SignaturePair} {form : Bytes}
    (h : PrivateKey.encodePair pair = .ok form) :
    form.length ≤ 2 * (2 + octetsFor maxIntegerBits) := by
  obtain ⟨r, hr, h⟩ := except_bind_eq_ok.1 h
  obtain ⟨s, hs, h⟩ := except_bind_eq_ok.1 h
  obtain rfl := Except.ok.inj h
  have hr := length_of_encodeInteger hr
  have hs := length_of_encodeInteger hs
  rw [List.length_append]
  omega

/-- The fields of a signature are no longer than two numbers. -/
theorem PrivateKey.length_of_sign {key : PrivateKey} {digest fields : Bytes} {hashId : Int}
    (hcurve : key.HasOwnCurve) (h : key.sign digest hashId = .ok fields) :
    fields.length ≤ 2 * (2 + octetsFor maxIntegerBits) := by
  unfold sign signWith at h
  split at h
  case h_1 | h_2 =>
    obtain ⟨_, -, h⟩ := except_bind_eq_ok.1 h
    obtain ⟨signature, -, h⟩ := except_bind_eq_ok.1 h
    have hlength := length_of_encodeOctets h
    omega
  case h_3 | h_4 =>
    obtain ⟨_, -, h⟩ := except_bind_eq_ok.1 h
    obtain ⟨pair, -, h⟩ := except_bind_eq_ok.1 h
    exact length_of_encodePair h
  case h_5 =>
    obtain ⟨first, hfirst, h⟩ := except_bind_eq_ok.1 h
    obtain ⟨second, hsecond, h⟩ := except_bind_eq_ok.1 h
    obtain rfl := Except.ok.inj h
    have hfirst := length_of_encodeOctets hfirst
    have hsecond := length_of_encodeOctets hsecond
    rw [List.length_append]
    omega
  case h_6 | h_7 =>
    rename_i curve seed halgorithm hnumbers
    obtain rfl := Except.ok.inj h
    rw [PrivateOperations.fixedSizes_standard.length_edwards]
    rcases hcurve curve seed hnumbers with ⟨-, rfl⟩ | ⟨-, rfl⟩ <;> decide
  case h_8 => cases h

end ArtifactSigning
