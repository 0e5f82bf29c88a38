import ArtifactSigning.Cipher.Feedback

/-!
# Decryption undoes encryption

Both directions of cipher feedback run the block function over the same registers, the initial
vector and then the blocks of ciphertext, so the key octets cancel. Nothing is asked of the block
function but that it keeps the block size. What is decrypted of a ciphertext depends on nothing
behind it, so the beginning of a ciphertext gives the beginning of the octets (`decrypt_take`).
-/
namespace ArtifactSigning

theorem length_xorBytes (xs ys : Bytes) : (xorBytes xs ys).length = min xs.length ys.length :=
  List.length_zipWith

theorem xorBytes_xorBytes {xs ys : Bytes} (h : ys.length ≤ xs.length) :
    xorBytes xs (xorBytes xs ys) = ys := by
  induction ys generalizing xs with
  | nil => simp [xorBytes]
  | cons y ys ih =>
      cases xs with
      | nil => simp at h
      | cons x xs =>
          have hrest : ys.length ≤ xs.length := by simpa using h
          have hoctet : x ^^^ (x ^^^ y) = y := by
            rw [← UInt8.xor_assoc, UInt8.xor_self, UInt8.zero_xor]
          simp only [xorBytes, List.zipWith_cons_cons, hoctet]
          exact congrArg (y :: ·) (ih hrest)

theorem xorBytes_isPrefix (xs ys more : Bytes) : xorBytes xs ys <+: xorBytes xs (ys ++ more) := by
  induction ys generalizing xs with
  | nil => simp [xorBytes]
  | cons y ys ih =>
      cases xs with
      | nil => simp [xorBytes]
      | cons x xs => exact List.cons_prefix_cons.2 ⟨rfl, ih xs⟩

namespace BlockFunction

variable {f : BlockFunction} {register plain secret bytes : Bytes}

/-- A block function that turns blocks into blocks. -/
structure KeepsSize (f : BlockFunction) : Prop where
  size_pos : 0 < f.size
  length_apply : ∀ block, block.length = f.size → (f.apply block).length = f.size

section Blocks

variable {front back other rest : Bytes} {size : Nat}

/-- Octets that are a block in front of others: a whole one, or a shorter one with nothing behind
it. -/
structure IsBlock (size : Nat) (front back : Bytes) : Prop where
  ne_nil : front ≠ []
  length_le : front.length ≤ size
  whole_or_last : front.length = size ∨ back = []

theorem isBlock_cut (hsize : 0 < size) (h : bytes ≠ []) :
    IsBlock size (bytes.take size) (bytes.drop size) := by
  refine ⟨fun hnil => ?_, List.length_take_le size bytes, ?_⟩
  · rcases List.take_eq_nil_iff.1 hnil with hzero | hnil
    · omega
    · exact h hnil
  · by_cases hshort : bytes.length ≤ size
    · exact .inr (List.drop_of_length_le hshort)
    · exact .inl (List.length_take_of_le (by omega))

/-- Only the length of a block counts, and whether anything stands behind it. -/
theorem IsBlock.of_length_eq (h : IsBlock size front back) (hlength : other.length = front.length)
    (hrest : back = [] → rest = []) : IsBlock size other rest := by
  have hpos := List.length_pos_iff.2 h.ne_nil
  refine ⟨List.length_pos_iff.1 (by omega), hlength ▸ h.length_le, ?_⟩
  rw [hlength]
  exact h.whole_or_last.imp_right hrest

/-- A block is cut off where it was put in front. -/
theorem IsBlock.cut (h : IsBlock size front back) :
    (front ++ back).take size = front ∧ (front ++ back).drop size = back := by
  rcases h.whole_or_last with hwhole | rfl
  · exact ⟨List.take_left' hwhole, List.drop_left' hwhole⟩
  · rw [List.append_nil]
    exact ⟨List.take_of_length_le h.length_le, List.drop_of_length_le h.length_le⟩

theorem IsBlock.append_ne_nil (h : IsBlock size front back) : front ++ back ≠ [] := fun hnil =>
  h.ne_nil (List.append_eq_nil_iff.1 hnil).1

end Blocks

section Feedback

variable {block rest : Bytes}

@[simp] theorem encrypt_nil : f.encrypt register [] = [] := by
  rw [encrypt, dif_pos (.inl rfl)]

@[simp] theorem decrypt_nil : f.decrypt register [] = [] := by
  rw [decrypt, dif_pos (.inl rfl)]

/-- The first block is encrypted with the register, and the others with its ciphertext. -/
theorem encrypt_block (h : IsBlock f.size block rest) :
    f.encrypt register (block ++ rest) =
      xorBytes (f.apply register) block ++
        f.encrypt (xorBytes (f.apply register) block) rest := by
  have hpos := List.length_pos_iff.2 h.ne_nil
  have hle := h.length_le
  rw [encrypt, dif_neg (by simp only [h.append_ne_nil, false_or]; omega), h.cut.1, h.cut.2]

/-- The first block is decrypted with the register, and the others with that block. -/
theorem decrypt_block (h : IsBlock f.size block rest) :
    f.decrypt register (block ++ rest) =
      xorBytes (f.apply register) block ++ f.decrypt block rest := by
  have hpos := List.length_pos_iff.2 h.ne_nil
  have hle := h.length_le
  rw [decrypt, dif_neg (by simp only [h.append_ne_nil, false_or]; omega), h.cut.1, h.cut.2]

/-- Octets that are handled block by block: nothing, or a block and what stands behind it. -/
theorem block_induction {motive : Bytes → Prop} (hf : f.KeepsSize) (nil : motive [])
    (block : ∀ front back, IsBlock f.size front back → motive back → motive (front ++ back))
    (bytes : Bytes) : motive bytes := by
  by_cases hnil : bytes = []
  · rw [hnil]
    exact nil
  · have hsize := hf.size_pos
    have hpos := List.length_pos_iff.2 hnil
    rw [← List.take_append_drop f.size bytes]
    exact block _ _ (isBlock_cut hsize hnil) (block_induction hf nil block (bytes.drop f.size))
termination_by bytes.length
decreasing_by
  rw [List.length_drop]
  omega

/-- The register of a block is one itself. -/
theorem KeepsSize.length_xor (hf : f.KeepsSize) (hregister : register.length = f.size)
    (h : IsBlock f.size block rest) :
    (xorBytes (f.apply register) block).length = block.length := by
  rw [length_xorBytes, hf.length_apply register hregister, Nat.min_eq_right h.length_le]

theorem KeepsSize.xor_xor (hf : f.KeepsSize) (hregister : register.length = f.size)
    (h : IsBlock f.size block rest) :
    xorBytes (f.apply register) (xorBytes (f.apply register) block) = block := by
  refine xorBytes_xorBytes ?_
  rw [hf.length_apply register hregister]
  exact h.length_le

/-- Encryption keeps the length, also that of a shorter last block. -/
theorem length_encrypt (hf : f.KeepsSize) (h : register.length = f.size ∨ plain = []) :
    (f.encrypt register plain).length = plain.length := by
  induction plain using block_induction hf generalizing register with
  | nil => rw [encrypt_nil]
  | block front back hblock ih =>
      have hregister := h.resolve_right hblock.append_ne_nil
      have hlength := hf.length_xor hregister hblock
      rw [encrypt_block hblock, List.length_append, List.length_append, hlength,
        ih (hlength ▸ hblock.whole_or_last)]

/-- Decryption keeps the length, also that of a shorter last block. -/
theorem length_decrypt (hf : f.KeepsSize) (h : register.length = f.size ∨ secret = []) :
    (f.decrypt register secret).length = secret.length := by
  induction secret using block_induction hf generalizing register with
  | nil => rw [decrypt_nil]
  | block front back hblock ih =>
      have hregister := h.resolve_right hblock.append_ne_nil
      rw [decrypt_block hblock, List.length_append, List.length_append,
        hf.length_xor hregister hblock, ih hblock.whole_or_last]

/-- Decryption gives back what was encrypted from the same initial vector. -/
theorem decrypt_encrypt (hf : f.KeepsSize) (h : register.length = f.size ∨ plain = []) :
    f.decrypt register (f.encrypt register plain) = plain := by
  induction plain using block_induction hf generalizing register with
  | nil => rw [encrypt_nil, decrypt_nil]
  | block front back hblock ih =>
      have hregister := h.resolve_right hblock.append_ne_nil
      have hlength := hf.length_xor hregister hblock
      -- The next register is a whole block, unless nothing is left to encrypt.
      have hnext : (xorBytes (f.apply register) front).length = f.size ∨ back = [] :=
        hlength ▸ hblock.whole_or_last
      have hsecret : IsBlock f.size (xorBytes (f.apply register) front)
          (f.encrypt (xorBytes (f.apply register) front) back) :=
        hblock.of_length_eq hlength fun hnil => by rw [hnil, encrypt_nil]
      rw [encrypt_block hblock, decrypt_block hsecret, hf.xor_xor hregister hblock, ih hnext]

/-- Encryption gives back what was decrypted from the same initial vector. -/
theorem encrypt_decrypt (hf : f.KeepsSize) (h : register.length = f.size ∨ secret = []) :
    f.encrypt register (f.decrypt register secret) = secret := by
  induction secret using block_induction hf generalizing register with
  | nil => rw [decrypt_nil, encrypt_nil]
  | block front back hblock ih =>
      have hregister := h.resolve_right hblock.append_ne_nil
      have hplain : IsBlock f.size (xorBytes (f.apply register) front) (f.decrypt front back) :=
        hblock.of_length_eq (hf.length_xor hregister hblock) fun hnil => by rw [hnil, decrypt_nil]
      -- What was decrypted turns into the ciphertext again, which is the register of the rest.
      rw [decrypt_block hblock, encrypt_block hplain, hf.xor_xor hregister hblock,
        ih hblock.whole_or_last]

/-- What is decrypted first does not depend on what follows. -/
theorem decrypt_isPrefix (hf : f.KeepsSize) (register secret more : Bytes) :
    f.decrypt register secret <+: f.decrypt register (secret ++ more) := by
  induction secret using block_induction hf generalizing register with
  | nil => simp
  | block front back hblock ih =>
      rw [decrypt_block hblock, List.append_assoc]
      rcases hblock.whole_or_last with hwhole | rfl
      · have hlonger : IsBlock f.size front (back ++ more) :=
          ⟨hblock.ne_nil, hblock.length_le, .inl hwhole⟩
        rw [decrypt_block hlonger]
        exact (List.prefix_append_right_inj _).2 (ih front)
      · -- A last block may be the beginning of a longer one.
        have hfront : (front ++ more).take f.size = front ++ more.take (f.size - front.length) := by
          rw [List.take_append, List.take_of_length_le hblock.length_le]
        have hne : front ++ more ≠ [] := fun hnil =>
          hblock.ne_nil (List.append_eq_nil_iff.1 hnil).1
        rw [decrypt_nil, List.append_nil, List.nil_append,
          ← List.take_append_drop f.size (front ++ more),
          decrypt_block (isBlock_cut hf.size_pos hne), hfront]
        exact (xorBytes_isPrefix _ _ _).trans (List.prefix_append _ _)

/-- The beginning of a ciphertext gives the beginning of the octets behind it. -/
theorem decrypt_take (hf : f.KeepsSize) (h : register.length = f.size) (secret : Bytes) (n : Nat) :
    f.decrypt register (secret.take n) = (f.decrypt register secret).take n := by
  have hlength : (f.decrypt register secret).length = secret.length := length_decrypt hf (.inl h)
  have hbegins := decrypt_isPrefix hf register (secret.take n) (secret.drop n)
  rw [List.take_append_drop, List.prefix_iff_eq_take, length_decrypt hf (.inl h)] at hbegins
  rw [hbegins, List.length_take, ← hlength, ← List.take_eq_take_min]

/-- Each direction of cipher feedback undoes the other one, for octets of any length and whatever
function of blocks it runs, invertible or not. Both keep the length, and the beginning of a
ciphertext is decrypted as the beginning of the octets behind it. -/
theorem feedback_invertible (hf : f.KeepsSize) (hregister : register.length = f.size)
    (bytes : Bytes) :
    f.decrypt register (f.encrypt register bytes) = bytes ∧
      f.encrypt register (f.decrypt register bytes) = bytes ∧
      (f.encrypt register bytes).length = bytes.length ∧
      (f.decrypt register bytes).length = bytes.length ∧
      ∀ n, f.decrypt register (bytes.take n) = (f.decrypt register bytes).take n :=
  ⟨decrypt_encrypt hf (.inl hregister), encrypt_decrypt hf (.inl hregister),
    length_encrypt hf (.inl hregister), length_decrypt hf (.inl hregister),
    decrypt_take hf hregister bytes⟩

/-- A function of blocks that forgets half of every octet. -/
def halving : BlockFunction := ⟨3, fun block => block.map (· &&& 0x3C)⟩

theorem keepsSize_halving : halving.KeepsSize :=
  ⟨by decide, fun block hblock => by rw [halving, List.length_map]; exact hblock⟩

theorem feedback_invertible_with_short_block :
    halving.KeepsSize ∧ ([0xA1, 0xB2, 0xC3] : Bytes).length = halving.size ∧
      halving.decrypt [0xA1, 0xB2, 0xC3] (halving.encrypt [0xA1, 0xB2, 0xC3] [1, 2, 3, 4, 5]) =
        [1, 2, 3, 4, 5] ∧
      halving.encrypt [0xA1, 0xB2, 0xC3] (halving.decrypt [0xA1, 0xB2, 0xC3] [1, 2, 3, 4, 5]) =
        [1, 2, 3, 4, 5] ∧
      (halving.encrypt [0xA1, 0xB2, 0xC3] [1, 2, 3, 4, 5]).length = 5 ∧
      (halving.decrypt [0xA1, 0xB2, 0xC3] [1, 2, 3, 4, 5]).length = 5 ∧
      ∀ n, halving.decrypt [0xA1, 0xB2, 0xC3] ([1, 2, 3, 4, 5].take n) =
        (halving.decrypt [0xA1, 0xB2, 0xC3] [1, 2, 3, 4, 5]).take n :=
  ⟨keepsSize_halving, rfl, feedback_invertible keepsSize_halving rfl [1, 2, 3, 4, 5]⟩

end Feedback

end BlockFunction

end ArtifactSigning
