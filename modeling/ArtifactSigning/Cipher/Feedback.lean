import ArtifactSigning.Bytes

/-!
# Cipher feedback

A block function turns a byte string into a stream of key octets by chaining: the register starts
as the initial vector, and after every block it is the block of ciphertext. `encrypt` and `decrypt`
need the block function in one direction only and keep the length; the last block may be shorter.
-/
namespace ArtifactSigning

/-- A function from blocks to blocks of `size` octets. -/
structure BlockFunction where
  size : Nat
  apply : Bytes → Bytes

namespace BlockFunction

theorem length_drop_lt {size : Nat} {bytes : Bytes} (h : ¬(bytes = [] ∨ size = 0)) :
    (bytes.drop size).length < bytes.length := by
  have h₁ : bytes.length ≠ 0 := fun h' => h (Or.inl (List.length_eq_zero_iff.1 h'))
  have h₂ : size ≠ 0 := fun h' => h (Or.inr h')
  rw [List.length_drop]
  omega

/-- The ciphertext of some octets. -/
def encrypt (f : BlockFunction) (register : Bytes) (plain : Bytes) : Bytes :=
  if _h : plain = [] ∨ f.size = 0 then []
  else
    let block := xorBytes (f.apply register) (plain.take f.size)
    block ++ f.encrypt block (plain.drop f.size)
termination_by plain.length
decreasing_by exact length_drop_lt _h

/-- The octets behind a ciphertext. -/
def decrypt (f : BlockFunction) (register : Bytes) (secret : Bytes) : Bytes :=
  if _h : secret = [] ∨ f.size = 0 then []
  else
    let block := secret.take f.size
    xorBytes (f.apply register) block ++ f.decrypt block (secret.drop f.size)
termination_by secret.length
decreasing_by exact length_drop_lt _h

end BlockFunction

end ArtifactSigning
