import ArtifactSigning.Packet.Cursor
import ArtifactSigning.Proofs.Step

/-!
# What reading steps take

`take_eq_ok` says when octets can be taken and which these are; all readers are made of this step.
`take_behind` and the lemmas after it say the same of a reader that stands behind other octets. In
the other direction `Reads` says that a step takes exactly the given octets and returns the
given value, whatever stands before and behind them; `Reads.bind` puts such facts together, so that
a reader is described along its own text.
-/
namespace ArtifactSigning.Reading

open Step

variable {α β : Type} {c d : Cursor}

theorem take_eq_ok {count : Nat} {bytes : Bytes} :
    take count c = .ok bytes d ↔ c.offset + count ≤ c.data.length ∧
      c.rest.take count = bytes ∧ { c with offset := c.offset + count } = d := by
  rw [take]
  split
  · rename_i hle
    simp [hle]
  · rename_i hgt
    simp [hgt]

theorem onBytes_eq_ok {step : Reading α} {data : Bytes} {a : α} :
    onBytes step data = .ok a ↔ ∃ d, step (Cursor.start data) = .ok a d := by
  have hrun : step.run (Cursor.start data) = step (Cursor.start data) := rfl
  rw [onBytes, hrun]
  cases step (Cursor.start data) <;> simp

/-- The first octet of a byte string. -/
theorem octet_start_eq_ok {data : Bytes} {b : UInt8} (h : octet (Cursor.start data) = .ok b d) :
    data.head? = some b := by
  obtain ⟨bytes, e, htake, hmatch⟩ := bind_eq_ok.1 h
  obtain ⟨-, hbytes, -⟩ := take_eq_ok.1 htake
  cases data with
  | nil =>
      simp only [Cursor.rest, Cursor.start, List.drop_nil, List.take_nil] at hbytes
      subst hbytes
      simp at hmatch
  | cons first rest =>
      simp only [Cursor.rest, Cursor.start, List.drop_zero, List.take_succ_cons,
        List.take_zero] at hbytes
      subst hbytes
      rw [(pure_eq_ok.1 hmatch).1]
      rfl

/-- Octets that are taken behind others are the first ones there. -/
theorem take_behind {count : Nat} {front more bytes : Bytes} {d : Cursor}
    (h : take count ⟨front ++ more, front.length⟩ = .ok bytes d) :
    bytes.length = count ∧ ∃ back, more = bytes ++ back ∧
      d = ⟨(front ++ bytes) ++ back, (front ++ bytes).length⟩ := by
  obtain ⟨hle, htake, rfl⟩ := take_eq_ok.1 h
  simp only [Cursor.rest, List.drop_left, List.length_append, Nat.add_le_add_iff_left] at hle htake
  obtain rfl := htake
  have hlength : (more.take count).length = count := by
    rw [List.length_take, Nat.min_eq_left hle]
  refine ⟨hlength, more.drop count, (List.take_append_drop ..).symm, ?_⟩
  rw [List.append_assoc, List.take_append_drop, List.length_append, hlength]

theorem octet_behind {front more : Bytes} {o : UInt8} {d : Cursor}
    (h : octet ⟨front ++ more, front.length⟩ = .ok o d) :
    ∃ back, more = [o] ++ back ∧ d = ⟨(front ++ [o]) ++ back, (front ++ [o]).length⟩ := by
  obtain ⟨bytes, c, htake, h⟩ := bind_eq_ok.1 h
  obtain ⟨hlength, back, rfl, rfl⟩ := take_behind htake
  obtain ⟨first, rfl⟩ := List.length_eq_one_iff.1 hlength
  obtain ⟨rfl, rfl⟩ := pure_eq_ok.1 h
  exact ⟨back, rfl, rfl⟩

theorem number_behind {width n : Nat} {front more : Bytes} {d : Cursor}
    (h : number width ⟨front ++ more, front.length⟩ = .ok n d) :
    n < 256 ^ width ∧ ∃ back, more = bigEndian width n ++ back ∧
      d = ⟨(front ++ bigEndian width n) ++ back, (front ++ bigEndian width n).length⟩ := by
  obtain ⟨octets, htake, rfl⟩ := map_eq_ok.1 h
  obtain ⟨rfl, hback⟩ := take_behind htake
  rw [bigEndian_ofBigEndian]
  exact ⟨ofBigEndian_lt octets, hback⟩

/-- The step takes exactly the octets of `form` and returns `value`. -/
def Reads (step : Reading α) (form : Bytes) (value : α) : Prop :=
  ∀ front back, step ⟨front ++ (form ++ back), front.length⟩ =
    .ok value ⟨front ++ (form ++ back), front.length + form.length⟩

theorem reads_pure (a : α) : Reads (pure a) [] a := fun _ _ => rfl

theorem Reads.bind {step : Reading α} {next : α → Reading β} {form form' : Bytes} {a : α} {b : β}
    (h : Reads step form a) (h' : Reads (next a) form' b) :
    Reads (step >>= next) (form ++ form') b := by
  intro front back
  have hstep := h front (form' ++ back)
  have hnext := h' (front ++ form) back
  simp only [List.append_assoc, List.length_append] at hnext ⊢
  exact bind_eq_ok.2 ⟨a, _, hstep, by rw [hnext, Nat.add_assoc]⟩

/-- A step that reads at the end of some octets goes on behind what it has read. -/
theorem Reads.run_bind {step : Reading α} {next : α → Reading β} {form : Bytes} {a : α}
    (h : Reads step form a) (front back : Bytes) :
    (step >>= next) ⟨front ++ (form ++ back), front.length⟩ =
      next a ⟨(front ++ form) ++ back, (front ++ form).length⟩ := by
  change EStateM.bind step next _ = _
  rw [EStateM.bind, h front back, List.append_assoc, List.length_append]

theorem Reads.map {f : α → β} {step : Reading α} {form : Bytes} {a : α} (h : Reads step form a) :
    Reads (f <$> step) form (f a) := by
  intro front back
  exact map_eq_ok.2 ⟨a, h front back, rfl⟩

/-- A step that reads before a last one that takes nothing. -/
theorem Reads.bind_pure {step : Reading α} {f : α → β} {form : Bytes} {a : α}
    (h : Reads step form a) : Reads (step >>= fun a => pure (f a)) form (f a) := by
  have hbind : Reads (step >>= fun a => pure (f a)) (form ++ []) (f a) :=
    h.bind (reads_pure (f a))
  rwa [List.append_nil] at hbind

theorem reads_take (bytes : Bytes) : Reads (take bytes.length) bytes bytes := by
  intro front back
  refine take_eq_ok.2 ⟨?_, ?_, rfl⟩
  · simp only [List.length_append]
    omega
  · simp [Cursor.rest]

theorem reads_octet (b : UInt8) : Reads octet [b] b :=
  (reads_take [b]).bind (reads_pure b)

theorem reads_number {width n : Nat} (h : n < 256 ^ width) :
    Reads (number width) (bigEndian width n) n := by
  have hread := (reads_take (bigEndian width n)).map (f := ofBigEndian)
  rwa [length_bigEndian, ofBigEndian_bigEndian, Nat.mod_eq_of_lt h] at hread

theorem reads_octetNumber (b : UInt8) : Reads (number 1) [b] b.toNat := by
  have hread := (reads_take [b]).map (f := ofBigEndian)
  rwa [ofBigEndian_cons, List.length_nil, Nat.pow_zero, Nat.mul_one, ofBigEndian_nil,
    Nat.add_zero] at hread

theorem reads_smallNumber {n : Nat} (h : n < 256) : Reads (number 1) [UInt8.ofNat n] n := by
  have hread := reads_octetNumber (UInt8.ofNat n)
  rwa [UInt8.toNat_ofNat', Nat.mod_eq_of_lt h] at hread

theorem reads_taken {count : Nat} {bytes : Bytes} (h : bytes.length = count) :
    Reads (take count) bytes bytes := h ▸ reads_take bytes

/-- The written form of a string of octets with the given bit count. -/
def integerForm (bits : Nat) (octets : Bytes) : Bytes := bigEndian 2 bits ++ octets

theorem reads_integerOctets {bits : Nat} {octets : Bytes} (hbits : bits < 256 ^ 2)
    (hoctets : octets.length = octetsFor bits) :
    Reads integerOctets (integerForm bits octets) octets := by
  refine (reads_number hbits).bind ?_
  rw [← hoctets]
  exact reads_take octets

end ArtifactSigning.Reading
