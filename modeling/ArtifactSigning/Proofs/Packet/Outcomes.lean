import ArtifactSigning.Proofs.Packet.Reading

/-!
# How reading steps end

A reading step fails or goes on, wherever it begins. `FailsIn` says what it may fail with and
`TakesAtMost` how many octets it may take; both are put together along composed steps, so that a
whole reader is bounded by what it is made of.
-/
namespace ArtifactSigning

/-- Malformed data. -/
inductive Failure.IsFormatFault : Failure → Prop
  | format (cause : FormatFault) : IsFormatFault (.format cause)

/-- Malformed data, or data of a kind that is not handled. -/
inductive Failure.IsMaterialFault : Failure → Prop
  | format (cause : FormatFault) : IsMaterialFault (.format cause)
  | unsupported (cause : UnsupportedFault) : IsMaterialFault (.unsupported cause)

theorem Failure.IsFormatFault.isMaterialFault {failure : Failure} (h : failure.IsFormatFault) :
    failure.IsMaterialFault := by
  obtain ⟨cause⟩ := h
  exact .format cause

namespace Reading

open Step

variable {α β : Type}

/-- Wherever it begins, the step fails with none but some failures. -/
def FailsIn (faults : Failure → Prop) (step : Reading α) : Prop :=
  ∀ ⦃c failure d⦄, step c = .error failure d → faults failure

/-- Wherever it begins, the step takes no more than `bound` octets. -/
def TakesAtMost (bound : Nat) (step : Reading α) : Prop :=
  ∀ ⦃c a d⦄, step c = .ok a d → d.offset ≤ c.offset + bound

section Failing

variable {faults : Failure → Prop} {step : Reading α}

theorem FailsIn.bind {next : α → Reading β} (h : FailsIn faults step)
    (h' : ∀ a, FailsIn faults (next a)) : FailsIn faults (step >>= next) := by
  intro c failure d hrun
  rcases bind_eq_error.1 hrun with hstep | ⟨a, e, -, hnext⟩
  · exact h hstep
  · exact h' a hnext

theorem FailsIn.map {f : α → β} (h : FailsIn faults step) : FailsIn faults (f <$> step) := by
  intro c failure d hrun
  exact h (map_eq_error.1 hrun)

theorem failsIn_pure (a : α) : FailsIn faults (pure a) := by
  intro c failure d hrun
  cases hrun

theorem failsIn_throw {failure : Failure} (h : faults failure) :
    FailsIn faults (throw failure : Reading α) := by
  intro c failure d hrun
  cases hrun
  exact h

theorem FailsIn.weaken {faults' : Failure → Prop} (h : FailsIn faults step)
    (himp : ∀ failure, faults failure → faults' failure) : FailsIn faults' step := by
  intro c failure d hrun
  exact himp failure (h hrun)

/-- What a reader of whole byte strings fails with. -/
theorem FailsIn.onBytes {data : Bytes} {failure : Failure} (h : FailsIn faults step)
    (hrun : onBytes step data = .error failure) : faults failure := by
  cases hstep : step (Cursor.start data) with
  | ok a d =>
      simp only [Reading.onBytes, EStateM.run, hstep] at hrun
      cases hrun
  | error failure' d =>
      simp only [Reading.onBytes, EStateM.run, hstep] at hrun
      cases hrun
      exact h hstep

theorem failsIn_take (count : Nat) : FailsIn Failure.IsFormatFault (take count) := by
  intro c failure d hrun
  rw [take] at hrun
  split at hrun
  · cases hrun
  · cases hrun
    exact .format _

/-- An octet that has been taken is there to be looked at. -/
theorem failsIn_octet : FailsIn Failure.IsFormatFault octet := by
  intro c failure d hrun
  rcases bind_eq_error.1 hrun with htake | ⟨bytes, e, htake, hfirst⟩
  · exact failsIn_take 1 htake
  · obtain ⟨hle, hbytes, -⟩ := take_eq_ok.1 htake
    cases bytes with
    | nil =>
        have hlength := congrArg List.length hbytes
        simp only [Cursor.rest, List.length_take, List.length_drop, List.length_nil] at hlength
        omega
    | cons b rest => cases hfirst

theorem failsIn_number (width : Nat) : FailsIn Failure.IsFormatFault (number width) :=
  (failsIn_take width).map

theorem failsIn_integerOctets : FailsIn Failure.IsFormatFault integerOctets :=
  (failsIn_number 2).bind fun _ => failsIn_take _

theorem failsIn_integer : FailsIn Failure.IsFormatFault integer := failsIn_integerOctets.map

theorem failsIn_offset : FailsIn faults offset := by
  intro c failure d hrun
  cases hrun

theorem failsIn_remaining : FailsIn faults remaining := by
  intro c failure d hrun
  cases hrun

end Failing

section Taking

variable {bound : Nat} {step : Reading α}

theorem TakesAtMost.bind {bound' : Nat} {next : α → Reading β} (h : TakesAtMost bound step)
    (h' : ∀ a, TakesAtMost bound' (next a)) : TakesAtMost (bound + bound') (step >>= next) := by
  intro c b d hrun
  obtain ⟨a, e, hstep, hnext⟩ := bind_eq_ok.1 hrun
  have hfirst := h hstep
  have hsecond := h' a hnext
  omega

theorem TakesAtMost.map {f : α → β} (h : TakesAtMost bound step) :
    TakesAtMost bound (f <$> step) := by
  intro c b d hrun
  obtain ⟨a, hstep, -⟩ := map_eq_ok.1 hrun
  exact h hstep

theorem takesAtMost_pure (a : α) : TakesAtMost 0 (pure a : Reading α) := by
  intro c b d hrun
  obtain ⟨-, rfl⟩ := pure_eq_ok.1 hrun
  exact Nat.le_refl _

theorem takesAtMost_throw (failure : Failure) (bound : Nat) :
    TakesAtMost bound (throw failure : Reading α) := by
  intro c b d hrun
  exact absurd hrun throw_ne_ok

theorem TakesAtMost.weaken {bound' : Nat} (h : TakesAtMost bound step) (hle : bound ≤ bound') :
    TakesAtMost bound' step := by
  intro c a d hrun
  exact Nat.le_trans (h hrun) (Nat.add_le_add_left hle _)

theorem takesAtMost_take (count : Nat) : TakesAtMost count (take count) := by
  intro c a d hrun
  obtain ⟨-, -, rfl⟩ := take_eq_ok.1 hrun
  exact Nat.le_refl _

theorem takesAtMost_number (width : Nat) : TakesAtMost width (number width) :=
  (takesAtMost_take width).map

/-- What a field of `width` octets holds. -/
theorem number_lt {width n : Nat} {c d : Cursor} (h : number width c = .ok n d) :
    n < 256 ^ width := by
  obtain ⟨bytes, htake, rfl⟩ := map_eq_ok.1 h
  obtain ⟨-, hbytes, -⟩ := take_eq_ok.1 htake
  have hlength : bytes.length ≤ width := by
    rw [← hbytes, List.length_take]
    exact Nat.min_le_left _ _
  exact Nat.lt_of_lt_of_le (ofBigEndian_lt bytes) (Nat.pow_le_pow_right (by decide) hlength)

/-- The greatest form of an integer: two octets of bit count, and as many as the greatest bit count
needs. -/
def integerBound : Nat := 2 + octetsFor 65535

theorem takesAtMost_integerOctets : TakesAtMost integerBound integerOctets := by
  intro c octets d hrun
  obtain ⟨bits, e, hbits, htake⟩ := bind_eq_ok.1 hrun
  have hlt := number_lt hbits
  have hfirst := takesAtMost_number 2 hbits
  have hsecond := takesAtMost_take _ htake
  have hoctets : octetsFor bits ≤ octetsFor 65535 := by
    simp only [octetsFor]
    omega
  rw [integerBound]
  omega

theorem takesAtMost_integer : TakesAtMost integerBound integer := takesAtMost_integerOctets.map

end Taking

end Reading

end ArtifactSigning
