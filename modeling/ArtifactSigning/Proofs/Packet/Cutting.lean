import ArtifactSigning.Proofs.Packet.Reading

/-!
# What reading steps have taken

`Cuts` is the other direction of `Reads`: whatever octets a step has taken, they have a form that
belongs to its value. Along composed steps the forms of the parts are put together, so that a reader
which comes to its end has cut the octets before it into the parts of what it returns. No octets can
be read in two ways (`Reads.unique`). `Cursor.Passes` says which octets lie between two places, and
`Cuts.passes` that these are the ones that a step has taken.
-/
namespace ArtifactSigning

namespace Cursor

/-- The octets from a place up to a later one. -/
def upTo (c d : Cursor) : Bytes := c.rest.take (d.offset - c.offset)

/-- From one place to the other some octets of the same byte string are passed. -/
structure Passes (c d : Cursor) (octets : Bytes) : Prop where
  data_eq : d.data = c.data
  rest_eq : c.rest = octets ++ d.rest
  offset_eq : d.offset = c.offset + octets.length

variable {c d e : Cursor} {octets more : Bytes}

theorem Passes.refl (c : Cursor) : c.Passes c [] := ⟨rfl, rfl, rfl⟩

theorem Passes.trans (h : c.Passes d octets) (h' : d.Passes e more) :
    c.Passes e (octets ++ more) where
  data_eq := h'.data_eq.trans h.data_eq
  rest_eq := by rw [h.rest_eq, h'.rest_eq, List.append_assoc]
  offset_eq := by rw [h'.offset_eq, h.offset_eq, List.length_append, Nat.add_assoc]

theorem Passes.upTo_eq (h : c.Passes d octets) : c.upTo d = octets := by
  rw [upTo, h.rest_eq, h.offset_eq, Nat.add_sub_cancel_left, List.take_left]

/-- Only octets that are there are passed. -/
theorem Passes.offset_le (h : c.Passes d octets) (hc : c.offset ≤ c.data.length) :
    d.offset ≤ d.data.length := by
  have hlength := congrArg List.length h.rest_eq
  have hoffset := h.offset_eq
  rw [List.length_append, rest, rest, List.length_drop, List.length_drop] at hlength
  rw [h.data_eq] at hlength ⊢
  omega

/-- A place in a byte string has some octets before it and the others behind it. -/
theorem exists_behind (h : c.offset ≤ c.data.length) :
    ∃ front more, c = ⟨front ++ more, front.length⟩ := by
  refine ⟨c.data.take c.offset, c.data.drop c.offset, ?_⟩
  rw [List.take_append_drop, List.length_take, Nat.min_eq_left h]

theorem passes_behind (front octets back : Bytes) :
    Passes ⟨front ++ (octets ++ back), front.length⟩
      ⟨(front ++ octets) ++ back, (front ++ octets).length⟩ octets where
  data_eq := List.append_assoc front octets back
  rest_eq := by rw [rest, rest, List.drop_left, List.drop_left]
  offset_eq := List.length_append

end Cursor

namespace Reading

open Step

variable {α β : Type}

/-- Behind whatever octets it begins, the step takes octets in a form of its value. -/
def Cuts (step : Reading α) (form : α → Bytes → Prop) : Prop :=
  ∀ ⦃front more a d⦄, step ⟨front ++ more, front.length⟩ = .ok a d →
    ∃ octets back, form a octets ∧ more = octets ++ back ∧
      d = ⟨(front ++ octets) ++ back, (front ++ octets).length⟩

/-- From a place in a byte string the step passes octets in a form of its value. -/
theorem Cuts.passes {step : Reading α} {form : α → Bytes → Prop} {c d : Cursor} {a : α}
    (h : Cuts step form) (hc : c.offset ≤ c.data.length) (hrun : step c = .ok a d) :
    ∃ octets, form a octets ∧ c.Passes d octets := by
  obtain ⟨front, more, rfl⟩ := Cursor.exists_behind hc
  obtain ⟨octets, back, hform, rfl, rfl⟩ := h hrun
  exact ⟨octets, hform, Cursor.passes_behind front octets back⟩

section Composing

variable {step : Reading α} {next : α → Reading β} {form : α → Bytes → Prop}
  {whole : β → Bytes → Prop}

/-- What follows takes the rest of the whole form. -/
theorem Cuts.bind (h : Cuts step form)
    (h' : ∀ a octets, form a octets → Cuts (next a) fun b more => whole b (octets ++ more)) :
    Cuts (step >>= next) whole := by
  intro front more b d hrun
  obtain ⟨a, e, hstep, hnext⟩ := bind_eq_ok.1 hrun
  obtain ⟨octets, back, hform, rfl, rfl⟩ := h hstep
  obtain ⟨octets', back', hwhole, rfl, rfl⟩ := h' a octets hform hnext
  refine ⟨octets ++ octets', back', hwhole, (List.append_assoc ..).symm, ?_⟩
  rw [← List.append_assoc front]

theorem Cuts.bind_pure {f : α → β} (h : Cuts step form)
    (h' : ∀ a octets, form a octets → whole (f a) octets) :
    Cuts (step >>= fun a => pure (f a)) whole := by
  intro front more b d hrun
  obtain ⟨a, e, hstep, hpure⟩ := bind_eq_ok.1 hrun
  obtain ⟨rfl, rfl⟩ := pure_eq_ok.1 hpure
  obtain ⟨octets, back, hform, hmore, hend⟩ := h hstep
  exact ⟨octets, back, h' a octets hform, hmore, hend⟩

theorem Cuts.map {f : α → β} (h : Cuts step form)
    (h' : ∀ a octets, form a octets → whole (f a) octets) : Cuts (f <$> step) whole := by
  intro front more b d hrun
  obtain ⟨a, hstep, rfl⟩ := map_eq_ok.1 hrun
  obtain ⟨octets, back, hform, hmore, hend⟩ := h hstep
  exact ⟨octets, back, h' a octets hform, hmore, hend⟩

theorem cuts_pure {a : α} (h : form a []) : Cuts (pure a) form := by
  intro front more b d hrun
  obtain ⟨rfl, rfl⟩ := pure_eq_ok.1 hrun
  exact ⟨[], more, h, rfl, by rw [List.append_nil]⟩

theorem cuts_throw (failure : Failure) : Cuts (throw failure) form := by
  intro front more b d hrun
  exact absurd hrun throw_ne_ok

end Composing

theorem cuts_take (count : Nat) :
    Cuts (take count) fun bytes octets => bytes = octets ∧ octets.length = count := by
  intro front more bytes d hrun
  obtain ⟨hlength, back, hmore, hend⟩ := take_behind hrun
  exact ⟨bytes, back, ⟨rfl, hlength⟩, hmore, hend⟩

theorem cuts_octet : Cuts octet fun o octets => [o] = octets := by
  intro front more o d hrun
  obtain ⟨back, hmore, hend⟩ := octet_behind hrun
  exact ⟨[o], back, rfl, hmore, hend⟩

theorem cuts_number (width : Nat) :
    Cuts (number width) fun n octets => n < 256 ^ width ∧ bigEndian width n = octets := by
  intro front more n d hrun
  obtain ⟨hlt, back, hmore, hend⟩ := number_behind hrun
  exact ⟨bigEndian width n, back, ⟨hlt, rfl⟩, hmore, hend⟩

theorem cuts_smallNumber :
    Cuts (number 1) fun n octets => n < 256 ∧ [UInt8.ofNat n] = octets := by
  intro front more n d hrun
  obtain ⟨octets, back, ⟨hlt, rfl⟩, hmore, hend⟩ := cuts_number 1 hrun
  exact ⟨_, back, ⟨hlt, by simp [bigEndian]⟩, hmore, hend⟩

theorem cuts_integerOctets : Cuts integerOctets fun value octets =>
    ∃ bits, bits < 256 ^ 2 ∧ value.length = octetsFor bits ∧ integerForm bits value = octets := by
  refine (cuts_number 2).bind ?_
  rintro bits _ ⟨hbits, rfl⟩ front more value d hrun
  obtain ⟨_, back, ⟨rfl, hlength⟩, hmore, hend⟩ := cuts_take _ hrun
  exact ⟨value, back, ⟨bits, hbits, hlength, rfl⟩, hmore, hend⟩

/-- Octets begin with at most one form that a step reads, and it has one value. -/
theorem Reads.unique {step : Reading α} {form form' rest rest' : Bytes} {a a' : α}
    (h : Reads step form a) (h' : Reads step form' a') (heq : form ++ rest = form' ++ rest') :
    form = form' ∧ a = a' := by
  have hrun := h [] rest
  rw [heq, h' [] rest'] at hrun
  injection hrun with hvalue hcursor
  injection hcursor with _ hlength
  exact ⟨(List.append_inj heq (by simpa using hlength.symm)).1, hvalue.symm⟩

end Reading

end ArtifactSigning
