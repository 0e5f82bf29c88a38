import ArtifactSigning.Proofs.Packet.Cutting

/-!
# Reading on after failures

A reader is asked for one thing after the other, and reading goes on where an operation fails. An
operation that succeeds has passed the octets that its value is made of (`cuts_step`); one that
fails does so because octets are missing, and has passed none, or the two of a bit count
(`stops_step`). So a whole run goes forward over the octets, and passes none of them twice
(`trace_orderly`).
-/
namespace ArtifactSigning.Reading

open Step

/-- What a reader can be asked for. -/
inductive Operation where
  | atEnd
  /-- Octets of a count that may be negative. -/
  | take (count : Int)
  | octet
  /-- A number of some octets, such as two or four. -/
  | number (width : Nat)
  | integerOctets
  | integer
  | remaining
  deriving DecidableEq, Repr

/-- What an operation returns. -/
inductive Value where
  | truth (holds : Bool)
  | number (n : Nat)
  | octets (bytes : Bytes)
  deriving DecidableEq, Repr

namespace Operation

/-- The reading step of an operation. -/
def step : Operation → Reading Value
  | atEnd => Value.truth <$> Reading.atEnd
  | take count => Value.octets <$> takeSigned count
  | octet => (fun o => Value.number o.toNat) <$> Reading.octet
  | number width => Value.number <$> Reading.number width
  | integerOctets => Value.octets <$> Reading.integerOctets
  | integer => Value.number <$> Reading.integer
  | remaining => Value.octets <$> Reading.remaining

/-- The value that an operation makes of the octets that it passes. -/
inductive Makes : Operation → Value → Bytes → Prop
  | atEnd (holds : Bool) : Makes atEnd (.truth holds) []
  | take {count : Int} {octets : Bytes} (h : octets.length = count) :
      Makes (take count) (.octets octets) octets
  | octet (o : UInt8) : Makes octet (.number o.toNat) [o]
  | number {width : Nat} {octets : Bytes} (h : octets.length = width) :
      Makes (number width) (.number (ofBigEndian octets)) octets
  | integerOctets {bits : Nat} {octets : Bytes} (hbits : bits < 256 ^ 2)
      (h : octets.length = octetsFor bits) :
      Makes integerOctets (.octets octets) (integerForm bits octets)
  | integer {bits : Nat} {octets : Bytes} (hbits : bits < 256 ^ 2)
      (h : octets.length = octetsFor bits) :
      Makes integer (.number (ofBigEndian octets)) (integerForm bits octets)
  | remaining (octets : Bytes) : Makes remaining (.octets octets) octets

/-- How many octets an operation may have passed when it fails. -/
def StopsAfter : Operation → Nat → Prop
  | atEnd, _ | remaining, _ => False
  | take _, count | octet, count | number _, count => count = 0
  | integerOctets, count | integer, count => count = 0 ∨ count = 2

end Operation

section Stopping

variable {α β : Type} {step : Reading α} {next : α → Reading β} {form : α → Bytes → Prop}
  {counts : Nat → Prop}

/-- From a place in a byte string the step fails for want of octets only, and has passed one of some
numbers of octets then. -/
def Stops (step : Reading α) (counts : Nat → Prop) : Prop :=
  ∀ ⦃c failure d⦄, c.offset ≤ c.data.length → step c = .error failure d →
    failure = .format .truncated ∧ ∃ octets, counts octets.length ∧ c.Passes d octets

theorem Stops.map {f : α → β} (h : Stops step counts) : Stops (f <$> step) counts := by
  intro c failure d hc hrun
  exact h hc (map_eq_error.1 hrun)

/-- What follows stops behind the octets that the first step has passed. -/
theorem Stops.bind (h : Stops step counts) (hcuts : Cuts step form)
    (h' : ∀ a octets, form a octets → Stops (next a) fun count => counts (octets.length + count)) :
    Stops (step >>= next) counts := by
  intro c failure d hc hrun
  rcases bind_eq_error.1 hrun with hstep | ⟨a, e, hstep, hnext⟩
  · exact h hc hstep
  · obtain ⟨octets, hform, hpassed⟩ := hcuts.passes hc hstep
    obtain ⟨hfailure, more, hcount, hmore⟩ := h' a octets hform (hpassed.offset_le hc) hnext
    refine ⟨hfailure, octets ++ more, ?_, hpassed.trans hmore⟩
    rwa [List.length_append]

theorem stops_of_ok (h : ∀ c, ∃ a d, step c = .ok a d) : Stops step counts := by
  intro c failure d hc hrun
  obtain ⟨a, e, hok⟩ := h c
  cases hok.symm.trans hrun

theorem stops_truncated (h : counts 0) : Stops (throw (.format .truncated) : Reading α) counts := by
  intro c failure d hc hrun
  cases hrun
  exact ⟨rfl, [], h, .refl c⟩

theorem stops_take {count : Nat} (h : counts 0) : Stops (take count) counts := by
  intro c failure d hc hrun
  rw [take] at hrun
  split at hrun
  · cases hrun
  · cases hrun
    exact ⟨rfl, [], h, .refl c⟩

theorem stops_octet (h : counts 0) : Stops octet counts := by
  refine (stops_take h).bind (cuts_take 1) ?_
  rintro bytes octets ⟨rfl, hlength⟩
  obtain ⟨o, rfl⟩ := List.length_eq_one_iff.1 hlength
  exact stops_of_ok fun c => ⟨o, c, rfl⟩

theorem stops_number {width : Nat} (h : counts 0) : Stops (number width) counts :=
  (stops_take h).map

theorem stops_integerOctets : Stops integerOctets fun count => count = 0 ∨ count = 2 := by
  refine (stops_number (.inl rfl)).bind (cuts_number 2) ?_
  rintro bits octets ⟨hbits, rfl⟩
  exact stops_take (.inr (length_bigEndian 2 bits))

end Stopping

theorem cuts_atEnd : Cuts atEnd fun _ octets => octets = [] := by
  intro front more holds d hrun
  cases hrun
  exact ⟨[], more, rfl, rfl, by rw [List.append_nil]⟩

theorem remaining_behind (front more : Bytes) :
    remaining ⟨front ++ more, front.length⟩ =
      .ok more ⟨front ++ more, (front ++ more).length⟩ := by
  rw [remaining, Cursor.rest, List.drop_left]

theorem cuts_remaining : Cuts remaining fun bytes octets => bytes = octets := by
  intro front more bytes d hrun
  rw [remaining_behind] at hrun
  cases hrun
  exact ⟨more, [], rfl, (List.append_nil more).symm, by rw [List.append_nil]⟩

namespace Operation

variable {c : Cursor} {value : Value} {octets : Bytes}

/-- An operation that succeeds has passed the octets that it makes its value of. -/
theorem cuts_step (operation : Operation) : Cuts operation.step operation.Makes := by
  cases operation with
  | atEnd =>
      refine cuts_atEnd.map ?_
      rintro holds _ rfl
      exact .atEnd holds
  | take count =>
      change Cuts (Value.octets <$> takeSigned count) _
      rw [takeSigned]
      split
      · have hnothing : Cuts (throw (.format .truncated)) fun (_ : Bytes) _ => False :=
          cuts_throw _
        exact hnothing.map fun _ _ h => h.elim
      · refine (cuts_take _).map ?_
        rintro bytes octets ⟨rfl, hlength⟩
        exact .take (by omega)
  | octet =>
      refine cuts_octet.map ?_
      rintro o _ rfl
      exact .octet o
  | number width =>
      refine (cuts_number width).map ?_
      rintro n _ ⟨hlt, rfl⟩
      have hmakes := Makes.number (length_bigEndian width n)
      rwa [ofBigEndian_bigEndian, Nat.mod_eq_of_lt hlt] at hmakes
  | integerOctets =>
      refine cuts_integerOctets.map ?_
      rintro bytes _ ⟨bits, hbits, hlength, rfl⟩
      exact .integerOctets hbits hlength
  | integer =>
      have hinteger : Cuts Reading.integer fun n octets => Makes integer (.number n) octets := by
        refine cuts_integerOctets.map ?_
        rintro bytes _ ⟨bits, hbits, hlength, rfl⟩
        exact .integer hbits hlength
      exact hinteger.map fun _ _ h => h
  | remaining =>
      refine cuts_remaining.map ?_
      rintro bytes _ rfl
      exact .remaining bytes

/-- An operation that fails lacks octets, and has passed none of them or a bit count. -/
theorem stops_step (operation : Operation) : Stops operation.step operation.StopsAfter := by
  cases operation with
  | atEnd => exact stops_of_ok fun c => ⟨_, _, rfl⟩
  | take count =>
      change Stops (Value.octets <$> takeSigned count) _
      rw [takeSigned]
      split
      · exact Stops.map (stops_truncated rfl)
      · exact Stops.map (stops_take rfl)
  | octet => exact Stops.map (stops_octet rfl)
  | number width => exact Stops.map (stops_number rfl)
  | integerOctets => exact stops_integerOctets.map
  | integer => exact stops_integerOctets.map.map
  | remaining => exact stops_of_ok fun c => ⟨_, _, rfl⟩

/-- In front of octets that an operation makes a value of it succeeds. -/
theorem exists_ok_of_makes {operation : Operation} (h : operation.Makes value octets)
    (front back : Bytes) :
    ∃ a d, operation.step ⟨front ++ (octets ++ back), front.length⟩ = .ok a d := by
  have hreads {α : Type} {step : Reading α} {form : Bytes} {a : α} (f : α → Value)
      (hstep : Reads step form a) :
      ∃ a d, (f <$> step) ⟨front ++ (form ++ back), front.length⟩ = .ok a d :=
    ⟨_, _, hstep.map front back⟩
  cases h with
  | atEnd => exact ⟨_, _, rfl⟩
  | @take count octets hlength =>
      have hstep : takeSigned count = Reading.take octets.length := by
        rw [takeSigned, if_neg (by omega)]
        congr 1
        omega
      exact hreads Value.octets (hstep ▸ reads_take octets)
  | octet o => exact hreads _ (reads_octet o)
  | @number width octets hlength =>
      have hstep : Reads (Reading.number width) octets (ofBigEndian octets) :=
        (reads_taken hlength).map
      exact hreads _ hstep
  | integerOctets hbits hlength => exact hreads _ (reads_integerOctets hbits hlength)
  | integer hbits hlength => exact hreads _ (reads_integerOctets hbits hlength).map
  | remaining => exact ⟨_, _, rfl⟩

end Operation

/-- One operation of a run: how it ended, and the places before and after it. -/
structure Event where
  operation : Operation
  before : Cursor
  outcome : Except Failure Value
  after : Cursor

/-- An operation as it is carried out at a place. -/
def Operation.eventAt (operation : Operation) (c : Cursor) : Event :=
  ⟨operation, c, outcome operation.step c, finalState operation.step c⟩

/-- Operations that are carried out one after the other, whether or not they fail. -/
def trace : List Operation → Cursor → List Event
  | [], _ => []
  | operation :: operations, c =>
      operation.eventAt c :: trace operations (operation.eventAt c).after

/-- The octets between the places before and after an operation. -/
def Event.passed (event : Event) : Bytes := event.before.upTo event.after

/-- What holds of every operation on a byte string. -/
structure Event.Orderly (data : Bytes) (event : Event) : Prop where
  data_eq : event.after.data = data
  forward : event.before.offset ≤ event.after.offset
  inside : event.after.offset ≤ data.length
  /-- The value is made of exactly the octets that were passed. -/
  makes : ∀ value, event.outcome = .ok value → event.operation.Makes value event.passed
  /-- A failure is one of malformed data, and says where it leaves the reader. -/
  stops : ∀ failure, event.outcome = .error failure → failure = .format .truncated ∧
    event.operation.StopsAfter (event.after.offset - event.before.offset)
  /-- An operation succeeds in front of any octets that it makes a value of. -/
  succeeds_iff : (∃ value, event.outcome = .ok value) ↔
    ∃ value octets, event.operation.Makes value octets ∧ octets <+: event.before.rest
  to_end : event.operation = .remaining → event.after.offset = data.length

section Runs

variable {c : Cursor} {operation : Operation} {operations : List Operation} {event : Event}

/-- What an operation passes, and what that says about its outcome. -/
theorem passes_eventAt (hc : c.offset ≤ c.data.length) (operation : Operation) :
    c.Passes (operation.eventAt c).after (operation.eventAt c).passed ∧
      (∀ value, (operation.eventAt c).outcome = .ok value →
        operation.Makes value (operation.eventAt c).passed) ∧
      ∀ failure, (operation.eventAt c).outcome = .error failure →
        failure = .format .truncated ∧
          operation.StopsAfter (operation.eventAt c).passed.length := by
  rw [Event.passed]
  cases hrun : operation.step c with
  | ok value d =>
      obtain ⟨octets, hmakes, hpassed⟩ := operation.cuts_step.passes hc hrun
      simp only [Operation.eventAt, finalState_of_ok hrun, outcome_of_ok hrun, hpassed.upTo_eq]
      exact ⟨hpassed, fun _ h => Except.ok.inj h ▸ hmakes, nofun⟩
  | error failure d =>
      obtain ⟨hfailure, octets, hcount, hpassed⟩ := operation.stops_step hc hrun
      simp only [Operation.eventAt, finalState_of_error hrun, outcome_of_error hrun,
        hpassed.upTo_eq]
      exact ⟨hpassed, nofun, fun _ h => Except.error.inj h ▸ ⟨hfailure, hcount⟩⟩

theorem inside_eventAt (hc : c.offset ≤ c.data.length) (operation : Operation) :
    (operation.eventAt c).after.offset ≤ (operation.eventAt c).after.data.length :=
  (passes_eventAt hc operation).1.offset_le hc

/-- What one operation keeps. -/
theorem orderly_eventAt (hc : c.offset ≤ c.data.length) (operation : Operation) :
    (operation.eventAt c).Orderly c.data := by
  obtain ⟨hpassed, hmakes, hstops⟩ := passes_eventAt hc operation
  have hoffset := hpassed.offset_eq
  have hinside : (operation.eventAt c).after.offset ≤ c.data.length :=
    hpassed.data_eq ▸ hpassed.offset_le hc
  refine ⟨hpassed.data_eq, Nat.le.intro hoffset.symm, hinside, hmakes, ?_, ?_, ?_⟩
  · intro failure hfailure
    have hadvance : (operation.eventAt c).after.offset - (operation.eventAt c).before.offset =
        (operation.eventAt c).passed.length := Nat.sub_eq_of_eq_add' hoffset
    rw [hadvance]
    exact hstops failure hfailure
  · constructor
    · rintro ⟨value, hvalue⟩
      exact ⟨value, _, hmakes value hvalue, _, hpassed.rest_eq.symm⟩
    · rintro ⟨value, octets, hvalue, back, hback⟩
      obtain ⟨front, more, rfl⟩ := Cursor.exists_behind hc
      have hmore : octets ++ back = more := by
        rw [hback]
        exact List.drop_left
      obtain ⟨a, d, hrun⟩ := Operation.exists_ok_of_makes hvalue front back
      rw [hmore] at hrun
      exact ⟨a, outcome_of_ok hrun⟩
  · rintro rfl
    rfl

/-- What a whole run keeps. -/
theorem orderly_of_mem_trace (hc : c.offset ≤ c.data.length) (h : event ∈ trace operations c) :
    event.Orderly c.data ∧ c.offset ≤ event.before.offset := by
  induction operations generalizing c with
  | nil => cases h
  | cons operation operations ih =>
      have hfirst := orderly_eventAt hc operation
      rcases List.mem_cons.1 h with rfl | h
      · exact ⟨hfirst, Nat.le_refl _⟩
      · obtain ⟨hevent, hbehind⟩ := ih (inside_eventAt hc operation) h
        exact ⟨hfirst.data_eq ▸ hevent, Nat.le_trans hfirst.forward hbehind⟩

/-- No operation goes back behind an earlier one. -/
theorem pairwise_offsets (hc : c.offset ≤ c.data.length) (operations : List Operation) :
    (c.offset :: (trace operations c).map (·.after.offset)).Pairwise (· ≤ ·) := by
  induction operations generalizing c with
  | nil => exact List.pairwise_singleton _ _
  | cons operation operations ih =>
      refine List.pairwise_cons.2 ⟨fun offset hoffset => ?_, ih (inside_eventAt hc operation)⟩
      obtain ⟨event, hevent, rfl⟩ := List.mem_map.1 hoffset
      obtain ⟨horderly, hbehind⟩ := orderly_of_mem_trace hc hevent
      exact Nat.le_trans hbehind horderly.forward

/-- The octets that are passed are the first ones, each of them once. -/
theorem passed_isPrefix_rest (hc : c.offset ≤ c.data.length) (operations : List Operation) :
    (trace operations c).flatMap Event.passed <+: c.rest := by
  induction operations generalizing c with
  | nil => exact List.nil_prefix
  | cons operation operations ih =>
      obtain ⟨hpassed, -⟩ := passes_eventAt hc operation
      rw [trace, List.flatMap_cons, hpassed.rest_eq]
      exact (List.prefix_append_right_inj _).2 (ih (inside_eventAt hc operation))

/-- The end is reached where nothing remains. -/
theorem atEnd_iff_remaining (c : Cursor) :
    outcome Operation.atEnd.step c = .ok (.truth true) ↔
      outcome Operation.remaining.step c = .ok (.octets []) := by
  have hend : outcome Operation.atEnd.step c = .ok (.truth c.atEnd) := rfl
  have hrest : outcome Operation.remaining.step c = .ok (.octets c.rest) := rfl
  rw [hend, hrest]
  simp [Cursor.atEnd, Cursor.rest]

/-- Whatever a reader is asked for, and however often it fails, its place goes forward inside the
octets. What succeeds returns the value of the octets that it has passed, and what fails does so for
want of octets, where it began or behind a bit count. Each octet is passed at most once, and the end
is reached where nothing remains. -/
theorem trace_orderly {data : Bytes} {start : Nat} (h : start ≤ data.length)
    (operations : List Operation) :
    (∀ event ∈ trace operations ⟨data, start⟩, event.Orderly data) ∧
      (start :: (trace operations ⟨data, start⟩).map (·.after.offset)).Pairwise (· ≤ ·) ∧
      (trace operations ⟨data, start⟩).flatMap Event.passed <+: data.drop start ∧
      ∀ c, outcome Operation.atEnd.step c = .ok (.truth true) ↔
        outcome Operation.remaining.step c = .ok (.octets []) := by
  have hc : Cursor.offset ⟨data, start⟩ ≤ (Cursor.data ⟨data, start⟩).length := h
  refine ⟨fun event hevent => ?_, ?_, ?_, atEnd_iff_remaining⟩
  · exact (orderly_of_mem_trace hc hevent).1
  · exact pairwise_offsets hc operations
  · exact passed_isPrefix_rest hc operations

/-- Operations that fail in between: a negative count, a count beyond the end, octets missing behind
a bit count, and an octet asked for at the end. -/
def failingOperations : List Operation :=
  [.integer, .take (-1), .take 9, .integerOctets, .number 2, .atEnd, .remaining, .octet, .atEnd]

/-- A written number behind an octet that is left out, and a bit count with too few octets. -/
def failingOctets : Bytes := [7, 0, 9, 1, 0xFF, 0, 17, 2]

theorem trace_orderly_with_failures :
    1 ≤ failingOctets.length ∧
      ((trace failingOperations ⟨failingOctets, 1⟩).map fun event =>
        (event.outcome.toOption, event.after.offset)) =
        [(some (.number 511), 5), (none, 5), (none, 5), (none, 7), (none, 7),
          (some (.truth false), 7), (some (.octets [2]), 8), (none, 8), (some (.truth true), 8)] ∧
      (∀ event ∈ trace failingOperations ⟨failingOctets, 1⟩, event.Orderly failingOctets) ∧
      (1 :: (trace failingOperations ⟨failingOctets, 1⟩).map (·.after.offset)).Pairwise (· ≤ ·) ∧
      (trace failingOperations ⟨failingOctets, 1⟩).flatMap Event.passed <+:
        failingOctets.drop 1 := by
  have hstart : 1 ≤ failingOctets.length := by decide
  obtain ⟨horderly, hforward, hpassed, -⟩ := trace_orderly hstart failingOperations
  exact ⟨hstart, by decide, horderly, hforward, hpassed⟩

end Runs

end ArtifactSigning.Reading
