import ArtifactSigning.Packet.Frame

/-!
# Places in a sequence of packets

What a packet means may depend on the packets before it. `places` lists where in a sequence a
condition on a packet and on those before it holds, and `lastPlace?` where a packet with one of some
tags stands last. Both are described by what one more packet at the end adds.
-/
namespace ArtifactSigning.Packet

/-- A condition on a packet behind other packets. -/
abbrev Condition := List Packet → Packet → Bool

/-- The places of the packets that meet a condition, in order. -/
def places (condition : Condition) (packets : List Packet) : List Nat :=
  (List.range packets.length).filter fun place =>
    packets[place]?.any (condition (packets.take place))

/-- The condition to have one of some tags. -/
def hasTag (tags : List Nat) : Condition := fun _ packet => tags.contains packet.tag

/-- The place of the last packet with one of some tags. -/
def lastPlace? (tags : List Nat) (packets : List Packet) : Option Nat :=
  (places (hasTag tags) packets).getLast?

variable {condition : Condition} {packets : List Packet} {packet : Packet} {place : Nat}
  {tags : List Nat}

/-- One more packet adds its own place, if it meets the condition, and changes nothing before. -/
theorem places_append_singleton :
    places condition (packets ++ [packet]) =
      places condition packets ++ if condition packets packet then [packets.length] else [] := by
  have hbefore : (List.range packets.length).filter (fun place =>
      (packets ++ [packet])[place]?.any (condition ((packets ++ [packet]).take place))) =
        places condition packets := by
    apply List.filter_congr
    intro place hplace
    have hlt := List.mem_range.1 hplace
    rw [List.getElem?_append_left hlt, List.take_append_of_le_length (Nat.le_of_lt hlt)]
  rw [places, List.length_append, List.length_singleton, List.range_succ, List.filter_append,
    hbefore]
  congr 1
  by_cases h : condition packets packet <;> simp [h]

theorem places_append_of_meets (h : condition packets packet = true) :
    places condition (packets ++ [packet]) = places condition packets ++ [packets.length] := by
  rw [places_append_singleton, if_pos h]

theorem places_append_of_misses (h : condition packets packet = false) :
    places condition (packets ++ [packet]) = places condition packets := by
  rw [places_append_singleton, h]
  simp

theorem mem_places : place ∈ places condition packets ↔
    ∃ packet, packets[place]? = some packet ∧ condition (packets.take place) packet = true := by
  rw [places, List.mem_filter, List.mem_range]
  constructor
  · rintro ⟨-, h⟩
    cases hat : packets[place]? with
    | none => simp [hat] at h
    | some packet => exact ⟨packet, rfl, by simpa [hat] using h⟩
  · rintro ⟨packet, hat, h⟩
    exact ⟨(List.getElem?_eq_some_iff.1 hat).1, by simpa [hat] using h⟩

theorem lt_length_of_mem_places (h : place ∈ places condition packets) :
    place < packets.length := by
  obtain ⟨packet, hat, -⟩ := mem_places.1 h
  exact (List.getElem?_eq_some_iff.1 hat).1

theorem nodup_places : (places condition packets).Nodup :=
  List.nodup_range.filter _

theorem lastPlace?_append_singleton :
    lastPlace? tags (packets ++ [packet]) =
      if tags.contains packet.tag then some packets.length else lastPlace? tags packets := by
  rw [lastPlace?, places_append_singleton]
  by_cases h : tags.contains packet.tag
  · have hmeets : hasTag tags packets packet = true := h
    rw [if_pos hmeets, if_pos h, List.getLast?_concat]
  · have hmisses : ¬hasTag tags packets packet = true := h
    rw [if_neg hmisses, if_neg h, List.append_nil, lastPlace?]

theorem lastPlace?_lt (h : lastPlace? tags packets = some place) : place < packets.length :=
  lt_length_of_mem_places (List.mem_of_getLast? h)

end ArtifactSigning.Packet
