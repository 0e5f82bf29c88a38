import ArtifactSigning.Proofs.Gpg.DottedNumber

/-!
# The texts of versions

A version is read from the first dotted number of a text, run by run. What is read is a version of
at least two numbers, and these versions are read back from their texts, also in the middle of
another text that has no joint before them (`ofText_append`).
-/
namespace ArtifactSigning.Version

open Text

/-- A version that can be written and read: at least two numbers, of which none is too long. -/
structure IsReadable (v : Version) : Prop where
  two : 2 ≤ v.segments.length
  numbers : ∀ n ∈ v.segments, 0 ≤ n ∧ n.toNat < 10 ^ maxDigits

instance (v : Version) : Decidable v.IsReadable :=
  decidable_of_iff (2 ≤ v.segments.length ∧ ∀ n ∈ v.segments, 0 ≤ n ∧ n.toNat < 10 ^ maxDigits)
    ⟨fun ⟨two, numbers⟩ => ⟨two, numbers⟩, fun h => ⟨h.two, h.numbers⟩⟩

variable {text before after : List Char} {runs : List (List Char)} {i : Nat} {v : Version}

section Reading

/-- The version that runs of digits spell. -/
def spelledBy (runs : List (List Char)) : Version := ⟨runs.map fun run => Int.ofNat (numberOf run)⟩

theorem mapM_readDecimal? (hruns : ∀ run ∈ runs, IsNumeral run) : runs.mapM readDecimal? =
    if ∀ run ∈ runs, run.length ≤ maxDigits then some (runs.map numberOf) else none := by
  induction runs with
  | nil => simp
  | cons run runs ih =>
      rw [List.mapM_cons, ih fun other hother => hruns other (.tail _ hother),
        readDecimal?_of_isNumeral (hruns run List.mem_cons_self)]
      simp only [List.forall_mem_cons]
      by_cases hall : run.length ≤ maxDigits ∧ ∀ other ∈ runs, other.length ≤ maxDigits
      · rw [if_pos hall, if_pos hall.1, if_pos hall.2]
        rfl
      · rw [if_neg hall]
        by_cases hrun : run.length ≤ maxDigits
        · rw [if_pos hrun, if_neg fun h => hall ⟨hrun, h⟩]
          rfl
        · rw [if_neg hrun]
          rfl

/-- The numbers are read run by run, if none of the runs is too long. -/
theorem ofText_of_firstRuns? (h : firstRuns? text = some runs)
    (hruns : ∀ run ∈ runs, IsNumeral run) : ofText text =
      if ∀ run ∈ runs, run.length ≤ maxDigits then .ok (spelledBy runs)
      else .error .invalidValue := by
  rw [ofText, h]
  dsimp only
  rw [mapM_readDecimal? hruns]
  by_cases hall : ∀ run ∈ runs, run.length ≤ maxDigits
  · rw [if_pos hall, if_pos hall, spelledBy]
    simp
  · rw [if_neg hall, if_neg hall]

theorem ofText_of_not_isJoint (h : ∀ i, ¬IsJoint text i) :
    ofText text = .error (.version (.noNumber (String.ofList text))) := by
  rw [ofText, firstRuns?_eq_none h]

/-- The number with the first joint of a text is read from it. -/
theorem ofText_of_isJoint (hjoint : IsJoint text i) (hleast : ∀ j < i, ¬IsJoint text j) :
    ∃ before first others after, text = before ++ (dotted (first :: others) ++ after) ∧
      (before ++ first).length = i + 1 ∧ (∀ run ∈ first :: others, IsNumeral run) ∧
      StandsBefore before ∧ StandsBehind after ∧ others ≠ [] ∧ ofText text =
        if ∀ run ∈ first :: others, run.length ≤ maxDigits then .ok (spelledBy (first :: others))
        else .error .invalidValue := by
  obtain ⟨before, first, others, after, htext, hlength, hruns, hne, hbefore, hafter⟩ :=
    exists_first_number hjoint hleast
  have htwo : 2 ≤ (first :: others).length := Nat.succ_le_succ (List.length_pos_iff.2 hne)
  have hread := firstRuns?_eq_some hbefore hruns htwo hafter
  rw [← htext] at hread
  exact ⟨before, first, others, after, htext, hlength, hruns, hbefore, hafter, hne,
    ofText_of_firstRuns? hread hruns⟩

theorem exists_least_isJoint (h : ∃ i, IsJoint text i) :
    ∃ i, IsJoint text i ∧ ∀ j < i, ¬IsJoint text j := by
  classical
  exact ⟨Nat.find h, Nat.find_spec h, fun j hj => Nat.find_min h hj⟩

/-- Between marks a number is read as it is alone, if nothing in front of it has a joint. -/
theorem ofText_between {front rest : List Char} {c d : Char} (hfront : ∀ i, ¬IsJoint front i)
    (hc : IsMark c) (hd : IsMark d) (hjoint : ∃ i, IsJoint text i) :
    ofText (front ++ c :: (text ++ d :: rest)) = ofText text := by
  obtain ⟨i, hi, hleast⟩ := exists_least_isJoint hjoint
  obtain ⟨before, first, others, after, rfl, -, hruns, hne, hbefore, hafter⟩ :=
    exists_first_number hi hleast
  have htwo : 2 ≤ (first :: others).length := Nat.succ_le_succ (List.length_pos_iff.2 hne)
  have halone := firstRuns?_eq_some hbefore hruns htwo hafter
  have hamid := firstRuns?_eq_some (hbefore.append_mark hfront hc) hruns htwo
    (hafter.append_mark hd rest)
  have htext : front ++ c :: (before ++ (dotted (first :: others) ++ after) ++ d :: rest) =
      front ++ c :: before ++ (dotted (first :: others) ++ (after ++ d :: rest)) := by simp
  rw [htext, ofText_of_firstRuns? hamid hruns, ofText_of_firstRuns? halone hruns]

/-- What is read can be written. -/
theorem isReadable_of_ofText (h : ofText text = .ok v) : v.IsReadable := by
  by_cases hjoint : ∃ i, IsJoint text i
  · obtain ⟨i, hi, hleast⟩ := exists_least_isJoint hjoint
    obtain ⟨before, first, others, after, -, -, -, -, -, hne, hread⟩ := ofText_of_isJoint hi hleast
    rw [h] at hread
    split at hread
    · rename_i hshort
      obtain rfl := Except.ok.inj hread
      refine ⟨?_, fun n hn => ?_⟩
      · rw [spelledBy, List.length_map]
        exact Nat.succ_le_succ (List.length_pos_iff.2 hne)
      · obtain ⟨run, hrun, rfl⟩ := List.mem_map.1 hn
        have hlt := numberOf_lt run
        have hle := Nat.pow_le_pow_right (show 0 < 10 by decide) (hshort run hrun)
        exact ⟨Int.natCast_nonneg _, Nat.lt_of_lt_of_le hlt hle⟩
    · cases hread
  · rw [ofText_of_not_isJoint (not_exists.1 hjoint)] at h
    cases h

end Reading

section Printing

/-- The runs of digits of a printed version. -/
def printedRuns (v : Version) : List (List Char) :=
  v.segments.map fun n => Nat.toDigits 10 n.toNat

theorem toList_text (h : ∀ n ∈ v.segments, 0 ≤ n) : v.text.toList = dotted (printedRuns v) := by
  rw [text, String.toList_intercalate, List.map_map, dotted, printedRuns]
  congr 1
  refine List.map_congr_left fun n hn => ?_
  rw [Function.comp_apply, Int.toString_eq_repr, Int.repr_eq_if, if_pos (h n hn), Nat.toList_repr]

theorem isNumeral_printedRuns : ∀ run ∈ printedRuns v, IsNumeral run := by
  intro run hrun
  obtain ⟨n, -, rfl⟩ := List.mem_map.1 hrun
  exact isNumeral_toDigits _

theorem spelledBy_printedRuns (h : ∀ n ∈ v.segments, 0 ≤ n) : spelledBy (printedRuns v) = v := by
  have hsegments : (printedRuns v).map (fun run => Int.ofNat (numberOf run)) = v.segments := by
    rw [printedRuns, List.map_map]
    refine (List.map_congr_left fun n hn => ?_).trans (List.map_id _)
    rw [Function.comp_apply, numberOf_toDigits]
    exact Int.toNat_of_nonneg (h n hn)
  rw [spelledBy, hsegments]

theorem length_printedRuns (h : ∀ n ∈ v.segments, n.toNat < 10 ^ maxDigits) :
    ∀ run ∈ printedRuns v, run.length ≤ maxDigits := by
  intro run hrun
  obtain ⟨n, hn, rfl⟩ := List.mem_map.1 hrun
  exact (Nat.length_toDigits_le_iff (by decide) (by decide)).2 (h n hn)

/-- A version is read back from its text, wherever this is the first number. -/
theorem ofText_append (hv : v.IsReadable) (hbefore : StandsBefore before)
    (hafter : StandsBehind after) : ofText (before ++ (v.text.toList ++ after)) = .ok v := by
  have hnonneg : ∀ n ∈ v.segments, 0 ≤ n := fun n hn => (hv.numbers n hn).1
  have htwo : 2 ≤ (printedRuns v).length := by
    rw [printedRuns, List.length_map]
    exact hv.two
  have hread := firstRuns?_eq_some hbefore isNumeral_printedRuns htwo hafter
  rw [← toList_text hnonneg] at hread
  rw [ofText_of_firstRuns? hread isNumeral_printedRuns,
    if_pos (length_printedRuns fun n hn => (hv.numbers n hn).2), spelledBy_printedRuns hnonneg]

end Printing

/-- A version is read from the number with the first joint, and without a joint there is none. What
is read is what is written, alone or in the middle of a text. -/
theorem ofText_reads_first_number :
    (∀ text, (∃ fault, ofText text = .error (.version fault)) ↔ ∀ i, ¬IsJoint text i) ∧
      (∀ text i, IsJoint text i → (∀ j < i, ¬IsJoint text j) →
        ∃ before first others after, text = before ++ (dotted (first :: others) ++ after) ∧
          (before ++ first).length = i + 1 ∧ (∀ run ∈ first :: others, IsNumeral run) ∧
          StandsBefore before ∧ StandsBehind after ∧ others ≠ [] ∧ ofText text =
            if ∀ run ∈ first :: others, run.length ≤ maxDigits
            then .ok ⟨(first :: others).map fun run => Int.ofNat (numberOf run)⟩
            else .error .invalidValue) ∧
      (∀ v : Version, ofText v.text.toList = .ok v ↔ v.IsReadable) ∧
      (∀ text v, ofText text = .ok v → ofText v.text.toList = .ok v) ∧
      ∀ v before after, v.IsReadable → StandsBefore before → StandsBehind after →
        ofText (before ++ (v.text.toList ++ after)) = .ok v := by
  have hprinted {v : Version} (hv : v.IsReadable) : ofText v.text.toList = .ok v := by
    have hread := ofText_append hv standsBefore_nil standsBehind_nil
    rwa [List.nil_append, List.append_nil] at hread
  refine ⟨fun text => ⟨?_, fun h => ⟨_, ofText_of_not_isJoint h⟩⟩,
    fun text i => ofText_of_isJoint, fun v => ⟨isReadable_of_ofText, hprinted⟩,
    fun text v h => hprinted (isReadable_of_ofText h), fun v before after => ofText_append⟩
  rintro ⟨fault, hfault⟩
  by_contra hjoint
  obtain ⟨i, hi, hleast⟩ := exists_least_isJoint (not_forall_not.1 hjoint)
  obtain ⟨before, first, others, after, -, -, -, -, -, -, hread⟩ := ofText_of_isJoint hi hleast
  rw [hfault] at hread
  split at hread <;> cases hread

/-- Dots with nothing between them join no digits. -/
theorem ofText_reads_first_number_behind_dots :
    IsReadable ⟨[2, 3]⟩ ∧ StandsBefore "v1..".toList ∧ StandsBehind ".x 4.5".toList ∧
      ofText "v1..2.3.x 4.5".toList = .ok ⟨[2, 3]⟩ := by
  have hv : IsReadable ⟨[2, 3]⟩ := by decide +kernel
  have hbefore : StandsBefore "v1..".toList := by
    refine ⟨fun i hi => ?_, ?_, ?_⟩
    · have hnone : ∀ i < 4, ¬IsJoint "v1..".toList i := by decide
      exact hnone i (Nat.lt_of_le_of_lt (Nat.le_add_right i 2) hi.lt_length) hi
    · rintro c rest ⟨⟩
      decide
    · rintro c rest ⟨⟩
      decide
  have hafter : StandsBehind ".x 4.5".toList := by
    refine ⟨?_, ?_⟩
    · rintro c rest ⟨⟩
      decide
    · rintro c rest ⟨⟩
      decide
  have hread := ofText_reads_first_number.2.2.2.2 _ _ _ hv hbefore hafter
  exact ⟨hv, hbefore, hafter, hread⟩

end ArtifactSigning.Version
