import ArtifactSigning.Gpg.Version
import ArtifactSigning.Proofs.Text.Digit
import Mathlib.Data.List.TakeWhile

/-!
# The first dotted number of a text

A joint is a place with a digit, a dot and a digit. The first dotted number of a text is the one
with the first joint: it begins with the run of digits in front of that joint and goes on as long as
a dot and a digit follow. Every text with a joint has such a number (`exists_first_number`), and it
is the one that is found (`firstRuns?_eq_some`).
-/
namespace ArtifactSigning.Version

open Text

/-- At a place of a text stand a digit, a dot and a digit. -/
def IsJoint (text : List Char) (i : Nat) : Prop :=
  (∃ c, text[i]? = some c ∧ isDecimal c = true) ∧ text[i + 1]? = some '.' ∧
    ∃ c, text[i + 2]? = some c ∧ isDecimal c = true

instance (text : List Char) (i : Nat) : Decidable (IsJoint text i) :=
  decidable_of_iff (text[i]?.any isDecimal = true ∧ text[i + 1]? = some '.' ∧
    text[i + 2]?.any isDecimal = true) (by simp only [IsJoint, Option.any_eq_true])

/-- Runs of digits with dots between them. -/
def dotted (runs : List (List Char)) : List Char := ['.'].intercalate runs

/-- What cannot go on with a dotted number: neither a digit nor a dot and a digit come first. -/
structure StandsBehind (after : List Char) : Prop where
  digit : ∀ c rest, after = c :: rest → isDecimal c = false
  point : ∀ c rest, after = '.' :: c :: rest → isDecimal c = false

/-- What has no part in a dotted number behind it: it has no joint, and read backwards it cannot go
on with a number. -/
structure StandsBefore (before : List Char) : Prop where
  joint : ∀ i, ¬IsJoint before i
  ends : StandsBehind before.reverse

variable {text before after rest first : List Char} {runs : List (List Char)} {c d : Char} {i : Nat}

section Joints

theorem isJoint_zero : IsJoint (c :: text) 0 ↔
    isDecimal c = true ∧ ∃ d rest, text = '.' :: d :: rest ∧ isDecimal d = true := by
  cases text with
  | nil => simp [IsJoint]
  | cons d text =>
      cases text with
      | nil => simp [IsJoint]
      | cons e rest => simp [IsJoint]

theorem isJoint_succ : IsJoint (c :: text) (i + 1) ↔ IsJoint text i := Iff.rfl

theorem IsJoint.append (h : IsJoint text i) (rest : List Char) : IsJoint (text ++ rest) i := by
  have hkept {j : Nat} {c : Char} (hc : text[j]? = some c) : (text ++ rest)[j]? = some c := by
    rw [List.getElem?_append_left (List.getElem?_eq_some_iff.1 hc).1, hc]
  obtain ⟨⟨c, hc, hdecimal⟩, hpoint, d, hd, hdecimal'⟩ := h
  exact ⟨⟨c, hkept hc, hdecimal⟩, hkept hpoint, d, hkept hd, hdecimal'⟩

theorem IsJoint.lt_length (h : IsJoint text i) : i + 2 < text.length := by
  obtain ⟨-, -, d, hd, -⟩ := h
  exact (List.getElem?_eq_some_iff.1 hd).1

theorem isJoint_at (hc : isDecimal c = true) (hd : isDecimal d = true) (front rest : List Char) :
    IsJoint (front ++ c :: '.' :: d :: rest) front.length := by
  refine ⟨⟨c, by simp, hc⟩, ?_, d, ?_, hd⟩
  · rw [List.getElem?_append_right (by omega), Nat.add_sub_cancel_left]
    rfl
  · rw [List.getElem?_append_right (by omega), Nat.add_sub_cancel_left]
    rfl

end Joints

theorem standsBehind_nil : StandsBehind [] := ⟨nofun, nofun⟩

theorem standsBefore_nil : StandsBefore [] :=
  ⟨fun _ h => absurd h.lt_length (Nat.not_lt_zero _), standsBehind_nil⟩

section Marks

/-- A character that is part of no number. -/
def IsMark (c : Char) : Prop := isDecimal c = false ∧ c ≠ '.'

instance (c : Char) : Decidable (IsMark c) :=
  inferInstanceAs (Decidable (isDecimal c = false ∧ c ≠ '.'))

theorem isMark_of_isBlank (h : isBlank c = true) : IsMark c := by
  refine ⟨isDecimal_of_isBlank h, ?_⟩
  rintro rfl
  exact absurd h (by decide)

theorem not_isJoint_of_not_mem (h : '.' ∉ text) (i : Nat) : ¬IsJoint text i :=
  fun hjoint => h (List.mem_of_getElem? hjoint.2.1)

/-- A joint stands in front of a mark or behind it. -/
theorem not_isJoint_append_mark (hbefore : ∀ i, ¬IsJoint before i) (hafter : ∀ i, ¬IsJoint after i)
    (hc : IsMark c) : ∀ i, ¬IsJoint (before ++ c :: after) i := by
  induction before with
  | nil =>
      rintro (_ | i) hjoint
      · rw [List.nil_append, isJoint_zero, hc.1] at hjoint
        cases hjoint.1
      · exact hafter i hjoint
  | cons d before ih =>
      rintro (_ | i) hjoint
      · obtain ⟨hd, e, rest, heq, he⟩ := isJoint_zero.1 hjoint
        match before, heq with
        | [], heq => exact hc.2 (List.cons.inj heq).1
        | [x], heq =>
            obtain ⟨-, heq⟩ := List.cons.inj heq
            obtain rfl := (List.cons.inj heq).1
            rw [hc.1] at he
            cases he
        | x :: y :: before, heq =>
            obtain ⟨hx, heq⟩ := List.cons.inj heq
            obtain rfl := (List.cons.inj heq).1
            exact hbefore 0 (isJoint_zero.2 ⟨hd, y, before, by rw [hx], he⟩)
      · exact ih (fun i => hbefore (i + 1)) i hjoint

theorem StandsBehind.of_isMark (hc : IsMark c) (rest : List Char) : StandsBehind (c :: rest) := by
  refine ⟨?_, ?_⟩
  · rintro d more ⟨⟩
    exact hc.1
  · rintro d more ⟨⟩
    exact absurd rfl hc.2

theorem StandsBehind.append_mark (h : StandsBehind after) (hc : IsMark c) (rest : List Char) :
    StandsBehind (after ++ c :: rest) := by
  match after, h with
  | [], _ => exact .of_isMark hc rest
  | [d], h =>
      refine ⟨?_, ?_⟩
      · rintro e more ⟨⟩
        exact h.digit d [] rfl
      · rintro e more ⟨⟩
        exact hc.1
  | d :: e :: after, h =>
      refine ⟨?_, ?_⟩
      · rintro f more ⟨⟩
        exact h.digit d _ rfl
      · rintro f more ⟨⟩
        exact h.point e _ rfl

/-- A mark keeps what is in front of it away from the numbers behind it. -/
theorem StandsBefore.append_mark (h : StandsBefore text) (hbefore : ∀ i, ¬IsJoint before i)
    (hc : IsMark c) : StandsBefore (before ++ c :: text) := by
  refine ⟨not_isJoint_append_mark hbefore h.joint hc, ?_⟩
  rw [List.reverse_append, List.reverse_cons, List.append_assoc, List.singleton_append]
  exact h.ends.append_mark hc _

end Marks

section Runs

theorem dotted_cons (first : List Char) (h : runs ≠ []) :
    dotted (first :: runs) = first ++ '.' :: dotted runs := by
  rw [dotted, List.intercalate_cons_of_ne_nil h, List.append_assoc, List.singleton_append, ← dotted]

theorem dotted_singleton (run : List Char) : dotted [run] = run := List.intercalate_singleton

/-- A number with more runs goes on behind its first one. -/
theorem exists_dotted (h : ∀ run ∈ runs, IsNumeral run) (hne : runs ≠ []) :
    ∃ c rest, dotted runs = c :: rest ∧ isDecimal c = true := by
  cases runs with
  | nil => exact absurd rfl hne
  | cons first runs =>
      obtain ⟨hfirst, hdigits⟩ := h first List.mem_cons_self
      obtain ⟨c, rest, rfl⟩ := List.exists_cons_of_ne_nil hfirst
      have hc := hdigits c List.mem_cons_self
      by_cases hlast : runs = []
      · exact ⟨c, rest, by rw [hlast, dotted_singleton], hc⟩
      · exact ⟨c, _, dotted_cons _ hlast, hc⟩

theorem takeWhile_digits (hdigits : ∀ c ∈ first, isDecimal c = true)
    (hrest : ∀ c ∈ rest.head?, isDecimal c = false) :
    (first ++ rest).takeWhile isDecimal = first ∧ (first ++ rest).dropWhile isDecimal = rest := by
  rw [List.takeWhile_append_of_pos hdigits, List.dropWhile_append_of_pos hdigits]
  cases rest with
  | nil => simp
  | cons c rest =>
      have hc := hrest c rfl
      rw [List.takeWhile_cons_of_neg (by simp [hc]), List.dropWhile_cons_of_neg (by simp [hc])]
      simp

theorem head?_dropWhile_digits (text : List Char) :
    ∀ c ∈ (text.dropWhile isDecimal).head?, isDecimal c = false := by
  intro c hc
  have hhead := List.head?_dropWhile_not isDecimal text
  rw [hc] at hhead
  simpa using hhead

theorem StandsBehind.head? (h : StandsBehind after) :
    ∀ c ∈ after.head?, isDecimal c = false := by
  intro c hc
  obtain ⟨rest, rfl⟩ := List.head?_eq_some_iff.1 hc
  exact h.digit c rest rfl

/-- Digits, a dot and a digit: the number goes on. -/
theorem runs_of_point (hdigits : ∀ c ∈ first, isDecimal c = true) (hc : isDecimal c = true) :
    Version.runs (first ++ '.' :: c :: rest) = first :: Version.runs (c :: rest) := by
  have hpoint : ∀ d ∈ ('.' :: c :: rest).head?, isDecimal d = false := by
    rintro d ⟨⟩
    decide
  obtain ⟨htake, hdrop⟩ := takeWhile_digits hdigits hpoint
  rw [Version.runs]
  split
  · rename_i heq
    cases hdrop.symm.trans heq
    rw [htake, if_pos hc]
  · rename_i hother
    exact absurd hdrop (hother c rest)

/-- Digits and what cannot go on with them. -/
theorem runs_of_standsBehind (hdigits : ∀ c ∈ first, isDecimal c = true) (h : StandsBehind after) :
    Version.runs (first ++ after) = [first] := by
  obtain ⟨htake, hdrop⟩ := takeWhile_digits hdigits h.head?
  rw [Version.runs]
  split
  · rename_i c rest heq
    have hc := h.point c rest (hdrop.symm.trans heq)
    rw [htake, if_neg (by simp [hc])]
  · rw [htake]

/-- The runs of a number are read back from it. -/
theorem runs_dotted (h : ∀ run ∈ runs, IsNumeral run) (hne : runs ≠ [])
    (hafter : StandsBehind after) :
    Version.runs (dotted runs ++ after) = runs := by
  induction runs with
  | nil => exact absurd rfl hne
  | cons first runs ih =>
      have hfirst := (h first List.mem_cons_self).2
      have hruns : ∀ run ∈ runs, IsNumeral run := fun run hrun => h run (.tail _ hrun)
      by_cases hlast : runs = []
      · rw [hlast, dotted_singleton, runs_of_standsBehind hfirst hafter]
      · obtain ⟨c, rest, hrest, hc⟩ := exists_dotted hruns hlast
        rw [dotted_cons _ hlast, List.append_assoc, List.cons_append, hrest, List.cons_append,
          runs_of_point hfirst hc, ← List.cons_append, ← hrest, ih hruns hlast]

theorem isNumeral_takeWhile (hc : isDecimal c = true) (text : List Char) :
    IsNumeral ((c :: text).takeWhile isDecimal) := by
  refine ⟨?_, fun d hd => List.mem_takeWhile_imp hd⟩
  rw [List.takeWhile_cons_of_pos hc]
  exact List.cons_ne_nil _ _

/-- A text that begins with a digit begins with a number that nothing goes on with. -/
theorem exists_dotted_prefix (text : List Char) (h : ∃ c ∈ text.head?, isDecimal c = true) :
    ∃ runs after, text = dotted runs ++ after ∧ runs ≠ [] ∧ (∀ run ∈ runs, IsNumeral run) ∧
      StandsBehind after := by
  have hsplit (text : List Char) := List.takeWhile_append_dropWhile (p := isDecimal) (l := text)
  have hfirst {text : List Char} (h : ∃ c ∈ text.head?, isDecimal c = true) :
      IsNumeral (text.takeWhile isDecimal) := by
    obtain ⟨c, hc, hdecimal⟩ := h
    obtain ⟨rest, rfl⟩ := List.head?_eq_some_iff.1 hc
    exact isNumeral_takeWhile hdecimal rest
  fun_induction Version.runs text with
  | case1 text c rest hdrop ih =>
      have hnumeral := hfirst h
      by_cases hc : isDecimal c = true
      · obtain ⟨runs, after, heq, hne, hruns, hafter⟩ := ih ⟨c, rfl, hc⟩
        refine ⟨text.takeWhile isDecimal :: runs, after, ?_, List.cons_ne_nil _ _,
          List.forall_mem_cons.2 ⟨hnumeral, hruns⟩, hafter⟩
        rw [dotted_cons _ hne, List.append_assoc, List.cons_append, ← heq, ← hdrop, hsplit]
      · refine ⟨[text.takeWhile isDecimal], '.' :: c :: rest, ?_, List.cons_ne_nil _ _,
          List.forall_mem_singleton.2 hnumeral, ?_, ?_⟩
        · rw [dotted_singleton, ← hdrop, hsplit]
        · rintro d more ⟨⟩
          decide
        · rintro d more ⟨⟩
          simpa using hc
  | case2 text hother =>
      refine ⟨[text.takeWhile isDecimal], text.dropWhile isDecimal, ?_, List.cons_ne_nil _ _,
        List.forall_mem_singleton.2 (hfirst h), fun c rest heq => ?_,
        fun c rest heq => absurd heq (hother c rest)⟩
      · rw [dotted_singleton, hsplit]
      · exact head?_dropWhile_digits text c (by rw [heq]; rfl)

end Runs

section Searching

theorem IsJoint.behind (h : IsJoint text i) (front : List Char) :
    IsJoint (front ++ text) (front.length + i) := by
  have hkept {j : Nat} : (front ++ text)[front.length + j]? = text[j]? := by
    rw [List.getElem?_append_right (Nat.le_add_right _ _), Nat.add_sub_cancel_left]
  simpa only [IsJoint, Nat.add_assoc, hkept] using h

theorem StandsBehind.of_append (h : StandsBehind (after ++ rest)) : StandsBehind after where
  digit c more heq := h.digit c (more ++ rest) (by rw [heq, List.cons_append])
  point c more heq := h.point c (more ++ rest) (by rw [heq, List.cons_append, List.cons_append])

theorem StandsBefore.of_append {front : List Char} (h : StandsBefore (front ++ before)) :
    StandsBefore before where
  joint _ hi := h.joint _ (hi.behind front)
  ends := .of_append (List.reverse_append ▸ h.ends)

/-- Between the first two runs of a number is a joint. -/
theorem isJoint_dotted {second : List Char} (hfirst : isDecimal c = true)
    (hruns : ∀ run ∈ second :: runs, IsNumeral run) (before front after : List Char) :
    IsJoint (before ++ dotted ((front ++ [c]) :: second :: runs) ++ after)
      (before ++ front).length := by
  obtain ⟨d, rest, hrest, hd⟩ := exists_dotted hruns (List.cons_ne_nil _ _)
  rw [dotted_cons _ (List.cons_ne_nil _ _), hrest]
  simpa only [List.append_assoc, List.cons_append, List.nil_append] using
    isJoint_at hfirst hd (before ++ front) (rest ++ after)

/-- What begins with a digit and has only one run has no number at its front. -/
theorem firstRuns?_append (hfirst : IsNumeral first) (h : StandsBehind after) :
    firstRuns? (first ++ after) = firstRuns? after := by
  obtain ⟨hne, hdigits⟩ := hfirst
  obtain ⟨c, rest, rfl⟩ := List.exists_cons_of_ne_nil hne
  have hrest : ∀ d ∈ rest, isDecimal d = true := fun d hd => hdigits d (.tail _ hd)
  have hruns := runs_of_standsBehind hdigits h
  rw [List.cons_append] at hruns ⊢
  rw [firstRuns?, if_pos (hdigits c List.mem_cons_self), hruns]
  exact congrArg firstRuns? (takeWhile_digits hrest h.head?).2

theorem firstRuns?_cons (hc : isDecimal c = false) : firstRuns? (c :: text) = firstRuns? text := by
  rw [firstRuns?, if_neg (by simp [hc])]

theorem firstRuns?_dotted (hruns : ∀ run ∈ runs, IsNumeral run) (htwo : 2 ≤ runs.length)
    (hafter : StandsBehind after) : firstRuns? (dotted runs ++ after) = some runs := by
  have hne : runs ≠ [] := List.ne_nil_of_length_pos (by omega)
  have hread := runs_dotted hruns hne hafter
  obtain ⟨c, rest, hrest, hc⟩ := exists_dotted hruns hne
  rw [hrest, List.cons_append] at hread ⊢
  rw [firstRuns?, if_pos hc, hread]
  obtain ⟨first, others, rfl⟩ := List.exists_cons_of_ne_nil hne
  obtain ⟨second, others, rfl⟩ :=
    List.exists_cons_of_length_pos (show 0 < others.length from Nat.le_of_succ_le_succ htwo)
  rfl

/-- A run of digits in what stands before a number is a run of its own. -/
theorem StandsBefore.standsBehind (h : StandsBefore (first ++ rest)) (hfirst : IsNumeral first)
    (hrest : ∀ c ∈ rest.head?, isDecimal c = false) (number : List Char) :
    StandsBehind (rest ++ number) := by
  obtain ⟨front, c, rfl, hc⟩ := hfirst.exists_last
  cases rest with
  | nil =>
      have hlast := h.ends.digit c front.reverse (by simp)
      rw [hc] at hlast
      cases hlast
  | cons d rest =>
      refine ⟨?_, fun e more heq => ?_⟩
      · rintro e more ⟨⟩
        exact hrest d rfl
      · obtain ⟨rfl, hmore⟩ := List.cons.inj heq
        cases rest with
        | nil =>
            have hlast := h.ends.point c front.reverse (by simp)
            rw [hc] at hlast
            cases hlast
        | cons e' rest =>
            obtain ⟨rfl, -⟩ := List.cons.inj hmore
            have hnone := h.joint front.length
            rw [List.append_assoc, List.singleton_append] at hnone
            simpa using mt (isJoint_at hc · front rest) hnone

/-- The first number of a text is the one that no joint stands before. -/
theorem firstRuns?_eq_some (hbefore : StandsBefore before) (hruns : ∀ run ∈ runs, IsNumeral run)
    (htwo : 2 ≤ runs.length) (hafter : StandsBehind after) :
    firstRuns? (before ++ (dotted runs ++ after)) = some runs := by
  induction hlength : before.length using Nat.strongRecOn generalizing before with
  | ind n ih =>
      cases before with
      | nil => exact firstRuns?_dotted hruns htwo hafter
      | cons c rest =>
          by_cases hc : isDecimal c = true
          · -- The run of digits at the front is left out as a whole.
            have hsplit := List.takeWhile_append_dropWhile (p := isDecimal) (l := c :: rest)
            have hnumeral := isNumeral_takeWhile hc rest
            have hhead := head?_dropWhile_digits (c :: rest)
            rw [← hsplit] at hbefore ⊢
            have hlt : ((c :: rest).dropWhile isDecimal).length < n := by
              have hsum := congrArg List.length hsplit
              have hpos := List.length_pos_iff.2 hnumeral.1
              rw [List.length_append, hlength] at hsum
              omega
            rw [List.append_assoc,
              firstRuns?_append hnumeral (hbefore.standsBehind hnumeral hhead _)]
            exact ih _ hlt hbefore.of_append rfl
          · rw [List.cons_append, firstRuns?_cons (by simpa using hc)]
            have hrest : StandsBefore ([c] ++ rest) := hbefore
            exact ih _ (by simp [← hlength]) hrest.of_append rfl

/-- Without a joint there is no number. -/
theorem firstRuns?_eq_none (h : ∀ i, ¬IsJoint text i) : firstRuns? text = none := by
  fun_induction firstRuns? text with
  | case1 => rfl
  | case2 c rest hc first second others hread =>
      obtain ⟨runs, after, heq, hne, hruns, hafter⟩ := exists_dotted_prefix (c :: rest) ⟨c, rfl, hc⟩
      rw [heq, runs_dotted hruns hne hafter] at hread
      subst hread
      obtain ⟨front, d, rfl, hd⟩ := (hruns first List.mem_cons_self).exists_last
      have hjoint := isJoint_dotted hd (fun run hrun => hruns run (.tail _ hrun)) [] front after
      rw [List.nil_append, ← heq] at hjoint
      exact absurd hjoint (h _)
  | case3 c rest hc _ ih =>
      refine ih fun i hi => h ((c :: rest.takeWhile isDecimal).length + i) ?_
      have hjoint := hi.behind (c :: rest.takeWhile isDecimal)
      rwa [List.cons_append, List.takeWhile_append_dropWhile] at hjoint
  | case4 c rest hc ih => exact ih fun i => h (i + 1)

end Searching

section Leftmost

theorem exists_of_isJoint (h : IsJoint text i) : ∃ front c d rest,
    text = front ++ c :: '.' :: d :: rest ∧ front.length = i ∧ isDecimal c = true ∧
      isDecimal d = true := by
  induction text generalizing i with
  | nil => exact absurd h.lt_length (Nat.not_lt_zero _)
  | cons c text ih =>
      cases i with
      | zero =>
          obtain ⟨hc, d, rest, rfl, hd⟩ := isJoint_zero.1 h
          exact ⟨[], c, d, rest, rfl, rfl, hc, hd⟩
      | succ i =>
          obtain ⟨front, e, d, rest, rfl, rfl, he, hd⟩ := ih (isJoint_succ.1 h)
          exact ⟨c :: front, e, d, rest, rfl, rfl, he, hd⟩

/-- The run of digits at the end of a text. -/
theorem exists_trailing_digits (text : List Char) : ∃ before digits, text = before ++ digits ∧
    (∀ c ∈ digits, isDecimal c = true) ∧ ∀ c ∈ before.reverse.head?, isDecimal c = false := by
  have hsplit := List.takeWhile_append_dropWhile (p := isDecimal) (l := text.reverse)
  refine ⟨(text.reverse.dropWhile isDecimal).reverse, (text.reverse.takeWhile isDecimal).reverse,
    ?_, fun c hc => List.mem_takeWhile_imp (List.mem_reverse.1 hc), fun c hc => ?_⟩
  · rw [← List.reverse_append, hsplit, List.reverse_reverse]
  · rw [List.reverse_reverse] at hc
    exact head?_dropWhile_digits text.reverse c hc

/-- In front of the run of digits with the first joint, nothing has a part in its number. -/
theorem standsBefore_of_least {digits : List Char} (hdigits : IsNumeral (digits ++ [c]))
    (hends : ∀ d ∈ before.reverse.head?, isDecimal d = false)
    (hleast : ∀ j < (before ++ digits).length, ¬IsJoint (before ++ digits ++ c :: rest) j) :
    StandsBefore before where
  joint j hj := by
    have hlt := hj.lt_length
    exact hleast j (by rw [List.length_append]; omega) ((hj.append _).append _)
  ends := by
    refine ⟨fun d more heq => hends d (by rw [heq]; rfl), fun d more heq => ?_⟩
    -- A digit and a dot at the end would make a joint with the run.
    by_contra hd
    obtain rfl := List.reverse_eq_iff.1 heq
    obtain ⟨e, run, he⟩ := List.exists_cons_of_ne_nil hdigits.1
    have hjoint := isJoint_at (by simpa using hd) (hdigits.2 e (by simp [he])) more.reverse
      (run ++ rest)
    refine hleast more.reverse.length (by simp) ?_
    have htext : ('.' :: d :: more).reverse ++ digits ++ c :: rest =
        more.reverse ++ d :: '.' :: (digits ++ [c]) ++ rest := by simp
    rw [htext, he]
    simpa using hjoint

/-- The number with the first joint of a text: its first run is the one that holds the joint. -/
theorem exists_first_number (hjoint : IsJoint text i) (hleast : ∀ j < i, ¬IsJoint text j) :
    ∃ before first others after, text = before ++ (dotted (first :: others) ++ after) ∧
      (before ++ first).length = i + 1 ∧ (∀ run ∈ first :: others, IsNumeral run) ∧
      others ≠ [] ∧ StandsBefore before ∧ StandsBehind after := by
  obtain ⟨front, c, d, rest, rfl, rfl, hc, hd⟩ := exists_of_isJoint hjoint
  obtain ⟨before, digits, rfl, hdigits, hends⟩ := exists_trailing_digits front
  obtain ⟨others, after, hothers, hne, hruns, hafter⟩ :=
    exists_dotted_prefix (d :: rest) ⟨d, rfl, hd⟩
  have hnumeral : IsNumeral (digits ++ [c]) := by
    refine ⟨by simp, fun e he => ?_⟩
    rcases List.mem_append.1 he with he | he
    · exact hdigits e he
    · rwa [List.mem_singleton.1 he]
  refine ⟨before, digits ++ [c], others, after, ?_, by simp; omega,
    List.forall_mem_cons.2 ⟨hnumeral, hruns⟩, hne, standsBefore_of_least hnumeral hends hleast,
    hafter⟩
  rw [dotted_cons _ hne, hothers]
  simp

end Leftmost

end ArtifactSigning.Version
