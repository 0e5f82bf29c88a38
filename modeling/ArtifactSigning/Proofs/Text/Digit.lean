import ArtifactSigning.Power
import ArtifactSigning.Text.Blank
import ArtifactSigning.Text.Digit
import Mathlib.Data.Nat.Digits.Defs

/-!
# Numerals

A numeral is a run of decimal digits, of any scripts. It spells a number in base ten, and this is
the number that is read from it if it is not too long (`readDecimal?_eq_some_iff`). Every number is
read back from the digits that it is printed with.
-/
namespace ArtifactSigning.Text

/-- The value of a digit. -/
def digitValue (c : Char) : Nat := (decimalValue? c).getD 0

/-- The number that digits spell in base ten, the most significant one first. -/
def numberOf (digits : List Char) : Nat := Nat.ofDigits 10 (digits.map digitValue).reverse

/-- A text of decimal digits, at least one. -/
def IsNumeral (text : List Char) : Prop := text ≠ [] ∧ ∀ c ∈ text, isDecimal c = true

variable {c : Char} {text : List Char} {n : Nat}

section Digits

theorem decimalValue?_eq_some_iff {value : Nat} :
    decimalValue? c = some value ↔ isDecimal c = true ∧ digitValue c = value := by
  rw [isDecimal, digitValue]
  cases decimalValue? c <;> simp

theorem decimalValue?_eq_none_iff : decimalValue? c = none ↔ isDecimal c = false := by
  rw [isDecimal]
  cases decimalValue? c <;> simp

theorem toNat_of_isDigit (h : c.isDigit = true) : 48 ≤ c.toNat ∧ c.toNat ≤ 57 :=
  Char.isDigit_iff_toNat.1 h

theorem decimalValue?_of_isDigit (h : c.isDigit = true) :
    decimalValue? c = some (c.toNat - '0'.toNat) := by
  have hrange := toNat_of_isDigit h
  rw [decimalValue?, if_pos (by omega), if_pos h]

/-- Of the characters of ASCII, the ten digits are decimal. -/
theorem isDecimal_of_ascii (h : c.toNat < 0x80) : isDecimal c = c.isDigit := by
  rw [isDecimal, decimalValue?, if_pos h]
  cases c.isDigit <;> rfl

theorem digitValue_lt (c : Char) : digitValue c < 10 := by
  unfold digitValue decimalValue?
  split
  · split
    · rename_i hdigit
      have hrange := toNat_of_isDigit hdigit
      change c.toNat - 48 < 10
      omega
    · decide
  · cases hfind : decimalZeros.find? fun first => first ≤ c.toNat && c.toNat < first + 10 with
    | none => exact Nat.zero_lt_succ _
    | some first =>
        have hblock := List.find?_some hfind
        simp only [Bool.and_eq_true, decide_eq_true_eq] at hblock
        change c.toNat - first < 10
        omega

/-- No blank is a digit. -/
theorem isDecimal_of_isBlank (h : isBlank c = true) : isDecimal c = false := by
  simp only [isBlank, Bool.or_eq_true, Bool.and_eq_true, decide_eq_true_eq, beq_iff_eq] at h
  by_cases hascii : c.toNat < 0x80
  · rw [isDecimal_of_ascii hascii, Bool.eq_false_iff]
    intro hdigit
    have hrange := toNat_of_isDigit hdigit
    omega
  · have hwide : c.toNat ∈ [0x85, 0xA0, 0x1680, 0x2000, 0x2001, 0x2002, 0x2003, 0x2004, 0x2005,
        0x2006, 0x2007, 0x2008, 0x2009, 0x200A, 0x2028, 0x2029, 0x202F, 0x205F, 0x3000] := by
      simp only [List.mem_cons, List.not_mem_nil, or_false]
      omega
    have hall : ∀ n ∈ [0x85, 0xA0, 0x1680, 0x2000, 0x2001, 0x2002, 0x2003, 0x2004, 0x2005,
        0x2006, 0x2007, 0x2008, 0x2009, 0x200A, 0x2028, 0x2029, 0x202F, 0x205F, 0x3000],
        decimalZeros.find? (fun first => first ≤ n && n < first + 10) = none := by decide
    rw [← decimalValue?_eq_none_iff, decimalValue?, if_neg hascii, hall _ hwide, Option.map_none]

theorem IsNumeral.exists_last (h : IsNumeral text) :
    ∃ front c, text = front ++ [c] ∧ isDecimal c = true := by
  obtain ⟨hne, hdigits⟩ := h
  exact ⟨text.dropLast, text.getLast hne, (List.dropLast_concat_getLast hne).symm,
    hdigits _ (List.getLast_mem hne)⟩

theorem IsNumeral.all_isDigitLike (h : IsNumeral text) : text.all isDigitLike = true := by
  refine List.all_eq_true.2 fun c hc => ?_
  rw [isDigitLike, h.2 c hc, Bool.true_or]

end Digits

section Reading

theorem numberOf_cons (c : Char) (text : List Char) :
    numberOf (c :: text) = digitValue c * 10 ^ text.length + numberOf text := by
  rw [numberOf, List.map_cons, Nat.ofDigits_reverse_cons, List.length_map, ← numberOf,
    Nat.mul_comm, Nat.add_comm]

/-- A numeral spells a number of at most as many digits. -/
theorem numberOf_lt (text : List Char) : numberOf text < 10 ^ text.length := by
  have hlength : (text.map digitValue).reverse.length = text.length := by simp
  rw [numberOf, ← hlength]
  refine Nat.ofDigits_lt_base_pow_length (by decide) fun d hd => ?_
  obtain ⟨c, -, rfl⟩ := List.mem_map.1 (List.mem_reverse.1 hd)
  exact digitValue_lt c

/-- What the reader does with a character. -/
def readDigit (n? : Option Nat) (c : Char) : Option Nat := do
  let n ← n?
  let d ← decimalValue? c
  return n * 10 + d

theorem readDecimal?_eq (text : List Char) : readDecimal? text =
    if text = [] ∨ maxDigits < text.length then none else text.foldl readDigit (some 0) := rfl

theorem foldl_readDigit_none (text : List Char) : text.foldl readDigit none = none := by
  induction text with
  | nil => rfl
  | cons c text ih => exact ih

theorem foldl_readDigit_of_decimal (h : ∀ c ∈ text, isDecimal c = true) (n : Nat) :
    text.foldl readDigit (some n) = some (n * 10 ^ text.length + numberOf text) := by
  induction text generalizing n with
  | nil => simp [numberOf]
  | cons c text ih =>
      have hvalue : decimalValue? c = some (digitValue c) :=
        decimalValue?_eq_some_iff.2 ⟨h c List.mem_cons_self, rfl⟩
      have hstep : readDigit (some n) c = some (n * 10 + digitValue c) := by
        rw [readDigit, hvalue]
        rfl
      rw [List.foldl_cons, hstep, ih fun d hd => h d (.tail _ hd), numberOf_cons,
        List.length_cons, Nat.pow_succ]
      congr 1
      ring

theorem foldl_readDigit_eq_none (h : ∃ c ∈ text, isDecimal c = false) (n? : Option Nat) :
    text.foldl readDigit n? = none := by
  induction text generalizing n? with
  | nil =>
      obtain ⟨c, hc, -⟩ := h
      cases hc
  | cons c text ih =>
      obtain ⟨d, hd, hdecimal⟩ := h
      rw [List.foldl_cons]
      rcases List.mem_cons.1 hd with rfl | hd
      · have hstep : readDigit n? d = none := by
          cases n? with
          | none => rfl
          | some n =>
              rw [readDigit, decimalValue?_eq_none_iff.2 hdecimal]
              rfl
        rw [hstep, foldl_readDigit_none]
      · exact ih ⟨d, hd, hdecimal⟩ _

/-- A number is read from the numerals that are not too long. -/
theorem readDecimal?_eq_some_iff : readDecimal? text = some n ↔
    IsNumeral text ∧ text.length ≤ maxDigits ∧ numberOf text = n := by
  rw [readDecimal?_eq]
  by_cases hempty : text = []
  · rw [if_pos (.inl hempty)]
    exact ⟨nofun, fun h => absurd hempty h.1.1⟩
  by_cases hlong : maxDigits < text.length
  · rw [if_pos (.inr hlong)]
    exact ⟨nofun, fun h => absurd h.2.1 (by omega)⟩
  rw [if_neg (by simp [hempty, hlong])]
  by_cases hdigits : ∀ c ∈ text, isDecimal c = true
  · rw [foldl_readDigit_of_decimal hdigits, Nat.zero_mul, Nat.zero_add, Option.some.injEq]
    exact ⟨fun h => ⟨⟨hempty, hdigits⟩, by omega, h⟩, fun h => h.2.2⟩
  · have hother : ∃ c ∈ text, isDecimal c = false := by simpa using hdigits
    rw [foldl_readDigit_eq_none hother]
    exact ⟨nofun, fun h => absurd h.1.2 hdigits⟩

/-- Where none is read, the numeral is too long if there is one. -/
theorem readDecimal?_eq_none_iff :
    readDecimal? text = none ↔ (IsNumeral text → maxDigits < text.length) := by
  rw [Option.eq_none_iff_forall_ne_some]
  constructor
  · intro h hnumeral
    by_contra hlength
    exact h _ (readDecimal?_eq_some_iff.2 ⟨hnumeral, by omega, rfl⟩)
  · intro h n hread
    obtain ⟨hnumeral, hlength, -⟩ := readDecimal?_eq_some_iff.1 hread
    exact absurd (h hnumeral) (by omega)

theorem readDecimal?_of_isNumeral (h : IsNumeral text) : readDecimal? text =
    if text.length ≤ maxDigits then some (numberOf text) else none := by
  split
  · rename_i hlength
    exact readDecimal?_eq_some_iff.2 ⟨h, hlength, rfl⟩
  · rename_i hlong
    exact if_pos (.inr (by omega))

end Reading

section Printing

theorem isNumeral_toDigits (n : Nat) : IsNumeral (Nat.toDigits 10 n) := by
  refine ⟨Nat.toDigits_ne_nil, fun c hc => ?_⟩
  have hdigit := Nat.isDigit_of_mem_toDigits (by decide) (by decide) hc
  have hrange := toNat_of_isDigit hdigit
  rw [isDecimal_of_ascii (by omega), hdigit]

theorem numberOf_of_isDigit (h : ∀ c ∈ text, c.isDigit = true) :
    numberOf text = Nat.ofDigitChars 10 text 0 := by
  induction text with
  | nil => rfl
  | cons c text ih =>
      have hvalue : digitValue c = c.toNat - '0'.toNat := by
        rw [digitValue, decimalValue?_of_isDigit (h c List.mem_cons_self), Option.getD_some]
      rw [Nat.ofDigitChars_cons, Nat.ofDigitChars_eq_ofDigitChars_zero, Nat.mul_zero, Nat.zero_add,
        numberOf_cons, ih fun d hd => h d (.tail _ hd), hvalue, Nat.mul_comm]

/-- A number is spelled by the digits that it is printed with. -/
theorem numberOf_toDigits (n : Nat) : numberOf (Nat.toDigits 10 n) = n := by
  have hdigits : ∀ c ∈ Nat.toDigits 10 n, c.isDigit = true :=
    fun c hc => Nat.isDigit_of_mem_toDigits (by decide) (by decide) hc
  rw [numberOf_of_isDigit hdigits, Nat.ofDigitChars_ten_toDigits]

end Printing

end ArtifactSigning.Text
