import ArtifactSigning.Bytes

/-!
# Radix-64 text

Three octets become four characters of a 64-letter alphabet; a last group of one or two octets is
completed with the padding mark. `decode?` accepts the alphabet only, and padding only after the
data; `decode?_encode` says that it undoes `encode`. Unused low bits of the last character may have
any value.
-/
namespace ArtifactSigning.Text.Radix64

/-- The character of a number below 64. -/
def letter (n : Nat) : Char :=
  if n < 26 then Char.ofNat ('A'.toNat + n)
  else if n < 52 then Char.ofNat ('a'.toNat + (n - 26))
  else if n < 62 then Char.ofNat ('0'.toNat + (n - 52))
  else if n = 62 then '+'
  else '/'

/-- The number of a character of the alphabet. -/
def value? (c : Char) : Option Nat :=
  if 'A' ≤ c ∧ c ≤ 'Z' then some (c.toNat - 'A'.toNat)
  else if 'a' ≤ c ∧ c ≤ 'z' then some (c.toNat - 'a'.toNat + 26)
  else if '0' ≤ c ∧ c ≤ '9' then some (c.toNat - '0'.toNat + 52)
  else if c = '+' then some 62
  else if c = '/' then some 63
  else none

/-- The radix-64 text of some octets. -/
def encode : Bytes → List Char
  | [] => []
  | [a] => [letter (a.toNat / 4), letter (a.toNat % 4 * 16), '=', '=']
  | [a, b] =>
      [letter (a.toNat / 4), letter (a.toNat % 4 * 16 + b.toNat / 16),
        letter (b.toNat % 16 * 4), '=']
  | a :: b :: c :: rest =>
      letter (a.toNat / 4) :: letter (a.toNat % 4 * 16 + b.toNat / 16) ::
        letter (b.toNat % 16 * 4 + c.toNat / 64) :: letter (c.toNat % 64) :: encode rest

/-- The octets in the data characters, which end at the end of a group or in one of two or three
characters. -/
def decodeData : List Char → Option Bytes
  | [] => some []
  | [p, q] => do
      let p ← value? p
      let q ← value? q
      return [UInt8.ofNat (p * 4 + q / 16)]
  | [p, q, r] => do
      let p ← value? p
      let q ← value? q
      let r ← value? r
      return [UInt8.ofNat (p * 4 + q / 16), UInt8.ofNat (q % 16 * 16 + r / 4)]
  | p :: q :: r :: s :: rest => do
      let p ← value? p
      let q ← value? q
      let r ← value? r
      let s ← value? s
      let bytes ← decodeData rest
      return UInt8.ofNat (p * 4 + q / 16) :: UInt8.ofNat (q % 16 * 16 + r / 4) ::
        UInt8.ofNat (r % 4 * 64 + s) :: bytes
  | [_] => none

/-- The octets of a radix-64 text. After a complete group any number of padding marks may follow,
but a text never begins with one; an incomplete group is followed by the marks it lacks. -/
def decode? (text : List Char) : Option Bytes :=
  let data := text.takeWhile (· ≠ '=')
  let padding := text.dropWhile (· ≠ '=')
  if padding.all (· = '=') ∧
      (if data.length % 4 = 0 then data ≠ [] ∨ padding = []
        else data.length % 4 + padding.length = 4) then
    decodeData data
  else none

theorem value?_letter : ∀ n < 64, value? (letter n) = some n := by decide

theorem letter_ne_pad : ∀ n < 64, letter n ≠ '=' := by decide

theorem first_octet (a : UInt8) (n : Nat) (h : n < 16) :
    UInt8.ofNat (a.toNat / 4 * 4 + (a.toNat % 4 * 16 + n) / 16) = a := by
  have : a.toNat / 4 * 4 + (a.toNat % 4 * 16 + n) / 16 = a.toNat := by omega
  rw [this, UInt8.ofNat_toNat]

theorem second_octet (m : Nat) (b : UInt8) (n : Nat) (h : n < 4) :
    UInt8.ofNat ((m * 16 + b.toNat / 16) % 16 * 16 + (b.toNat % 16 * 4 + n) / 4) = b := by
  have hb := b.toNat_lt
  have : (m * 16 + b.toNat / 16) % 16 * 16 + (b.toNat % 16 * 4 + n) / 4 = b.toNat := by omega
  rw [this, UInt8.ofNat_toNat]

theorem third_octet (m : Nat) (c : UInt8) :
    UInt8.ofNat ((m * 4 + c.toNat / 64) % 4 * 64 + c.toNat % 64) = c := by
  have hc := c.toNat_lt
  have : (m * 4 + c.toNat / 64) % 4 * 64 + c.toNat % 64 = c.toNat := by omega
  rw [this, UInt8.ofNat_toNat]

/-- A written text is data without padding marks, which reads back as the octets, and as many marks
as its last group lacks. -/
theorem encode_eq_append (bytes : Bytes) :
    ∃ data count, encode bytes = data ++ List.replicate count '=' ∧ (∀ c ∈ data, c ≠ '=') ∧
      decodeData data = some bytes ∧
      (data.length % 4 = 0 ∧ count = 0 ∨ data.length % 4 ≠ 0 ∧ data.length % 4 + count = 4) := by
  fun_induction encode bytes with
  | case1 => exact ⟨[], 0, rfl, by simp, rfl, by simp⟩
  | case2 a =>
      have ha := a.toNat_lt
      have h₁ := value?_letter (a.toNat / 4) (by omega)
      have h₂ := value?_letter (a.toNat % 4 * 16) (by omega)
      have ho := first_octet a 0 (by omega)
      refine ⟨[letter (a.toNat / 4), letter (a.toNat % 4 * 16)], 2, rfl, ?_, ?_, by simp⟩
      · intro c hc
        simp only [List.mem_cons, List.not_mem_nil, or_false] at hc
        rcases hc with rfl | rfl
        · exact letter_ne_pad _ (by omega)
        · exact letter_ne_pad _ (by omega)
      · simp only [decodeData, h₁, h₂, Option.bind_eq_bind, Option.bind_some, Option.pure_def]
        simpa using ho
  | case3 a b =>
      have ha := a.toNat_lt
      have hb := b.toNat_lt
      have h₁ := value?_letter (a.toNat / 4) (by omega)
      have h₂ := value?_letter (a.toNat % 4 * 16 + b.toNat / 16) (by omega)
      have h₃ := value?_letter (b.toNat % 16 * 4) (by omega)
      have ho₁ := first_octet a (b.toNat / 16) (by omega)
      have ho₂ := second_octet (a.toNat % 4) b 0 (by omega)
      refine ⟨[letter (a.toNat / 4), letter (a.toNat % 4 * 16 + b.toNat / 16),
        letter (b.toNat % 16 * 4)], 1, rfl, ?_, ?_, by simp⟩
      · intro c hc
        simp only [List.mem_cons, List.not_mem_nil, or_false] at hc
        rcases hc with rfl | rfl | rfl
        · exact letter_ne_pad _ (by omega)
        · exact letter_ne_pad _ (by omega)
        · exact letter_ne_pad _ (by omega)
      · simp only [decodeData, h₁, h₂, h₃, Option.bind_eq_bind, Option.bind_some, Option.pure_def,
          ho₁]
        simpa using ho₂
  | case4 a b c rest ih =>
      obtain ⟨data, count, hd, hn, hr, hc⟩ := ih
      have ha := a.toNat_lt
      have hb := b.toNat_lt
      have hc' := c.toNat_lt
      have h₁ := value?_letter (a.toNat / 4) (by omega)
      have h₂ := value?_letter (a.toNat % 4 * 16 + b.toNat / 16) (by omega)
      have h₃ := value?_letter (b.toNat % 16 * 4 + c.toNat / 64) (by omega)
      have h₄ := value?_letter (c.toNat % 64) (by omega)
      have ho₁ := first_octet a (b.toNat / 16) (by omega)
      have ho₂ := second_octet (a.toNat % 4) b (c.toNat / 64) (by omega)
      have ho₃ := third_octet (b.toNat % 16) c
      refine ⟨letter (a.toNat / 4) :: letter (a.toNat % 4 * 16 + b.toNat / 16) ::
        letter (b.toNat % 16 * 4 + c.toNat / 64) :: letter (c.toNat % 64) :: data, count, ?_, ?_,
        ?_, ?_⟩
      · simp [hd]
      · intro x hx
        simp only [List.mem_cons] at hx
        rcases hx with rfl | rfl | rfl | rfl | hx
        · exact letter_ne_pad _ (by omega)
        · exact letter_ne_pad _ (by omega)
        · exact letter_ne_pad _ (by omega)
        · exact letter_ne_pad _ (by omega)
        · exact hn x hx
      · simp only [decodeData, h₁, h₂, h₃, h₄, hr, Option.bind_eq_bind, Option.bind_some,
          Option.pure_def, ho₁, ho₂, ho₃]
      · simp only [List.length_cons]
        omega

/-- Data without padding marks and as many marks as its last group lacks are read as the data. -/
theorem decode?_append_pads {data : List Char} {count : Nat} (hdata : ∀ c ∈ data, c ≠ '=')
    (hcount : data.length % 4 = 0 ∧ count = 0 ∨
      data.length % 4 ≠ 0 ∧ data.length % 4 + count = 4) :
    decode? (data ++ List.replicate count '=') = decodeData data := by
  have hp : ∀ c ∈ data, decide (c ≠ '=') = true := by simpa using hdata
  have ht : (data ++ List.replicate count '=').takeWhile (· ≠ '=') = data := by
    rw [List.takeWhile_append_of_pos hp]
    cases count <;> simp [List.replicate_succ]
  have hd : (data ++ List.replicate count '=').dropWhile (· ≠ '=') = List.replicate count '=' := by
    rw [List.dropWhile_append_of_pos hp]
    cases count <;> simp [List.replicate_succ]
  unfold decode?
  rw [ht, hd, if_pos]
  refine ⟨by simp, ?_⟩
  rcases hcount with ⟨h4, rfl⟩ | ⟨h4, hc⟩
  · rw [if_pos h4]
    exact Or.inr rfl
  · rw [if_neg h4]
    simpa using hc

theorem decode?_encode (bytes : Bytes) : decode? (encode bytes) = some bytes := by
  obtain ⟨data, count, he, hn, hr, hc⟩ := encode_eq_append bytes
  rw [he, decode?_append_pads hn hc, hr]

end ArtifactSigning.Text.Radix64
