import ArtifactSigning.Bytes
import ArtifactSigning.Text.Blank

/-!
# Hexadecimal text

`encode` writes every octet as two lower-case digits. `decode?` reads digits of either case and
skips ASCII blanks between the pairs, never inside one; `decode?_encode` says that it undoes
`encode`.
-/
namespace ArtifactSigning.Text.Hex

/-- The lower-case digit of a number below sixteen. -/
def digit (n : Nat) : Char := Nat.digitChar n

/-- The value of an ASCII hexadecimal digit. -/
def value? (c : Char) : Option Nat :=
  if '0' ≤ c ∧ c ≤ '9' then some (c.toNat - '0'.toNat)
  else if 'a' ≤ c ∧ c ≤ 'f' then some (c.toNat - 'a'.toNat + 10)
  else if 'A' ≤ c ∧ c ≤ 'F' then some (c.toNat - 'A'.toNat + 10)
  else none

def encodeOctet (b : UInt8) : List Char := [digit (b.toNat / 16), digit (b.toNat % 16)]

/-- Two lower-case digits for every octet. -/
def encode (bytes : Bytes) : List Char := bytes.flatMap encodeOctet

/-- Two upper-case digits for every octet. -/
def encodeUpper (bytes : Bytes) : List Char := (encode bytes).map Char.toUpper

/-- The octets spelled by pairs of digits with ASCII blanks between the pairs. -/
def decode? : List Char → Option Bytes
  | [] => some []
  | [c] => if isAsciiBlank c then some [] else none
  | c :: d :: rest =>
      if isAsciiBlank c then decode? (d :: rest)
      else
        match value? c, value? d, decode? rest with
        | some high, some low, some bytes => some (UInt8.ofNat (high * 16 + low) :: bytes)
        | _, _, _ => none

theorem not_isAsciiBlank_digit : ∀ n < 16, isAsciiBlank (digit n) = false := by decide

theorem value?_digit : ∀ n < 16, value? (digit n) = some n := by decide

theorem decode?_encode (bytes : Bytes) : decode? (encode bytes) = some bytes := by
  induction bytes with
  | nil => rfl
  | cons b bytes ih =>
      have hb : b.toNat < 256 := UInt8.toNat_lt b
      have hhigh : b.toNat / 16 < 16 := by omega
      have hlow : b.toNat % 16 < 16 := by omega
      have hb' : UInt8.ofNat (b.toNat / 16 * 16 + b.toNat % 16) = b := by
        rw [Nat.mul_comm, Nat.div_add_mod]
        exact UInt8.ofNat_toNat
      rw [encode] at ih
      simp only [encode, List.flatMap_cons, encodeOctet, List.cons_append, List.nil_append,
        decode?, not_isAsciiBlank_digit _ hhigh, value?_digit _ hhigh, value?_digit _ hlow, ih, hb',
        Bool.false_eq_true, if_false]

/-- The text of a number in hexadecimal, without leading zeros. -/
def ofNat (n : Nat) : List Char := Nat.toDigits 16 n

end ArtifactSigning.Text.Hex
