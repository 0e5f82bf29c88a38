import ArtifactSigning.Text.Hex

/-!
# The spellings of octets in hexadecimal

Octets are spelled by two digits each, in either case, with ASCII blanks between the pairs. The
reader accepts these spellings and no others (`decode?_eq_some_iff`). Without blanks they are the
texts of pairs of digits (`exists_spells`), and in lower case they are what is written
(`spells_iff_lower`).
-/
namespace ArtifactSigning.Text

/-- The character at a distance from the first one of its range. -/
theorem ofNat_add_sub {low high c : Char} (h : low ≤ c ∧ c ≤ high) :
    c.toNat - low.toNat ≤ high.toNat - low.toNat ∧
      Char.ofNat (low.toNat + (c.toNat - low.toNat)) = c := by
  have hlow : low.toNat ≤ c.toNat := UInt32.le_iff_toNat_le.1 h.1
  have hhigh : c.toNat ≤ high.toNat := UInt32.le_iff_toNat_le.1 h.2
  refine ⟨by omega, ?_⟩
  rw [Nat.add_sub_cancel' hlow, Char.ofNat_toNat]

namespace Hex

/-- Whether a character is the digit of a number in either case. -/
def IsDigit (n : Nat) (c : Char) : Prop := c = digit n ∨ c = (digit n).toUpper

/-- The texts that spell octets: two digits for each of them, and ASCII blanks around the pairs. -/
inductive Spells : Bytes → List Char → Prop
  | nil : Spells [] []
  | blank {bytes : Bytes} {c : Char} {text : List Char} (hc : isAsciiBlank c = true)
      (h : Spells bytes text) : Spells bytes (c :: text)
  | octet {b : UInt8} {bytes : Bytes} {high low : Char} {text : List Char}
      (hhigh : IsDigit (b.toNat / 16) high) (hlow : IsDigit (b.toNat % 16) low)
      (h : Spells bytes text) : Spells (b :: bytes) (high :: low :: text)

variable {bytes : Bytes} {text : List Char} {c : Char} {n : Nat}

theorem value?_of_isDigit (hn : n < 16) (h : IsDigit n c) :
    value? c = some n ∧ isAsciiBlank c = false := by
  have hall : ∀ n < 16, value? (digit n).toUpper = some n ∧
      isAsciiBlank (digit n).toUpper = false := by decide
  rcases h with rfl | rfl
  · exact ⟨value?_digit n hn, not_isAsciiBlank_digit n hn⟩
  · exact hall n hn

theorem isDigit_of_value? (h : value? c = some n) : n < 16 ∧ IsDigit n c := by
  fun_cases value? c with
  | case1 hten =>
      have hall : ∀ k ≤ 9, Char.ofNat ('0'.toNat + k) = digit k := by decide
      obtain ⟨hle, hchar⟩ := ofNat_add_sub hten
      change _ ≤ 9 at hle
      rw [value?, if_pos hten] at h
      obtain rfl := Option.some.inj h
      exact ⟨by omega, .inl (hchar.symm.trans (hall _ hle))⟩
  | case2 hten hlower =>
      have hall : ∀ k ≤ 5, Char.ofNat ('a'.toNat + k) = digit (k + 10) := by decide
      obtain ⟨hle, hchar⟩ := ofNat_add_sub hlower
      change _ ≤ 5 at hle
      rw [value?, if_neg hten, if_pos hlower] at h
      obtain rfl := Option.some.inj h
      exact ⟨by omega, .inl (hchar.symm.trans (hall _ hle))⟩
  | case3 hten hlower hupper =>
      have hall : ∀ k ≤ 5, Char.ofNat ('A'.toNat + k) = (digit (k + 10)).toUpper := by decide
      obtain ⟨hle, hchar⟩ := ofNat_add_sub hupper
      change _ ≤ 5 at hle
      rw [value?, if_neg hten, if_neg hlower, if_pos hupper] at h
      obtain rfl := Option.some.inj h
      exact ⟨by omega, .inr (hchar.symm.trans (hall _ hle))⟩
  | case4 hten hlower hupper =>
      rw [value?, if_neg hten, if_neg hlower, if_neg hupper] at h
      cases h

theorem decode?_cons_blank (h : isAsciiBlank c = true) : decode? (c :: text) = decode? text := by
  cases text with
  | nil => simp [decode?, h]
  | cons d text => rw [decode?, if_pos h]

/-- Two digits are read as the octet that they spell. -/
theorem decode?_cons_octet {b : UInt8} {high low : Char} (hhigh : IsDigit (b.toNat / 16) high)
    (hlow : IsDigit (b.toNat % 16) low) (text : List Char) :
    decode? (high :: low :: text) = (decode? text).map (b :: ·) := by
  have hb := b.toNat_lt
  obtain ⟨hvalue, hblank⟩ := value?_of_isDigit (by omega) hhigh
  obtain ⟨hvalue', -⟩ := value?_of_isDigit (by omega) hlow
  have hsum : UInt8.ofNat (b.toNat / 16 * 16 + b.toNat % 16) = b := by
    rw [Nat.div_add_mod', UInt8.ofNat_toNat]
  rw [decode?, if_neg (by simp [hblank]), hvalue, hvalue']
  cases decode? text with
  | none => rfl
  | some bytes => exact congrArg (fun b => some (b :: bytes)) hsum

/-- Two digits spell the octet of their values. -/
theorem Spells.cons_digits {m n : Nat} {high low : Char} (h : Spells bytes text)
    (hhigh : m < 16 ∧ IsDigit m high) (hlow : n < 16 ∧ IsDigit n low) :
    Spells (UInt8.ofNat (m * 16 + n) :: bytes) (high :: low :: text) := by
  obtain ⟨hm, hhigh⟩ := hhigh
  obtain ⟨hn, hlow⟩ := hlow
  have hoctet : (UInt8.ofNat (m * 16 + n)).toNat = m * 16 + n :=
    UInt8.toNat_ofNat_of_lt' (show m * 16 + n < 256 by omega)
  have hdiv : (m * 16 + n) / 16 = m := by omega
  have hmod : (m * 16 + n) % 16 = n := by omega
  exact .octet (by rwa [hoctet, hdiv]) (by rwa [hoctet, hmod]) h

/-- A text is read as octets exactly if it spells them. -/
theorem decode?_eq_some_iff : decode? text = some bytes ↔ Spells bytes text := by
  constructor
  · intro h
    fun_induction decode? text generalizing bytes with
    | case1 =>
        obtain rfl := Option.some.inj h
        exact .nil
    | case2 c hblank =>
        obtain rfl := Option.some.inj h
        exact .blank hblank .nil
    | case3 => cases h
    | case4 c d rest hblank ih => exact .blank hblank (ih h)
    | case5 c d rest hblank high low more hmore hlow hhigh ih =>
        obtain rfl := Option.some.inj h
        exact (ih hmore).cons_digits (isDigit_of_value? hhigh) (isDigit_of_value? hlow)
    | case6 => cases h
  · intro h
    induction h with
    | nil => rfl
    | blank hc h ih => rw [decode?_cons_blank hc, ih]
    | octet hhigh hlow h ih => rw [decode?_cons_octet hhigh hlow, ih, Option.map_some]

/-- A spelling is read the same, whatever follows it. -/
theorem decode?_append (h : Spells bytes text) (more : List Char) :
    decode? (text ++ more) = (decode? more).map (bytes ++ ·) := by
  induction h with
  | nil => simp
  | blank hc h ih => rw [List.cons_append, decode?_cons_blank hc, ih]
  | octet hhigh hlow h ih =>
      rw [List.cons_append, List.cons_append, decode?_cons_octet hhigh hlow, ih, Option.map_map]
      rfl

/-- The beginning of a spelling that is one itself spells the first octets. -/
theorem Spells.isPrefix_of_isPrefix {octets : Bytes} {spelling : List Char} (h : Spells bytes text)
    (hbegins : text <+: spelling) (hspelling : Spells octets spelling) : bytes <+: octets := by
  obtain ⟨more, rfl⟩ := hbegins
  have hread := decode?_eq_some_iff.2 hspelling
  rw [decode?_append h] at hread
  obtain ⟨rest, -, hoctets⟩ := Option.map_eq_some_iff.1 hread
  exact ⟨rest, hoctets⟩

/-- A spelling is an ASCII text. -/
theorem Spells.toNat_lt (h : Spells bytes text) (hc : c ∈ text) : c.toNat < 0x80 := by
  have hdigits : ∀ n < 16, (digit n).toNat < 0x80 ∧ (digit n).toUpper.toNat < 0x80 := by decide
  have hdigit {n : Nat} {d : Char} (hn : n < 16) (hd : IsDigit n d) : d.toNat < 0x80 := by
    rcases hd with rfl | rfl
    · exact (hdigits n hn).1
    · exact (hdigits n hn).2
  induction h with
  | nil => cases hc
  | blank hblank h ih =>
      rcases List.mem_cons.1 hc with rfl | hc
      · simp only [isAsciiBlank, Bool.or_eq_true, beq_iff_eq, Bool.and_eq_true,
          decide_eq_true_eq] at hblank
        rcases hblank with rfl | hrange
        · decide
        · omega
      · exact ih hc
  | @octet b bytes high low text hhigh hlow h ih =>
      have hb := b.toNat_lt
      rcases List.mem_cons.1 hc with rfl | hc
      · exact hdigit (by omega) hhigh
      · rcases List.mem_cons.1 hc with rfl | hc
        · exact hdigit (by omega) hlow
        · exact ih hc

section Digits

/-- The ASCII hexadecimal digits in either case. -/
def IsHexDigit (c : Char) : Prop :=
  ('0' ≤ c ∧ c ≤ '9') ∨ ('a' ≤ c ∧ c ≤ 'f') ∨ ('A' ≤ c ∧ c ≤ 'F')

theorem isHexDigit_iff_isSome : IsHexDigit c ↔ (value? c).isSome = true := by
  rw [IsHexDigit, value?]
  split
  · simp [*]
  · split
    · simp [*]
    · split <;> simp [*]

theorem isHexDigit_iff : IsHexDigit c ↔ ∃ n < 16, IsDigit n c := by
  rw [isHexDigit_iff_isSome, Option.isSome_iff_exists]
  constructor
  · rintro ⟨n, hn⟩
    exact ⟨n, isDigit_of_value? hn⟩
  · rintro ⟨n, hn, h⟩
    exact ⟨n, (value?_of_isDigit hn h).1⟩

/-- A digit is known by its lower case. -/
theorem isDigit_iff_lower (hn : n < 16) : IsDigit n c ↔ c.toLower = digit n := by
  have hupper : ∀ k ≤ 25, ∀ n < 16, (Char.ofNat ('A'.toNat + k)).toLower = digit n →
      IsDigit n (Char.ofNat ('A'.toNat + k)) := by unfold IsDigit; decide
  have hall : ∀ n < 16, (digit n).toLower = digit n ∧ (digit n).toUpper.toLower = digit n := by
    decide
  constructor
  · rintro (rfl | rfl)
    · exact (hall n hn).1
    · exact (hall n hn).2
  · intro h
    by_cases hrange : 'A' ≤ c ∧ c ≤ 'Z'
    · obtain ⟨hle, hchar⟩ := ofNat_add_sub hrange
      rw [← hchar] at h ⊢
      exact hupper _ hle n hn h
    · have hlower : c.toLower = c := dif_neg (by simpa [Char.le_def] using hrange)
      rw [hlower] at h
      exact .inl h

theorem encode_cons (b : UInt8) (bytes : Bytes) :
    encode (b :: bytes) = digit (b.toNat / 16) :: digit (b.toNat % 16) :: encode bytes := rfl

/-- A spelling without blanks consists of digits. -/
theorem Spells.isHexDigit (h : Spells bytes text) (hblank : ∀ c ∈ text, isAsciiBlank c = false) :
    ∀ c ∈ text, IsHexDigit c := by
  induction h with
  | nil => simp
  | @blank bytes c text hc h ih => simp [hc] at hblank
  | @octet b bytes high low text hhigh hlow h ih =>
      have hb := b.toNat_lt
      simp only [List.forall_mem_cons] at hblank ⊢
      exact ⟨isHexDigit_iff.2 ⟨_, by omega, hhigh⟩, isHexDigit_iff.2 ⟨_, by omega, hlow⟩,
        ih hblank.2.2⟩

/-- Without blanks, a text spells the octets that are written as this text in lower case. -/
theorem spells_iff_lower (hblank : ∀ c ∈ text, isAsciiBlank c = false) :
    Spells bytes text ↔ text.map Char.toLower = encode bytes := by
  constructor
  · intro h
    induction h with
    | nil => rfl
    | @blank bytes c text hc h ih => simp [hc] at hblank
    | @octet b bytes high low text hhigh hlow h ih =>
        have hb := b.toNat_lt
        simp only [List.forall_mem_cons] at hblank
        rw [List.map_cons, List.map_cons, encode_cons, ih hblank.2.2,
          (isDigit_iff_lower (by omega)).1 hhigh, (isDigit_iff_lower (by omega)).1 hlow]
  · intro h
    clear hblank
    induction bytes generalizing text with
    | nil =>
        obtain rfl := List.map_eq_nil_iff.1 h
        exact .nil
    | cons b bytes ih =>
        have hb := b.toNat_lt
        rw [encode_cons] at h
        obtain ⟨high, text, rfl, hhigh, h⟩ := List.map_eq_cons_iff.1 h
        obtain ⟨low, text, rfl, hlow, h⟩ := List.map_eq_cons_iff.1 h
        exact .octet ((isDigit_iff_lower (by omega)).2 hhigh)
          ((isDigit_iff_lower (by omega)).2 hlow) (ih h)

theorem lower_encodeUpper (bytes : Bytes) :
    (encodeUpper bytes).map Char.toLower = encode bytes := by
  have hall : ∀ n < 16, (digit n).toUpper.toLower = digit n := by decide
  induction bytes with
  | nil => rfl
  | cons b bytes ih =>
      have hb := b.toNat_lt
      rw [encodeUpper] at ih
      rw [encodeUpper, encode_cons, List.map_cons, List.map_cons, List.map_cons, List.map_cons, ih,
        hall _ (by omega), hall _ (by omega)]

theorem length_encode (bytes : Bytes) : (encode bytes).length = 2 * bytes.length := by
  induction bytes with
  | nil => rfl
  | cons b bytes ih =>
      rw [encode_cons, List.length_cons, List.length_cons, List.length_cons, ih]
      omega

/-- Pairs of digits spell some octets. -/
theorem exists_spells {count : Nat} (hlength : text.length = 2 * count)
    (hdigits : ∀ c ∈ text, IsHexDigit c) : ∃ bytes, Spells bytes text := by
  induction count generalizing text with
  | zero =>
      obtain rfl := List.length_eq_zero_iff.1 hlength
      exact ⟨[], .nil⟩
  | succ count ih =>
      match text, hlength with
      | high :: low :: text, hlength =>
          simp only [List.forall_mem_cons] at hdigits
          obtain ⟨m, hhigh⟩ := isHexDigit_iff.1 hdigits.1
          obtain ⟨n, hlow⟩ := isHexDigit_iff.1 hdigits.2.1
          obtain ⟨bytes, hbytes⟩ := ih (by simp only [List.length_cons] at hlength; omega)
            hdigits.2.2
          exact ⟨_, hbytes.cons_digits hhigh hlow⟩

end Digits

end Hex

end ArtifactSigning.Text
