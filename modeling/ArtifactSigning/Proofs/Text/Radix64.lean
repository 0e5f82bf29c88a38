import ArtifactSigning.Proofs.Bits
import ArtifactSigning.Proofs.Text.Hex
import ArtifactSigning.Text.Blank
import ArtifactSigning.Text.Lines
import ArtifactSigning.Text.Radix64

/-!
# Radix-64 text as bits

A character of the alphabet stands for six bits. Data of any such characters, unless a single one is
left over, is read as the octets that its bits begin with (`decodeData_letters`), and groups of four
are written as they were read (`encode_of_decodeData`).
-/
namespace ArtifactSigning.Text.Radix64

/-- Whether a character belongs to the alphabet. -/
def isLetter (c : Char) : Bool := (value? c).isSome

/-- The bits that the characters of some data stand for. -/
def letterBits (data : List Char) : List Bool :=
  data.flatMap fun c => natBits 6 ((value? c).getD 0)

/-- What the characters of a radix-64 text have in common. -/
structure IsPlain (c : Char) : Prop where
  not_blank : isBlank c = false
  not_break : isLineBreak c = false
  ne_dash : c ≠ '-'
  ascii : c.toNat < 0x80

variable {bytes : Bytes} {data : List Char} {c : Char} {n p q r s : Nat}

theorem value?_eq_some (h : value? c = some n) : n < 64 ∧ letter n = c := by
  fun_cases value? c with
  | case1 hupper =>
      obtain ⟨hle, hchar⟩ := ofNat_add_sub hupper
      change _ ≤ 25 at hle
      rw [value?, if_pos hupper] at h
      obtain rfl := Option.some.inj h
      refine ⟨by omega, ?_⟩
      rw [letter, if_pos (by omega), hchar]
  | case2 hupper hlower =>
      obtain ⟨hle, hchar⟩ := ofNat_add_sub hlower
      change _ ≤ 25 at hle
      rw [value?, if_neg hupper, if_pos hlower] at h
      obtain rfl := Option.some.inj h
      refine ⟨by omega, ?_⟩
      rw [letter, if_neg (by omega), if_pos (by omega), Nat.add_sub_cancel, hchar]
  | case3 hupper hlower hdigit =>
      obtain ⟨hle, hchar⟩ := ofNat_add_sub hdigit
      change _ ≤ 9 at hle
      rw [value?, if_neg hupper, if_neg hlower, if_pos hdigit] at h
      obtain rfl := Option.some.inj h
      refine ⟨by omega, ?_⟩
      rw [letter, if_neg (by omega), if_neg (by omega), if_pos (by omega), Nat.add_sub_cancel,
        hchar]
  | case4 hupper hlower hdigit hplus =>
      rw [value?, if_neg hupper, if_neg hlower, if_neg hdigit, if_pos hplus] at h
      obtain rfl := Option.some.inj h
      rw [hplus]
      decide
  | case5 hupper hlower hdigit hplus hslash =>
      rw [value?, if_neg hupper, if_neg hlower, if_neg hdigit, if_neg hplus, if_pos hslash] at h
      obtain rfl := Option.some.inj h
      rw [hslash]
      decide
  | case6 hupper hlower hdigit hplus hslash =>
      rw [value?, if_neg hupper, if_neg hlower, if_neg hdigit, if_neg hplus, if_neg hslash] at h
      cases h

theorem isLetter_letter (h : n < 64) : isLetter (letter n) = true := by
  rw [isLetter, value?_letter n h, Option.isSome_some]

theorem isPlain_of_isLetter (h : isLetter c = true) : IsPlain c := by
  have hall : ∀ n < 64, isBlank (letter n) = false ∧ isLineBreak (letter n) = false ∧
      letter n ≠ '-' ∧ (letter n).toNat < 0x80 := by decide
  obtain ⟨n, hn⟩ := Option.isSome_iff_exists.1 h
  obtain ⟨hlt, rfl⟩ := value?_eq_some hn
  obtain ⟨hblank, hbreak, hdash, hascii⟩ := hall n hlt
  exact ⟨hblank, hbreak, hdash, hascii⟩

theorem ne_pad_of_isLetter (h : isLetter c = true) : c ≠ '=' := by
  rintro rfl
  exact absurd h (by decide)

theorem isPlain_pad : IsPlain '=' := ⟨by decide, by decide, by decide, by decide⟩

/-- A radix-64 text consists of letters and padding marks. -/
theorem isLetter_or_pad_of_mem_encode (h : c ∈ encode bytes) : isLetter c = true ∨ c = '=' := by
  fun_induction encode bytes with
  | case1 => simp at h
  | case2 a =>
      have ha := a.toNat_lt
      simp only [List.mem_cons, List.not_mem_nil, or_false] at h
      rcases h with rfl | rfl | rfl | rfl
      · exact .inl (isLetter_letter (by omega))
      · exact .inl (isLetter_letter (by omega))
      · exact .inr rfl
      · exact .inr rfl
  | case3 a b =>
      have ha := a.toNat_lt
      have hb := b.toNat_lt
      simp only [List.mem_cons, List.not_mem_nil, or_false] at h
      rcases h with rfl | rfl | rfl | rfl
      · exact .inl (isLetter_letter (by omega))
      · exact .inl (isLetter_letter (by omega))
      · exact .inl (isLetter_letter (by omega))
      · exact .inr rfl
  | case4 a b c' rest ih =>
      have ha := a.toNat_lt
      have hb := b.toNat_lt
      have hc := c'.toNat_lt
      simp only [List.mem_cons] at h
      rcases h with rfl | rfl | rfl | rfl | h
      · exact .inl (isLetter_letter (by omega))
      · exact .inl (isLetter_letter (by omega))
      · exact .inl (isLetter_letter (by omega))
      · exact .inl (isLetter_letter (by omega))
      · exact ih h

/-- A radix-64 text is data of letters with padding marks behind it. -/
theorem encode_eq_letters (bytes : Bytes) :
    ∃ data count, encode bytes = data ++ List.replicate count '=' ∧
      (∀ c ∈ data, isLetter c = true) ∧ decodeData data = some bytes ∧
      (data.length % 4 = 0 ∧ count = 0 ∨ data.length % 4 ≠ 0 ∧ data.length % 4 + count = 4) := by
  obtain ⟨data, count, hencode, hpad, hdata, hcount⟩ := encode_eq_append bytes
  refine ⟨data, count, hencode, fun c hc => ?_, hdata, hcount⟩
  have hmem : c ∈ encode bytes := by
    rw [hencode]
    exact List.mem_append_left _ hc
  exact (isLetter_or_pad_of_mem_encode hmem).resolve_right (hpad c hc)

/-- Complete groups of octets need no padding marks. -/
theorem isLetter_of_mem_encode (hlength : bytes.length % 3 = 0) (h : c ∈ encode bytes) :
    isLetter c = true := by
  fun_induction encode bytes with
  | case1 => cases h
  | case2 => cases hlength
  | case3 => cases hlength
  | case4 a b c' rest ih =>
      have ha := a.toNat_lt
      have hb := b.toNat_lt
      have hc := c'.toNat_lt
      rw [List.length_cons, List.length_cons, List.length_cons] at hlength
      simp only [List.mem_cons] at h
      rcases h with rfl | rfl | rfl | rfl | h
      · exact isLetter_letter (by omega)
      · exact isLetter_letter (by omega)
      · exact isLetter_letter (by omega)
      · exact isLetter_letter (by omega)
      · exact ih (by omega) h

theorem isPlain_of_mem_encode (h : c ∈ encode bytes) : IsPlain c := by
  rcases isLetter_or_pad_of_mem_encode h with hletter | rfl
  · exact isPlain_of_isLetter hletter
  · exact isPlain_pad

theorem filter_isLetter_append_pads (count : Nat) (h : ∀ c ∈ data, isLetter c = true) :
    (data ++ List.replicate count '=').filter isLetter = data := by
  have hpad : isLetter '=' = false := by decide
  rw [List.filter_append, List.filter_eq_self.2 h, List.filter_replicate, hpad]
  simp

/-- Letters with the right number of padding marks behind them are read without these. -/
theorem decode?_letters {count : Nat} (h : ∀ c ∈ data, isLetter c = true)
    (hcount : data.length % 4 = 0 ∧ count = 0 ∨
      data.length % 4 ≠ 0 ∧ data.length % 4 + count = 4) :
    decode? (data ++ List.replicate count '=') = decodeData data :=
  decode?_append_pads (fun c hc => ne_pad_of_isLetter (h c hc)) hcount

theorem length_encode (bytes : Bytes) : (encode bytes).length = (bytes.length + 2) / 3 * 4 := by
  fun_induction encode bytes with
  | case1 => rfl
  | case2 => simp
  | case3 => simp
  | case4 a b c rest ih =>
      simp only [List.length_cons, ih]
      omega

section Group

variable (hp : p < 64) (hq : q < 64) (hr : r < 64) (hs : s < 64)

include hp hq in
theorem natBits_first_octet :
    natBits 8 (UInt8.ofNat (p * 4 + q / 16)).toNat = natBits 6 p ++ natBits 2 (q / 16) := by
  have hoctet : p * 4 + q / 16 < 256 := by omega
  rw [UInt8.toNat_ofNat_of_lt' hoctet]
  exact natBits_append 6 2 _ (by omega)

include hr in
theorem natBits_second_octet :
    natBits 8 (UInt8.ofNat (q % 16 * 16 + r / 4)).toNat =
      natBits 4 (q % 16) ++ natBits 4 (r / 4) := by
  have hoctet : q % 16 * 16 + r / 4 < 256 := by omega
  rw [UInt8.toNat_ofNat_of_lt' hoctet]
  exact natBits_append 4 4 _ (by omega)

include hs in
theorem natBits_third_octet :
    natBits 8 (UInt8.ofNat (r % 4 * 64 + s)).toNat = natBits 2 (r % 4) ++ natBits 6 s := by
  have hoctet : r % 4 * 64 + s < 256 := by omega
  rw [UInt8.toNat_ofNat_of_lt' hoctet]
  exact natBits_append 2 6 _ hs

theorem natBits_second_letter (q : Nat) :
    natBits 6 q = natBits 2 (q / 16) ++ natBits 4 (q % 16) := by
  rw [← natBits_append 2 4 (q % 16) (by omega)]
  congr 1
  omega

theorem natBits_third_letter (r : Nat) :
    natBits 6 r = natBits 4 (r / 4) ++ natBits 2 (r % 4) := by
  rw [← natBits_append 4 2 (r % 4) (by omega)]
  congr 1
  omega

include hp hq in
/-- The octet of two letters has the bits that they begin with. -/
theorem bitsOf_pair :
    bitsOf [UInt8.ofNat (p * 4 + q / 16)] = (natBits 6 p ++ natBits 6 q).take 8 := by
  rw [bitsOf_cons, natBits_first_octet hp hq, natBits_second_letter q, ← List.append_assoc,
    List.take_left' (by simp)]
  exact List.append_nil _

include hp hq hr in
/-- The octets of three letters have the bits that they begin with. -/
theorem bitsOf_triple :
    bitsOf [UInt8.ofNat (p * 4 + q / 16), UInt8.ofNat (q % 16 * 16 + r / 4)] =
      (natBits 6 p ++ natBits 6 q ++ natBits 6 r).take 16 := by
  rw [bitsOf_cons, bitsOf_cons, natBits_first_octet hp hq, natBits_second_octet hr,
    natBits_second_letter q, natBits_third_letter r,
    ← List.append_assoc (_ ++ _) (natBits 4 (r / 4)), List.take_left' (by simp)]
  simp [bitsOf]

include hp hq hr hs in
/-- The octets of a complete group have the bits of its letters. -/
theorem bitsOf_group (bytes : Bytes) :
    bitsOf (UInt8.ofNat (p * 4 + q / 16) :: UInt8.ofNat (q % 16 * 16 + r / 4) ::
        UInt8.ofNat (r % 4 * 64 + s) :: bytes) =
      natBits 6 p ++ natBits 6 q ++ natBits 6 r ++ natBits 6 s ++ bitsOf bytes := by
  rw [bitsOf_cons, bitsOf_cons, bitsOf_cons, natBits_first_octet hp hq, natBits_second_octet hr,
    natBits_third_octet hs, natBits_second_letter q, natBits_third_letter r]
  simp only [List.append_assoc]

end Group

theorem exists_value (h : isLetter c = true) : ∃ n < 64, value? c = some n := by
  obtain ⟨n, hn⟩ := Option.isSome_iff_exists.1 h
  exact ⟨n, (value?_eq_some hn).1, hn⟩

/-- Data is read as the octets that the bits of its characters begin with. -/
theorem decodeData_letters (hletters : ∀ c ∈ data, isLetter c = true)
    (hlength : data.length % 4 ≠ 1) :
    ∃ bytes, decodeData data = some bytes ∧
      bitsOf bytes = (letterBits data).take (8 * (data.length * 3 / 4)) := by
  fun_induction decodeData data with
  | case1 => exact ⟨[], rfl, rfl⟩
  | case2 c d =>
      obtain ⟨p, hp, hc⟩ := exists_value (hletters c (by simp))
      obtain ⟨q, hq, hd⟩ := exists_value (hletters d (by simp))
      refine ⟨[UInt8.ofNat (p * 4 + q / 16)], by simp [hc, hd], ?_⟩
      rw [bitsOf_pair hp hq]
      simp [letterBits, hc, hd]
  | case3 c d e =>
      obtain ⟨p, hp, hc⟩ := exists_value (hletters c (by simp))
      obtain ⟨q, hq, hd⟩ := exists_value (hletters d (by simp))
      obtain ⟨r, hr, he⟩ := exists_value (hletters e (by simp))
      refine ⟨[UInt8.ofNat (p * 4 + q / 16), UInt8.ofNat (q % 16 * 16 + r / 4)],
        by simp [hc, hd, he], ?_⟩
      rw [bitsOf_triple hp hq hr]
      simp [letterBits, hc, hd, he]
  | case4 c d e f rest ih =>
      obtain ⟨p, hp, hc⟩ := exists_value (hletters c (by simp))
      obtain ⟨q, hq, hd⟩ := exists_value (hletters d (by simp))
      obtain ⟨r, hr, he⟩ := exists_value (hletters e (by simp))
      obtain ⟨s, hs, hf⟩ := exists_value (hletters f (by simp))
      rw [List.length_cons, List.length_cons, List.length_cons, List.length_cons] at hlength
      obtain ⟨bytes, hdata, hbits⟩ := ih (fun c hc => hletters c (by simp [hc])) (by omega)
      refine ⟨UInt8.ofNat (p * 4 + q / 16) :: UInt8.ofNat (q % 16 * 16 + r / 4) ::
        UInt8.ofNat (r % 4 * 64 + s) :: bytes, by simp [hc, hd, he, hf, hdata], ?_⟩
      have hgroup : (natBits 6 p ++ natBits 6 q ++ natBits 6 r ++ natBits 6 s).length = 24 := by
        simp
      have hall : letterBits (c :: d :: e :: f :: rest) =
          natBits 6 p ++ natBits 6 q ++ natBits 6 r ++ natBits 6 s ++ letterBits rest := by
        simp [letterBits, hc, hd, he, hf]
      have hcount : 8 * ((rest.length + 1 + 1 + 1 + 1) * 3 / 4) =
          24 + 8 * (rest.length * 3 / 4) := by omega
      rw [bitsOf_group hp hq hr hs, hbits, hall, List.length_cons, List.length_cons,
        List.length_cons, List.length_cons, hcount, ← hgroup, List.take_length_add_append]
  | case5 => exact absurd rfl hlength

/-- Data that is read does not end in a single letter, and four letters make three octets. -/
theorem length_of_decodeData (hdata : decodeData data = some bytes) :
    data.length % 4 ≠ 1 ∧ bytes.length = data.length * 3 / 4 := by
  fun_induction decodeData data generalizing bytes with
  | case1 =>
      obtain rfl := Option.some.inj hdata
      decide
  | case2 =>
      simp only [Option.bind_eq_bind, Option.bind_eq_some_iff, Option.pure_def] at hdata
      obtain ⟨p, -, q, -, hdata⟩ := hdata
      obtain rfl := Option.some.inj hdata
      simp
  | case3 =>
      simp only [Option.bind_eq_bind, Option.bind_eq_some_iff, Option.pure_def] at hdata
      obtain ⟨p, -, q, -, r, -, hdata⟩ := hdata
      obtain rfl := Option.some.inj hdata
      simp
  | case4 c d e f rest ih =>
      simp only [Option.bind_eq_bind, Option.bind_eq_some_iff, Option.pure_def] at hdata
      obtain ⟨p, -, q, -, r, -, s, -, more, hmore, hdata⟩ := hdata
      obtain rfl := Option.some.inj hdata
      obtain ⟨hsingle, hrest⟩ := ih hmore
      simp only [List.length_cons, hrest]
      omega
  | case5 => cases hdata

theorem isLetter_of_decodeData (hdata : decodeData data = some bytes) :
    ∀ c ∈ data, isLetter c = true := by
  have hletter {c : Char} {n : Nat} (h : value? c = some n) : isLetter c = true := by
    rw [isLetter, h, Option.isSome_some]
  fun_induction decodeData data generalizing bytes with
  | case1 => simp
  | case2 =>
      simp only [Option.bind_eq_bind, Option.bind_eq_some_iff] at hdata
      obtain ⟨p, hp, q, hq, -⟩ := hdata
      simp [hletter hp, hletter hq]
  | case3 =>
      simp only [Option.bind_eq_bind, Option.bind_eq_some_iff] at hdata
      obtain ⟨p, hp, q, hq, r, hr, -⟩ := hdata
      simp [hletter hp, hletter hq, hletter hr]
  | case4 c d e f rest ih =>
      simp only [Option.bind_eq_bind, Option.bind_eq_some_iff] at hdata
      obtain ⟨p, hp, q, hq, r, hr, s, hs, more, hmore, -⟩ := hdata
      simpa [hletter hp, hletter hq, hletter hr, hletter hs] using ih hmore
  | case5 => cases hdata

/-- A text with any other character than letters and padding marks is not read. -/
theorem decode?_eq_none {text : List Char} (hc : c ∈ text) (hletter : isLetter c = false)
    (hpad : c ≠ '=') : decode? text = none := by
  have hdata : c ∈ text.takeWhile (· ≠ '=') ∨ c ∈ text.dropWhile (· ≠ '=') := by
    rw [← List.mem_append, List.takeWhile_append_dropWhile]
    exact hc
  rw [decode?, ite_eq_right_iff]
  rintro ⟨hpadding, -⟩
  rcases hdata with hdata | hdropped
  · rw [Option.eq_none_iff_forall_ne_some]
    intro bytes hbytes
    rw [isLetter_of_decodeData hbytes c hdata] at hletter
    cases hletter
  · exact absurd (of_decide_eq_true (List.all_eq_true.1 hpadding c hdropped)) hpad

/-- Complete groups are written as they were read. -/
theorem encode_of_decodeData (hdata : decodeData data = some bytes)
    (hlength : data.length % 4 = 0) : encode bytes = data := by
  fun_induction decodeData data generalizing bytes with
  | case1 =>
      obtain rfl := Option.some.inj hdata
      rfl
  | case2 => cases hlength
  | case3 => cases hlength
  | case4 c d e f rest ih =>
      simp only [Option.bind_eq_bind, Option.bind_eq_some_iff, Option.pure_def, Option.some.injEq]
        at hdata
      obtain ⟨p, hp, q, hq, r, hr, s, hs, more, hmore, rfl⟩ := hdata
      obtain ⟨hp, rfl⟩ := value?_eq_some hp
      obtain ⟨hq, rfl⟩ := value?_eq_some hq
      obtain ⟨hr, rfl⟩ := value?_eq_some hr
      obtain ⟨hs, rfl⟩ := value?_eq_some hs
      rw [List.length_cons, List.length_cons, List.length_cons, List.length_cons] at hlength
      have hoctet {n : Nat} (h : n < 256) : (UInt8.ofNat n).toNat = n := UInt8.toNat_ofNat_of_lt' h
      have hfirst : (p * 4 + q / 16) / 4 = p := by omega
      have hsecond : (p * 4 + q / 16) % 4 * 16 + (q % 16 * 16 + r / 4) / 16 = q := by omega
      have hthird : (q % 16 * 16 + r / 4) % 16 * 4 + (r % 4 * 64 + s) / 64 = r := by omega
      have hfourth : (r % 4 * 64 + s) % 64 = s := by omega
      rw [encode, ih hmore (by omega), hoctet (by omega), hoctet (by omega), hoctet (by omega),
        hfirst, hsecond, hthird, hfourth]
  | case5 => cases hlength

end ArtifactSigning.Text.Radix64
