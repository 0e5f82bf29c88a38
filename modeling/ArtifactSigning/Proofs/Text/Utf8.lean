import ArtifactSigning.Text.Utf8

/-!
# Texts as octets

A character is read from its own octets and from no others (`next_eq_some`): what a leading octet
announces is met by the numbers of exactly those characters that begin with it. So well-formed
octets are the octets of one text (`decode?_eq_some_iff`), and a text is read back from its octets
with nothing replaced. The octets of an ASCII text are its characters.
-/
namespace ArtifactSigning.Text.Utf8

/-- The last `count` groups of six bits of a number, each in an octet that continues a character. -/
def tailOctets : (count : Nat) → Nat → Bytes
  | 0, _ => []
  | count + 1, n => UInt8.ofNat (0x80 + n / 64 ^ count % 64) :: tailOctets count n

variable {count n bits : Nat} {low high b : UInt8} {rest after : Bytes}

theorem toNat_tailOctet (m : Nat) : (UInt8.ofNat (0x80 + m % 64)).toNat = 0x80 + m % 64 := by
  rw [UInt8.toNat_ofNat', Nat.mod_eq_of_lt (by omega)]

/-- One octet of a continuation. -/
theorem continuation_succ_cons :
    continuation (count + 1) low high bits (b :: rest) = (some n, after) ↔
      (low.toNat ≤ b.toNat ∧ b.toNat ≤ high.toNat) ∧
        continuation count 0x80 0xBF (bits * 64 + (b.toNat - 0x80)) rest = (some n, after) := by
  simp only [continuation, UInt8.le_iff_toNat_le]
  split <;> rename_i h <;> simp [h]

/-- What a leading octet announces is met by a number. -/
structure Lead.Admits (lead : Lead) (n : Nat) : Prop where
  bits : lead.bits = n / 64 ^ lead.following
  bounds : ∀ b ∈ (tailOctets lead.following n).head?,
    lead.low.toNat ≤ b.toNat ∧ b.toNat ≤ lead.high.toNat

theorem admits_zero_iff {low high : UInt8} : (Lead.mk 0 low high bits).Admits n ↔ bits = n := by
  constructor
  · intro h
    simpa using h.bits
  · intro h
    exact ⟨by simpa using h, by simp [tailOctets]⟩

theorem admits_succ_iff {low high : UInt8} :
    (Lead.mk (count + 1) low high bits).Admits n ↔ bits = n / 64 ^ (count + 1) ∧
      low.toNat ≤ 0x80 + n / 64 ^ count % 64 ∧ 0x80 + n / 64 ^ count % 64 ≤ high.toNat := by
  have hhead : ∀ P : UInt8 → Prop, (∀ b ∈ (tailOctets (count + 1) n).head?, P b) ↔
      P (UInt8.ofNat (0x80 + n / 64 ^ count % 64)) := by
    simp [tailOctets]
  constructor
  · rintro ⟨hbits, hbounds⟩
    rw [hhead, toNat_tailOctet] at hbounds
    exact ⟨hbits, hbounds⟩
  · rintro ⟨hbits, hbounds⟩
    refine ⟨hbits, (hhead _).2 ?_⟩
    rwa [toNat_tailOctet]

/-- A continuation reads the low bits of a number onto its high ones. Only its first octet may have
narrower bounds. -/
theorem continuation_eq_some (hbounds : count ≠ 0 → 0x80 ≤ low.toNat ∧ high.toNat ≤ 0xBF) :
    continuation count low high bits rest = (some n, after) ↔
      (Lead.mk count low high bits).Admits n ∧ rest = tailOctets count n ++ after := by
  induction count generalizing low high bits rest with
  | zero => simp [continuation, tailOctets, admits_zero_iff]
  | succ count ih =>
      cases rest with
      | nil => simp [continuation, tailOctets]
      | cons b rest =>
          have hdiv : n / 64 ^ (count + 1) = n / 64 ^ count / 64 := by
            rw [Nat.pow_succ, Nat.div_div_eq_div_mul]
          have hinner : (Lead.mk count 0x80 0xBF (n / 64 ^ count)).Admits n := by
            cases count with
            | zero => simp [admits_zero_iff]
            | succ count =>
                refine admits_succ_iff.2 ⟨rfl, ?_⟩
                simp only [UInt8.reduceToNat]
                omega
          have hbits : ∀ m, (Lead.mk count 0x80 0xBF m).Admits n ↔ m = n / 64 ^ count :=
            fun m => ⟨fun h => h.bits, fun h => h ▸ hinner⟩
          obtain ⟨hlow, hhigh⟩ := hbounds (Nat.succ_ne_zero _)
          rw [continuation_succ_cons, ih fun _ => by decide, hbits, admits_succ_iff, tailOctets,
            List.cons_append, List.cons.injEq, hdiv]
          constructor
          · rintro ⟨hbounds, hbits, hrest⟩
            have hoctet : b.toNat = 0x80 + n / 64 ^ count % 64 := by omega
            refine ⟨⟨by omega, by omega⟩, ?_, hrest⟩
            rw [← hoctet, UInt8.ofNat_toNat]
          · rintro ⟨⟨hbits, hbounds⟩, rfl, hrest⟩
            rw [toNat_tailOctet]
            exact ⟨hbounds, by omega, hrest⟩

/-- How many octets follow the first one of a character. -/
def tailLength (n : Nat) : Nat :=
  if n ≤ 0x7F then 0 else if n ≤ 0x7FF then 1 else if n ≤ 0xFFFF then 2 else 3

/-- The mark in a first octet by the number of octets that follow. -/
def mark : Nat → Nat
  | 0 => 0
  | 1 => 0xC0
  | 2 => 0xE0
  | _ => 0xF0

/-- A character has its mark and its high bits in the first octet, and six bits in each other. -/
theorem utf8EncodeChar_eq (c : Char) :
    String.utf8EncodeChar c =
      UInt8.ofNat (mark (tailLength c.toNat) + c.toNat / 64 ^ tailLength c.toNat) ::
        tailOctets (tailLength c.toNat) c.toNat := by
  have hlt : c.toNat < 0x110000 := by
    have hvalid : c.toNat.isValidChar := c.valid
    simp only [Nat.isValidChar] at hvalid
    omega
  have hval : c.val.toNat = c.toNat := rfl
  simp only [String.utf8EncodeChar, hval, tailLength]
  split
  · simp [mark, tailOctets]
  · split
    · simp [mark, tailOctets, Nat.add_comm, Nat.mod_eq_of_lt (show c.toNat / 64 < 0x20 by omega)]
    · split
      · simp [mark, tailOctets, Nat.add_comm,
          Nat.mod_eq_of_lt (show c.toNat / 4096 < 0x10 by omega)]
      · simp [mark, tailOctets, Nat.add_comm,
          Nat.mod_eq_of_lt (show c.toNat / 262144 < 0x08 by omega)]

/-- The leading octets by their numbers. -/
theorem lead?_eq (b : UInt8) :
    lead? b =
      if b.toNat < 0x80 then some ⟨0, 0, 0, b.toNat⟩
      else if b.toNat < 0xC2 then none
      else if b.toNat < 0xE0 then some ⟨1, 0x80, 0xBF, b.toNat - 0xC0⟩
      else if b.toNat = 0xE0 then some ⟨2, 0xA0, 0xBF, 0⟩
      else if b.toNat = 0xED then some ⟨2, 0x80, 0x9F, 0xD⟩
      else if b.toNat < 0xF0 then some ⟨2, 0x80, 0xBF, b.toNat - 0xE0⟩
      else if b.toNat = 0xF0 then some ⟨3, 0x90, 0xBF, 0⟩
      else if b.toNat < 0xF4 then some ⟨3, 0x80, 0xBF, b.toNat - 0xF0⟩
      else if b.toNat = 0xF4 then some ⟨3, 0x80, 0x8F, 4⟩
      else none := by
  simp only [lead?, UInt8.lt_iff_toNat_lt, ← UInt8.toNat_inj]
  rfl

theorem tailLength_eq (n : Nat) :
    tailLength n = 0 ∧ n ≤ 0x7F ∨ tailLength n = 1 ∧ 0x7F < n ∧ n ≤ 0x7FF ∨
      tailLength n = 2 ∧ 0x7FF < n ∧ n ≤ 0xFFFF ∨ tailLength n = 3 ∧ 0xFFFF < n := by
  rw [tailLength]
  repeat' split
  all_goals simp
  all_goals omega

/-- The announcement of a leading octet is met only by the numbers of characters that begin with
this octet. -/
theorem Lead.Admits.number {lead : Lead} (h : lead.Admits n) (hlead : lead? b = some lead) :
    n.isValidChar ∧ lead.following = tailLength n ∧
      b.toNat = mark lead.following + n / 64 ^ lead.following := by
  have hlength := tailLength_eq n
  -- Every row of the table is one range of characters.
  fun_cases lead? b
  all_goals
    rw [lead?] at hlead
    simp only [*, if_true, if_false] at hlead
    cases hlead
  all_goals
    simp only [UInt8.lt_iff_toNat_lt, ← UInt8.toNat_inj, UInt8.reduceToNat] at *
    simp only [admits_zero_iff, admits_succ_iff, UInt8.reduceToNat, Nat.reducePow, Nat.reduceAdd,
      Nat.div_one] at h
    simp only [mark, Nat.isValidChar, Nat.reducePow, Nat.div_one]
    omega

/-- Every character begins with an octet whose announcement it meets. -/
theorem exists_admits (hvalid : n.isValidChar)
    (hb : b.toNat = mark (tailLength n) + n / 64 ^ tailLength n) :
    ∃ lead, lead? b = some lead ∧ lead.following = tailLength n ∧ lead.Admits n := by
  simp only [Nat.isValidChar] at hvalid
  rw [lead?_eq]
  rcases tailLength_eq n with ⟨hlength, hn⟩ | ⟨hlength, hn⟩ | ⟨hlength, hn⟩ | ⟨hlength, hn⟩
  all_goals simp only [hlength, mark, Nat.reducePow, Nat.div_one] at hb
  · refine ⟨_, if_pos (by omega), hlength.symm, admits_zero_iff.2 ?_⟩
    omega
  · rw [if_neg (by omega), if_neg (by omega), if_pos (by omega)]
    refine ⟨_, rfl, hlength.symm, admits_succ_iff.2 ?_⟩
    simp only [UInt8.reduceToNat, Nat.reducePow, Nat.reduceAdd, Nat.div_one]
    omega
  · rw [if_neg (by omega), if_neg (by omega), if_neg (by omega)]
    by_cases hfirst : b.toNat = 0xE0
    · refine ⟨_, if_pos hfirst, hlength.symm, admits_succ_iff.2 ?_⟩
      simp only [UInt8.reduceToNat, Nat.reducePow, Nat.reduceAdd]
      omega
    rw [if_neg hfirst]
    by_cases hsurrogates : b.toNat = 0xED
    · refine ⟨_, if_pos hsurrogates, hlength.symm, admits_succ_iff.2 ?_⟩
      simp only [UInt8.reduceToNat, Nat.reducePow, Nat.reduceAdd]
      omega
    rw [if_neg hsurrogates, if_pos (by omega)]
    refine ⟨_, rfl, hlength.symm, admits_succ_iff.2 ?_⟩
    simp only [UInt8.reduceToNat, Nat.reducePow, Nat.reduceAdd]
    omega
  · rw [if_neg (by omega), if_neg (by omega), if_neg (by omega), if_neg (by omega),
      if_neg (by omega), if_neg (by omega)]
    by_cases hfirst : b.toNat = 0xF0
    · refine ⟨_, if_pos hfirst, hlength.symm, admits_succ_iff.2 ?_⟩
      simp only [UInt8.reduceToNat, Nat.reducePow, Nat.reduceAdd]
      omega
    rw [if_neg hfirst]
    by_cases hlast : b.toNat = 0xF4
    · rw [if_neg (by omega)]
      refine ⟨_, if_pos hlast, hlength.symm, admits_succ_iff.2 ?_⟩
      simp only [UInt8.reduceToNat, Nat.reducePow, Nat.reduceAdd]
      omega
    rw [if_pos (by omega)]
    refine ⟨_, rfl, hlength.symm, admits_succ_iff.2 ?_⟩
    simp only [UInt8.reduceToNat, Nat.reducePow, Nat.reduceAdd]
    omega

theorem bounds_of_lead? {lead : Lead} (hlead : lead? b = some lead) :
    lead.following ≠ 0 → 0x80 ≤ lead.low.toNat ∧ lead.high.toNat ≤ 0xBF := by
  fun_cases lead? b
  all_goals
    rw [lead?] at hlead
    simp only [*, if_true, if_false] at hlead
    cases hlead
  all_goals simp

/-- A character is read from its own octets, and from no others. -/
theorem next_eq_some {c : Char} :
    next b rest = (some c, after) ↔ b :: rest = String.utf8EncodeChar c ++ after := by
  have hvalid : c.toNat.isValidChar := c.valid
  rw [utf8EncodeChar_eq, List.cons_append, List.cons.injEq]
  constructor
  · intro h
    unfold next at h
    split at h
    · simp at h
    · rename_i lead hlead
      rcases hread : continuation lead.following lead.low lead.high lead.bits rest with ⟨n?, tail⟩
      rw [hread] at h
      simp only [Prod.mk.injEq, Option.map_eq_some_iff] at h
      obtain ⟨⟨n, rfl, rfl⟩, rfl⟩ := h
      obtain ⟨hadmits, htail⟩ := (continuation_eq_some (bounds_of_lead? hlead)).1 hread
      obtain ⟨hn, hlength, hb⟩ := hadmits.number hlead
      have htoNat : (Char.ofNat n).toNat = n := by
        rw [Char.ofNat, dif_pos hn]
        rfl
      rw [htoNat, ← hlength, ← hb, UInt8.ofNat_toNat]
      exact ⟨rfl, htail⟩
  · rintro ⟨hb, htail⟩
    have hlt : mark (tailLength c.toNat) + c.toNat / 64 ^ tailLength c.toNat < 256 := by
      simp only [Nat.isValidChar] at hvalid
      rcases tailLength_eq c.toNat with ⟨hlength, hn⟩ | ⟨hlength, hn⟩ | ⟨hlength, hn⟩ |
        ⟨hlength, hn⟩
      all_goals
        simp only [hlength, mark, Nat.reducePow, Nat.div_one]
        omega
    obtain ⟨lead, hlead, hlength, hadmits⟩ := exists_admits (b := b) hvalid
      (by rw [hb, UInt8.toNat_ofNat', Nat.mod_eq_of_lt hlt])
    rw [← hlength] at htail
    have hread := (continuation_eq_some (bounds_of_lead? hlead)).2 ⟨hadmits, htail⟩
    simp [next, hlead, hread]

theorem next_of_encode (c : Char) (text : List Char) :
    ∃ b rest, encode (c :: text) = b :: rest ∧ next b rest = (some c, encode text) := by
  cases hoctets : encode (c :: text) with
  | nil => simp [encode, utf8EncodeChar_eq] at hoctets
  | cons b rest => exact ⟨b, rest, rfl, next_eq_some.2 hoctets.symm⟩

/-- Octets are well-formed exactly if they are the octets of a text, which is the one that is read.
-/
theorem decode?_eq_some_iff {bytes : Bytes} {text : List Char} :
    decode? bytes = some text ↔ bytes = encode text := by
  constructor
  · intro h
    fun_induction decode? bytes generalizing text with
    | case1 =>
        obtain rfl := Option.some.inj h
        rfl
    | case2 => cases h
    | case3 b rest c hnext ih =>
        obtain ⟨more, hmore, rfl⟩ := Option.map_eq_some_iff.1 h
        rw [next_eq_some.1 (Prod.ext hnext (ih hmore))]
        rfl
  · rintro rfl
    induction text with
    | nil => rw [encode, List.flatMap_nil, decode?]
    | cons c text ih =>
        obtain ⟨b, rest, hoctets, hnext⟩ := next_of_encode c text
        rw [hoctets, decode?, hnext]
        simp [ih]

/-- A text is read from its octets, whatever follows them. -/
theorem decodeLossy_append (text : List Char) (rest : Bytes) :
    decodeLossy (encode text ++ rest) = text ++ decodeLossy rest := by
  induction text with
  | nil => rfl
  | cons c text ih =>
      have hoctets : encode (c :: text) ++ rest =
          String.utf8EncodeChar c ++ (encode text ++ rest) := by
        rw [encode, List.flatMap_cons, List.append_assoc]
        rfl
      cases hfront : encode (c :: text) ++ rest with
      | nil =>
          rw [hoctets, utf8EncodeChar_eq] at hfront
          cases hfront
      | cons b more =>
          have hnext : next b more = (some c, encode text ++ rest) :=
            next_eq_some.2 (hfront.symm.trans hoctets)
          rw [decodeLossy, hnext, ih]
          rfl

/-- A text is read back from its octets, with nothing replaced. -/
theorem decodeLossy_encode (text : List Char) : decodeLossy (encode text) = text := by
  have hread := decodeLossy_append text []
  rwa [List.append_nil, decodeLossy, List.append_nil] at hread

/-- Octets that are read with nothing replaced are those of the text. -/
theorem encode_decodeLossy {bytes : Bytes} (h : replacement ∉ decodeLossy bytes) :
    encode (decodeLossy bytes) = bytes := by
  fun_induction decodeLossy bytes with
  | case1 => rfl
  | case2 b rest ih =>
      rw [List.mem_cons, not_or] at h
      cases hfirst : (next b rest).1 with
      | none =>
          rw [hfirst] at h
          exact absurd rfl h.1
      | some c =>
          rw [next_eq_some.1 (Prod.ext hfirst rfl)]
          exact congrArg (String.utf8EncodeChar c ++ ·) (ih h.2)

/-- What is read from the beginning of some octets is the beginning of their text, unless something
is replaced in it. -/
theorem decodeLossy_isPrefix {bytes more : Bytes} (hbegins : bytes <+: more)
    (h : replacement ∉ decodeLossy bytes) : decodeLossy bytes <+: decodeLossy more := by
  obtain ⟨rest, rfl⟩ := hbegins
  have hread := decodeLossy_append (decodeLossy bytes) rest
  rw [encode_decodeLossy h] at hread
  exact ⟨_, hread.symm⟩

/-- Octets at the beginning of others are those of the beginning of a text. -/
theorem isPrefix_of_encode {text more : List Char} (h : encode text <+: encode more) :
    text <+: more := by
  obtain ⟨rest, hrest⟩ := h
  refine ⟨decodeLossy rest, ?_⟩
  rw [← decodeLossy_append, hrest, decodeLossy_encode]

theorem encode_append (text more : List Char) :
    encode (text ++ more) = encode text ++ encode more := List.flatMap_append

theorem le_of_mem_tailOctets (h : b ∈ tailOctets count n) : 0x80 ≤ b.toNat := by
  induction count with
  | zero => cases h
  | succ count ih =>
      rcases List.mem_cons.1 h with rfl | hmem
      · rw [toNat_tailOctet]
        omega
      · exact ih hmem

/-- An ASCII character is one octet, and the octets of all others are above those of ASCII. -/
theorem utf8EncodeChar_cases (c : Char) :
    (c.toNat < 0x80 ∧ String.utf8EncodeChar c = [UInt8.ofNat c.toNat]) ∨
      (0x80 ≤ c.toNat ∧ ∀ b ∈ String.utf8EncodeChar c, 0x80 ≤ b.toNat) := by
  have hvalid : c.toNat.isValidChar := c.valid
  simp only [Nat.isValidChar] at hvalid
  rw [utf8EncodeChar_eq]
  rcases tailLength_eq c.toNat with ⟨hlength, hc⟩ | hlonger
  · refine .inl ⟨by omega, ?_⟩
    simp [hlength, mark, tailOctets]
  · refine .inr ⟨by omega, fun b hb => ?_⟩
    rcases List.mem_cons.1 hb with rfl | hmem
    · rcases hlonger with ⟨hlength, hc⟩ | ⟨hlength, hc⟩ | ⟨hlength, hc⟩
      all_goals
        simp only [hlength, mark, Nat.reducePow, UInt8.toNat_ofNat']
        omega
    · exact le_of_mem_tailOctets hmem

/-- The octets of an ASCII text are the numbers of its characters. -/
theorem encode_ascii {text : List Char} (h : ∀ c ∈ text, c.toNat < 0x80) :
    encode text = text.map fun c => UInt8.ofNat c.toNat := by
  induction text with
  | nil => rfl
  | cons c text ih =>
      have hrest := ih fun other hother => h other (.tail _ hother)
      rcases utf8EncodeChar_cases c with ⟨-, hoctet⟩ | ⟨hc, -⟩
      · rw [encode] at hrest ⊢
        rw [List.flatMap_cons, hoctet, hrest, List.map_cons, List.singleton_append]
      · exact absurd (h c List.mem_cons_self) (by omega)

/-- An ASCII octet stands for its character and for nothing else. -/
theorem mem_of_mem_encode {text : List Char} (h : b ∈ encode text) (hb : b.toNat < 0x80) :
    ∃ c ∈ text, c.toNat = b.toNat := by
  obtain ⟨c, hc, hmem⟩ := List.mem_flatMap.1 h
  refine ⟨c, hc, ?_⟩
  rcases utf8EncodeChar_cases c with ⟨hlt, hoctet⟩ | ⟨-, hoctets⟩
  · rw [hoctet] at hmem
    rw [List.mem_singleton.1 hmem, UInt8.toNat_ofNat', Nat.mod_eq_of_lt (by omega)]
  · exact absurd (hoctets b hmem) (by omega)

/-- An ASCII character is found among the octets as often as in the text. -/
theorem count_encode {c : Char} (h : c.toNat < 0x80) (text : List Char) :
    (encode text).count (UInt8.ofNat c.toNat) = text.count c := by
  have hb : (UInt8.ofNat c.toNat).toNat = c.toNat := by
    rw [UInt8.toNat_ofNat', Nat.mod_eq_of_lt (by omega)]
  induction text with
  | nil => rfl
  | cons d text ih =>
      rw [encode] at ih ⊢
      rw [List.flatMap_cons, List.count_append, ih, List.count_cons, Nat.add_comm]
      congr 1
      rcases utf8EncodeChar_cases d with ⟨hlt, hoctet⟩ | ⟨hle, hoctets⟩
      · have hd : (UInt8.ofNat d.toNat).toNat = d.toNat := by
          rw [UInt8.toNat_ofNat', Nat.mod_eq_of_lt (by omega)]
        have hsame : UInt8.ofNat d.toNat = UInt8.ofNat c.toNat ↔ d = c := by
          rw [← UInt8.toNat_inj, hb, hd, Char.toNat_inj]
        rw [hoctet, List.count_singleton]
        simp [hsame]
      · have hne : d ≠ c := by
          rintro rfl
          omega
        rw [if_neg (by simpa using hne), List.count_eq_zero]
        intro hmem
        have hoctet := hoctets _ hmem
        omega

theorem decodeLossy_ascii {text : List Char} (h : ∀ c ∈ text, c.toNat < 0x80) :
    decodeLossy (text.map fun c => UInt8.ofNat c.toNat) = text := by
  rw [← encode_ascii h, decodeLossy_encode]

end ArtifactSigning.Text.Utf8
