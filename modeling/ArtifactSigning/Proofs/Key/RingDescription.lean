import ArtifactSigning.Key.Ring
import ArtifactSigning.Proofs.Packet.Places
import ArtifactSigning.Proofs.Packet.Reading
import Mathlib.Data.List.Forall2

/-!
# The description of key rings

Which keys, user ids and self-signatures a ring has is said by the places of its packets alone.
`RingAt` describes the ring that opens at a place: its keys are read from the key packets up to the
next opening, its user ids from the user id packets among them, and a key has the self-signatures
of its primary key that follow it. The lemmas say what one more packet adds to a described ring.
-/
namespace ArtifactSigning.KeyRing

open Packet

/-- The tags of packets that hold secret keys. -/
def keyTags : List Nat := [secretKeyTag, secretSubkeyTag]

/-- The tags of packets that signatures may follow. -/
def followedTags : List Nat := [secretKeyTag, secretSubkeyTag, userIdTag, userAttributeTag]

/-- The place at which the ring opens that is open behind some packets. -/
def openRing? (before : List Packet) : Option Nat := lastPlace? [secretKeyTag] before

/-- The place of the key that a signature behind some packets follows. The last packet that a
signature may follow is that key itself, or it is a user id or an attribute of the primary key. -/
def followedKey? (before : List Packet) : Option Nat := do
  let place ← lastPlace? followedTags before
  let packet ← before[place]?
  if keyTags.contains packet.tag then some place else openRing? (before.take place)

/-- Whether a packet with one of some tags is in the ring that opens at a place. -/
def inRing (tags : List Nat) (opening : Nat) : Condition := fun before packet =>
  tags.contains packet.tag && openRing? (before ++ [packet]) == some opening

/-- Whether the body of a signature packet names the key as its issuer, or names none. -/
def isIssuedBy (primary : SecretKey) (body : Bytes) : Bool :=
  match SelfSignature.ofBody body with
  | .ok (some s) => s.issuedBy primary.fingerprint primary.keyId
  | .ok none | .error _ => false

/-- Whether a packet is a version 4 signature of a primary key that follows the key at a place. -/
def isSelfSignature (primary : SecretKey) (place : Nat) : Condition := fun before packet =>
  packet.tag == signatureTag && packet.body.head? == some 4 &&
    followedKey? before == some place && isIssuedBy primary packet.body

/-- A key as it stands in its own packet. -/
def bare (key : SecretKey) : SecretKey := { key with userIds := [], selfSignatures := [] }

/-- The key in a key packet. -/
def readKey (packet : Packet) : Except Failure SecretKey :=
  SecretKey.ofBody packet.body (packet.tag = secretSubkeyTag)

/-- The keys in the key packets among some packets. -/
def readKeys (packets : List Packet) : Except Failure (List SecretKey) :=
  (packets.filter fun packet => keyTags.contains packet.tag).mapM readKey

/-- The key of the packet at a place, with the self-signatures of its primary key. -/
structure KeyAt (packets : List Packet) (primary : SecretKey) (place : Nat) (key : SecretKey) :
    Prop where
  read : ∃ packet, packets[place]? = some packet ∧ readKey packet = .ok (bare key) ∧
    (key.isSubkey = true ↔ packet.tag = secretSubkeyTag)
  signatures : List.Forall₂
    (fun place s => ∃ packet, packets[place]? = some packet ∧
      SelfSignature.ofBody packet.body = .ok (some s))
    (places (isSelfSignature primary place) packets) key.selfSignatures

/-- The ring that opens at a place. -/
structure RingAt (packets : List Packet) (opening : Nat) (ring : KeyRing) : Prop where
  primary : KeyAt packets ring.primary opening ring.primary
  subkeys : List.Forall₂ (KeyAt packets ring.primary)
    (places (inRing [secretSubkeyTag] opening) packets) ring.subkeys
  userIds : List.Forall₂
    (fun place text => ∃ packet, packets[place]? = some packet ∧
      text = String.ofList (Text.Utf8.decodeLossy packet.body))
    (places (inRing [userIdTag] opening) packets) ring.primary.userIds
  subkeyIds : ∀ key ∈ ring.subkeys, key.userIds = []

/-- The rings of a sequence of packets: no key is lost or doubled, and every primary key opens a
ring. -/
structure Describes (packets : List Packet) (rings : List KeyRing) : Prop where
  keys : readKeys packets = .ok ((allKeys rings).map bare)
  rings : List.Forall₂ (RingAt packets) (places (hasTag [secretKeyTag]) packets) rings

section Places

variable {packets : List Packet} {packet : Packet} {primary : SecretKey} {opening place : Nat}

theorem openRing?_append_singleton :
    openRing? (packets ++ [packet]) =
      if packet.tag = secretKeyTag then some packets.length else openRing? packets := by
  rw [openRing?, lastPlace?_append_singleton]
  simp only [List.contains_cons, List.contains_nil, Bool.or_false, beq_iff_eq]
  rfl

theorem openRing?_lt (h : openRing? packets = some opening) : opening < packets.length :=
  lastPlace?_lt h

/-- A packet that signatures may follow becomes the one they follow; another changes nothing. -/
theorem followedKey?_append_singleton :
    followedKey? (packets ++ [packet]) =
      if keyTags.contains packet.tag then some packets.length
      else if followedTags.contains packet.tag then openRing? packets
      else followedKey? packets := by
  rw [followedKey?, lastPlace?_append_singleton]
  by_cases hfollowed : followedTags.contains packet.tag
  · simp only [if_pos hfollowed, Option.bind_eq_bind, Option.bind_some,
      List.getElem?_append_right (Nat.le_refl _), Nat.sub_self, List.getElem?_cons_zero,
      List.take_left]
  · have hkey : ¬keyTags.contains packet.tag := by
      intro h
      apply hfollowed
      simp only [keyTags, followedTags, List.contains_cons, Bool.or_eq_true] at h ⊢
      tauto
    rw [if_neg hfollowed, if_neg hkey, if_neg hfollowed, followedKey?]
    cases hlast : lastPlace? followedTags packets with
    | none => rfl
    | some place =>
        have hlt := lastPlace?_lt hlast
        simp only [Option.bind_eq_bind, Option.bind_some, List.getElem?_append_left hlt,
          List.take_append_of_le_length (Nat.le_of_lt hlt)]

theorem inRing_eq_false (h : openRing? (packets ++ [packet]) ≠ some opening) (tags : List Nat) :
    inRing tags opening packets packet = false := by
  simp [inRing, h]

theorem inRing_eq_false_of_tag {tags : List Nat} (h : ¬tags.contains packet.tag) :
    inRing tags opening packets packet = false := by
  simp only [inRing, Bool.eq_false_iff.2 h, Bool.false_and]

/-- Behind a ring's packets a packet other than an opening one is in this ring. -/
theorem inRing_eq_true {tags : List Nat} (hopen : openRing? packets = some opening)
    (hother : packet.tag ≠ secretKeyTag) (h : tags.contains packet.tag) :
    inRing tags opening packets packet = true := by
  simp only [inRing, h, openRing?_append_singleton, if_neg hother, hopen, Bool.true_and,
    beq_self_eq_true]

theorem isSelfSignature_eq_false (h : packet.tag = signatureTag →
    followedKey? packets ≠ some place) :
    isSelfSignature primary place packets packet = false := by
  by_cases htag : packet.tag = signatureTag
  · simp [isSelfSignature, h htag]
  · simp [isSelfSignature, htag]

/-- A place lies in one ring only. -/
theorem eq_of_mem_inRing {tags tags' : List Nat} {other : Nat}
    (h : place ∈ places (inRing tags opening) packets)
    (h' : place ∈ places (inRing tags' other) packets) : opening = other := by
  obtain ⟨packet, hat, hin⟩ := mem_places.1 h
  obtain ⟨packet', hat', hin'⟩ := mem_places.1 h'
  rw [hat] at hat'
  cases hat'
  simp only [inRing, Bool.and_eq_true, beq_iff_eq] at hin hin'
  rw [hin.2, Option.some.injEq] at hin'
  exact hin'.2

/-- An opening place is no place of a subkey. -/
theorem opening_not_mem (hopen : place ∈ places (hasTag [secretKeyTag]) packets) :
    place ∉ places (inRing [secretSubkeyTag] opening) packets := by
  intro h
  obtain ⟨packet, hat, hin⟩ := mem_places.1 h
  obtain ⟨packet', hat', htag⟩ := mem_places.1 hopen
  rw [hat] at hat'
  cases hat'
  simp only [inRing, hasTag, Bool.and_eq_true, List.contains_cons, List.contains_nil,
    Bool.or_false, beq_iff_eq] at hin htag
  rw [htag] at hin
  exact absurd hin.1 (by decide)

/-- No packet is in a ring that opens later. -/
theorem places_inRing_eq_nil {tags : List Nat} (h : packets.length ≤ opening) :
    places (inRing tags opening) packets = [] := by
  apply List.eq_nil_iff_forall_not_mem.2
  intro i hi
  have hlt := lt_length_of_mem_places hi
  obtain ⟨found, -, hin⟩ := mem_places.1 hi
  simp only [inRing, Bool.and_eq_true, beq_iff_eq] at hin
  have hopening := openRing?_lt hin.2
  rw [List.length_append, List.length_take, List.length_singleton] at hopening
  omega

end Places

section Extension

variable {packets : List Packet} {packet : Packet} {primary key : SecretKey}
  {opening place : Nat} {ring : KeyRing}

theorem getElem?_append_of_eq_some {found : Packet} (h : packets[place]? = some found) :
    (packets ++ [packet])[place]? = some found := by
  rw [List.getElem?_append_left (List.getElem?_eq_some_iff.1 h).1, h]

/-- What has been found at places stays there when a packet follows. -/
theorem forall₂_append {found : α → Packet → Prop} {list : List Nat} {values : List α}
    (h : List.Forall₂ (fun place value => ∃ packet, packets[place]? = some packet ∧
      found value packet) list values) :
    List.Forall₂ (fun place value => ∃ other, (packets ++ [packet])[place]? = some other ∧
      found value other) list values := by
  refine h.imp ?_
  rintro place value ⟨other, hat, hfound⟩
  exact ⟨other, getElem?_append_of_eq_some hat, hfound⟩

theorem forall₂_concat {r : α → β → Prop} {xs : List α} {ys : List β} {x : α} {y : β}
    (h : List.Forall₂ r xs ys) (hlast : r x y) : List.Forall₂ r (xs ++ [x]) (ys ++ [y]) :=
  List.rel_append h (.cons hlast .nil)

/-- A packet that is no self-signature of a key leaves the key as it is. -/
theorem KeyAt.append (h : KeyAt packets primary place key)
    (hmiss : isSelfSignature primary place packets packet = false) :
    KeyAt (packets ++ [packet]) primary place key := by
  obtain ⟨found, hat, hread⟩ := h.read
  refine ⟨⟨found, getElem?_append_of_eq_some hat, hread⟩, ?_⟩
  rw [places_append_of_misses hmiss]
  exact forall₂_append h.signatures

/-- A self-signature is added to the key that it follows. -/
theorem KeyAt.append_signature {s : SelfSignature} (h : KeyAt packets primary place key)
    (hmeets : isSelfSignature primary place packets packet = true)
    (hs : SelfSignature.ofBody packet.body = .ok (some s)) :
    KeyAt (packets ++ [packet]) primary place
      { key with selfSignatures := key.selfSignatures ++ [s] } := by
  obtain ⟨found, hat, hread⟩ := h.read
  refine ⟨⟨found, getElem?_append_of_eq_some hat, hread⟩, ?_⟩
  rw [places_append_of_meets hmeets]
  exact forall₂_concat (forall₂_append h.signatures) ⟨packet, by simp, hs⟩

/-- A packet that is no self-signature of any of some keys leaves them as they are. -/
theorem keys_append {list : List Nat} {keys : List SecretKey}
    (h : List.Forall₂ (KeyAt packets primary) list keys)
    (hmiss : ∀ place ∈ list, isSelfSignature primary place packets packet = false) :
    List.Forall₂ (KeyAt (packets ++ [packet]) primary) list keys := by
  refine List.forall₂_iff_zip.2 ⟨h.length_eq, fun {place key} hmem => ?_⟩
  have hkey := (List.forall₂_iff_zip.1 h).2 hmem
  exact hkey.append (hmiss place (List.of_mem_zip hmem).1)

theorem followedKey?_lt (h : followedKey? packets = some place) : place < packets.length := by
  simp only [followedKey?, Option.bind_eq_bind, Option.bind_eq_some_iff] at h
  obtain ⟨last, hlast, found, -, h⟩ := h
  have hlt := lastPlace?_lt hlast
  split at h
  · cases h
    exact hlt
  · have hopening := openRing?_lt h
    rw [List.length_take] at hopening
    omega

/-- No signature follows a key before the key's own packet. -/
theorem places_isSelfSignature_eq_nil (h : packets.length ≤ place) :
    places (isSelfSignature primary place) packets = [] := by
  apply List.eq_nil_iff_forall_not_mem.2
  intro i hi
  obtain ⟨found, hat, hmeets⟩ := mem_places.1 hi
  simp only [isSelfSignature, Bool.and_eq_true, beq_iff_eq] at hmeets
  have hlt := followedKey?_lt hmeets.1.2
  rw [List.length_take] at hlt
  omega

/-- A key that has just been read is bare, and it is a subkey if its packet says so. -/
theorem readKey_eq_ok (h : readKey packet = .ok key) :
    bare key = key ∧ (key.isSubkey = true ↔ packet.tag = secretSubkeyTag) := by
  obtain ⟨_, hread⟩ := Reading.onBytes_eq_ok.1 h
  obtain ⟨_, _, -, hread⟩ := Step.bind_eq_ok.1 hread
  obtain ⟨_, _, -, hread⟩ := Step.bind_eq_ok.1 hread
  obtain ⟨_, _, -, hread⟩ := Step.bind_eq_ok.1 hread
  obtain ⟨_, _, -, hread⟩ := Step.bind_eq_ok.1 hread
  obtain ⟨_, _, -, hread⟩ := Step.bind_eq_ok.1 hread
  obtain ⟨_, _, -, hread⟩ := Step.bind_eq_ok.1 hread
  obtain ⟨_, _, -, hread⟩ := Step.bind_eq_ok.1 hread
  obtain ⟨_, _, -, hread⟩ := Step.bind_eq_ok.1 hread
  obtain ⟨rfl, -⟩ := Step.pure_eq_ok.1 hread
  exact ⟨rfl, decide_eq_true_iff⟩

/-- A key packet adds its key, which no signature follows yet. -/
theorem keyAt_length (hread : readKey packet = .ok key) (htag : packet.tag ≠ signatureTag) :
    KeyAt (packets ++ [packet]) primary packets.length key := by
  obtain ⟨hbare, hsubkey⟩ := readKey_eq_ok hread
  refine ⟨⟨packet, by simp, by rw [hbare, hread], hsubkey⟩, ?_⟩
  have hmiss : isSelfSignature primary packets.length packets packet = false :=
    isSelfSignature_eq_false fun h => absurd h htag
  have hsignatures : key.selfSignatures = [] := by
    rw [← hbare]
    rfl
  rw [places_append_of_misses hmiss, places_isSelfSignature_eq_nil (Nat.le_refl _), hsignatures]
  exact .nil

/-- A packet of another ring that follows no key of this ring leaves this ring as it is. -/
theorem RingAt.append_other (h : RingAt packets opening ring)
    (hring : openRing? (packets ++ [packet]) ≠ some opening)
    (hfollowed : packet.tag = signatureTag → ∀ place, followedKey? packets = some place →
      place ≠ opening ∧ place ∉ places (inRing [secretSubkeyTag] opening) packets) :
    RingAt (packets ++ [packet]) opening ring := by
  have hsubkeys := places_append_of_misses (inRing_eq_false hring [secretSubkeyTag])
  have huserIds := places_append_of_misses (inRing_eq_false hring [userIdTag])
  refine ⟨h.primary.append ?_, ?_, ?_, h.subkeyIds⟩
  · exact isSelfSignature_eq_false fun htag hplace => (hfollowed htag _ hplace).1 rfl
  · rw [hsubkeys]
    refine keys_append h.subkeys fun place hmem => ?_
    exact isSelfSignature_eq_false fun htag hplace => (hfollowed htag _ hplace).2 hmem
  · rw [huserIds]
    exact forall₂_append h.userIds

/-- A packet that is neither a key, a user id nor a self-signature leaves every ring as it is. -/
theorem RingAt.append_silent (h : RingAt packets opening ring)
    (hsubkey : packet.tag ≠ secretSubkeyTag) (huserId : packet.tag ≠ userIdTag)
    (hmiss : ∀ place, isSelfSignature ring.primary place packets packet = false) :
    RingAt (packets ++ [packet]) opening ring := by
  have hsubkeys : inRing [secretSubkeyTag] opening packets packet = false :=
    inRing_eq_false_of_tag (by simpa using hsubkey)
  have huserIds : inRing [userIdTag] opening packets packet = false :=
    inRing_eq_false_of_tag (by simpa using huserId)
  refine ⟨h.primary.append (hmiss _), ?_, ?_, h.subkeyIds⟩
  · rw [places_append_of_misses hsubkeys]
    exact keys_append h.subkeys fun place _ => hmiss place
  · rw [places_append_of_misses huserIds]
    exact forall₂_append h.userIds

/-- Only version 4 signatures are read. -/
theorem head?_of_ofBody {body : Bytes} {s : SelfSignature}
    (h : SelfSignature.ofBody body = .ok (some s)) : body.head? = some 4 := by
  obtain ⟨_, hread⟩ := Reading.onBytes_eq_ok.1 h
  obtain ⟨version, _, hversion, hread⟩ := Step.bind_eq_ok.1 hread
  have hhead := Reading.octet_start_eq_ok hversion
  split at hread
  · rename_i hfour
    rw [hhead, hfour]
  · have hnone := (Step.pure_eq_ok.1 hread).1
    simp at hnone

theorem forall₂_of_concat {r : α → β → Prop} {xs : List α} {ys : List β} {y : β}
    (h : List.Forall₂ r xs (ys ++ [y])) :
    ∃ front x, xs = front ++ [x] ∧ List.Forall₂ r front ys ∧ r x y := by
  have hreverse := List.forall₂_reverse_iff.2 h
  rw [List.reverse_append, List.reverse_singleton, List.singleton_append,
    List.forall₂_cons_right_iff] at hreverse
  obtain ⟨x, front, hlast, hfront, hxs⟩ := hreverse
  refine ⟨front.reverse, x, ?_, ?_, hlast⟩
  · rw [← List.reverse_reverse xs, hxs, List.reverse_cons]
  · simpa using List.forall₂_reverse_iff.2 hfront

theorem isSelfSignature_eq_true {s : SelfSignature} (htag : packet.tag = signatureTag)
    (hs : SelfSignature.ofBody packet.body = .ok (some s))
    (hissued : s.issuedBy primary.fingerprint primary.keyId = true)
    (hplace : followedKey? packets = some place) :
    isSelfSignature primary place packets packet = true := by
  have hissuedBy : isIssuedBy primary packet.body = true := by
    rw [isIssuedBy, hs]
    exact hissued
  simp [isSelfSignature, htag, head?_of_ofBody hs, hplace, hissuedBy]

/-- A self-signature that follows the primary key is added to it. -/
theorem RingAt.append_signature_primary {s : SelfSignature} (h : RingAt packets opening ring)
    (hopened : openRing? packets = some opening) (hfollowed : followedKey? packets = some opening)
    (htag : packet.tag = signatureTag) (hs : SelfSignature.ofBody packet.body = .ok (some s))
    (hissued : s.issuedBy ring.primary.fingerprint ring.primary.keyId = true) :
    RingAt (packets ++ [packet]) opening
      { ring with
        primary := { ring.primary with
          selfSignatures := ring.primary.selfSignatures ++ [s] } } := by
  have hsubkeys : inRing [secretSubkeyTag] opening packets packet = false :=
    inRing_eq_false_of_tag (by rw [htag]; decide)
  have huserIds : inRing [userIdTag] opening packets packet = false :=
    inRing_eq_false_of_tag (by rw [htag]; decide)
  have hprimary := h.primary.append_signature
    (isSelfSignature_eq_true htag hs hissued hfollowed) hs
  have hmiss : ∀ place ∈ places (inRing [secretSubkeyTag] opening) packets,
      isSelfSignature ring.primary place packets packet = false := by
    intro place hmem
    refine isSelfSignature_eq_false fun _ hplace => ?_
    rw [hfollowed, Option.some.injEq] at hplace
    rw [← hplace] at hmem
    exact opening_not_mem (List.mem_of_getLast? hopened) hmem
  have hkeys := keys_append h.subkeys hmiss
  -- Whose signature it is does not depend on the self-signatures of the primary key.
  refine ⟨⟨hprimary.read, hprimary.signatures⟩, ?_, ?_, h.subkeyIds⟩
  · rw [places_append_of_misses hsubkeys]
    exact hkeys.imp fun place key hkey => ⟨hkey.read, hkey.signatures⟩
  · rw [places_append_of_misses huserIds]
    exact forall₂_append h.userIds

/-- A self-signature that follows the newest subkey is added to it. -/
theorem RingAt.append_signature_subkey {s : SelfSignature} {others : List SecretKey}
    {subkey : SecretKey} (h : RingAt packets opening ⟨primary, others ++ [subkey]⟩)
    (hopened : openRing? packets = some opening)
    (hfollowed : followedKey? packets =
      (places (inRing [secretSubkeyTag] opening) packets).getLast?)
    (htag : packet.tag = signatureTag) (hs : SelfSignature.ofBody packet.body = .ok (some s))
    (hissued : s.issuedBy primary.fingerprint primary.keyId = true) :
    RingAt (packets ++ [packet]) opening
      ⟨primary, others ++ [{ subkey with selfSignatures := subkey.selfSignatures ++ [s] }]⟩ := by
  have hsubkeys : inRing [secretSubkeyTag] opening packets packet = false :=
    inRing_eq_false_of_tag (by rw [htag]; decide)
  have huserIds : inRing [userIdTag] opening packets packet = false :=
    inRing_eq_false_of_tag (by rw [htag]; decide)
  obtain ⟨front, last, hsplit, hfront, hlast⟩ := forall₂_of_concat h.subkeys
  have hplace : followedKey? packets = some last := by
    rw [hfollowed, hsplit, List.getLast?_concat]
  have hmiss {place : Nat} (hne : place ≠ last) :
      isSelfSignature primary place packets packet = false :=
    isSelfSignature_eq_false fun _ h => hne (Option.some.inj (h.symm.trans hplace))
  have hlastNotFront : last ∉ front := by
    have hnodup : (front ++ [last]).Nodup := hsplit ▸ nodup_places
    intro hmem
    exact (List.nodup_append.1 hnodup).2.2 last hmem last (List.mem_singleton_self last) rfl
  have hopening : opening ≠ last := by
    rintro rfl
    have hmem := List.mem_of_getLast? hopened
    exact opening_not_mem hmem (by rw [hsplit]; simp)
  refine ⟨h.primary.append (hmiss hopening), ?_, ?_, ?_⟩
  · rw [places_append_of_misses hsubkeys, hsplit]
    refine forall₂_concat (keys_append hfront fun place hmem => hmiss ?_) ?_
    · rintro rfl
      exact hlastNotFront hmem
    · exact hlast.append_signature (isSelfSignature_eq_true htag hs hissued hplace) hs
  · rw [places_append_of_misses huserIds]
    exact forall₂_append h.userIds
  · intro key hkey
    have hids := h.subkeyIds
    rw [List.mem_append, List.mem_singleton] at hkey
    rcases hkey with hkey | rfl
    · exact hids key (List.mem_append_left _ hkey)
    · exact hids subkey (by simp)

end Extension

end ArtifactSigning.KeyRing
