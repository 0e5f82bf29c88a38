import ArtifactSigning.Proofs.Key.RingDescription
import ArtifactSigning.Proofs.Packet.Framing
import ArtifactSigning.Proofs.Step

/-!
# The structure of key rings

Rings are assembled packet by packet. `Grows` says that the ring which grows is the one that the
packets describe, and that signatures go to the key that they follow; `Tracks` is what every step of
the assembly keeps. Together they give the description of all rings in accepted key material.
-/
namespace ArtifactSigning.KeyRing

open Packet Step

section Growth

variable {packets : List Packet} {packet : Packet} {opening : Nat} {ring : Growing}

/-- The ring that grows behind some packets: it is the open one, the packets describe it, and the
key that signatures follow is its newest subkey or its primary key. -/
structure Grows (packets : List Packet) (opening : Nat) (ring : Growing) : Prop where
  opened : openRing? packets = some opening
  described : RingAt packets opening ring.finish
  followed : followedKey? packets =
    if ring.onSubkey then (places (inRing [secretSubkeyTag] opening) packets).getLast?
    else some opening
  subkey : ring.onSubkey = true → ring.subkeys ≠ []

theorem Growing.settled_eq {key : SecretKey} (h : bare key = key) : Growing.settled key = key := by
  rw [← h]
  rfl

/-- A subkey packet adds a subkey, which signatures follow from now on. -/
theorem Grows.add_subkey {subkey : SecretKey} (h : Grows packets opening ring)
    (htag : packet.tag = secretSubkeyTag) (hread : readKey packet = .ok subkey) :
    Grows (packets ++ [packet]) opening
      { ring with subkeys := subkey :: ring.subkeys, onSubkey := true } := by
  obtain ⟨hbare, hsubkey⟩ := readKey_eq_ok hread
  have hother : packet.tag ≠ secretKeyTag := by rw [htag]; decide
  have hsignature : packet.tag ≠ signatureTag := by rw [htag]; decide
  have hmiss (place : Nat) :
      isSelfSignature ring.finish.primary place packets packet = false :=
    isSelfSignature_eq_false fun h => absurd h hsignature
  have hmeets : inRing [secretSubkeyTag] opening packets packet = true :=
    inRing_eq_true h.opened hother (by simp [htag])
  have huserIds : inRing [userIdTag] opening packets packet = false :=
    inRing_eq_false_of_tag (by rw [htag]; decide)
  have hsubkeys : (Growing.finish
      { ring with subkeys := subkey :: ring.subkeys, onSubkey := true }).subkeys =
        ring.finish.subkeys ++ [subkey] := by
    simp [Growing.finish, Growing.settled_eq hbare]
  refine ⟨?_, ⟨?_, ?_, ?_, ?_⟩, ?_, ?_⟩
  · rw [openRing?_append_singleton, if_neg hother, h.opened]
  · exact h.described.primary.append (hmiss _)
  · rw [places_append_of_meets hmeets, hsubkeys]
    exact forall₂_concat (keys_append h.described.subkeys fun place _ => hmiss place)
      (keyAt_length hread hsignature)
  · rw [places_append_of_misses huserIds]
    exact forall₂_append h.described.userIds
  · intro key hkey
    rw [hsubkeys, List.mem_append, List.mem_singleton] at hkey
    rcases hkey with hkey | rfl
    · exact h.described.subkeyIds key hkey
    · rw [← hbare]
      rfl
  · rw [followedKey?_append_singleton, if_pos (by rw [htag]; decide),
      places_append_of_meets hmeets]
    simp
  · simp

/-- A user id packet adds a user id to the primary key, which signatures follow from now on. -/
theorem Grows.add_userId (h : Grows packets opening ring) (htag : packet.tag = userIdTag) :
    Grows (packets ++ [packet]) opening
      { ring with
        primary := { ring.primary with
          userIds := String.ofList (Text.Utf8.decodeLossy packet.body) :: ring.primary.userIds }
        onSubkey := false } := by
  have hother : packet.tag ≠ secretKeyTag := by rw [htag]; decide
  have hmiss (place : Nat) :
      isSelfSignature ring.finish.primary place packets packet = false :=
    isSelfSignature_eq_false fun h => absurd (htag.symm.trans h) (by decide)
  have hmeets : inRing [userIdTag] opening packets packet = true :=
    inRing_eq_true h.opened hother (by simp [htag])
  have hsubkeys : inRing [secretSubkeyTag] opening packets packet = false :=
    inRing_eq_false_of_tag (by rw [htag]; decide)
  have hprimary := h.described.primary.append (hmiss opening)
  have hkeys := keys_append h.described.subkeys fun place _ => hmiss place
  have hlast : ∃ other, (packets ++ [packet])[packets.length]? = some other ∧
      String.ofList (Text.Utf8.decodeLossy packet.body) =
        String.ofList (Text.Utf8.decodeLossy other.body) := ⟨packet, by simp, rfl⟩
  have htexts := forall₂_concat (forall₂_append h.described.userIds) hlast
  -- The identity of the primary key does not depend on its user ids.
  refine ⟨?_, ⟨⟨hprimary.read, hprimary.signatures⟩, ?_, ?_, h.described.subkeyIds⟩, ?_, ?_⟩
  · rw [openRing?_append_singleton, if_neg hother, h.opened]
  · rw [places_append_of_misses hsubkeys]
    exact hkeys.imp fun place key hkey => ⟨hkey.read, hkey.signatures⟩
  · rw [places_append_of_meets hmeets]
    simpa [Growing.finish, Growing.settled] using htexts
  · rw [followedKey?_append_singleton, if_neg (by rw [htag]; decide),
      if_pos (by rw [htag]; decide), h.opened]
    rfl
  · simp

/-- A packet that is neither a key, a user id nor a self-signature leaves the ring as it is. A user
attribute makes signatures follow the primary key. -/
theorem Grows.add_silent {onSubkey : Bool} (h : Grows packets opening ring)
    (hkey : packet.tag ∉ keyTags) (huserId : packet.tag ≠ userIdTag)
    (honSubkey : onSubkey = (decide (packet.tag ≠ userAttributeTag) && ring.onSubkey))
    (hmiss : ∀ place, isSelfSignature ring.finish.primary place packets packet = false) :
    Grows (packets ++ [packet]) opening { ring with onSubkey } := by
  have hopen : packet.tag ≠ secretKeyTag := fun h => hkey (by simp [keyTags, h])
  have hsubkey : packet.tag ≠ secretSubkeyTag := fun h => hkey (by simp [keyTags, h])
  have hmisses : inRing [secretSubkeyTag] opening packets packet = false :=
    inRing_eq_false_of_tag (by simpa using hsubkey)
  refine ⟨?_, h.described.append_silent hsubkey huserId hmiss, ?_, ?_⟩
  · rw [openRing?_append_singleton, if_neg hopen, h.opened]
  · rw [followedKey?_append_singleton, if_neg (by simpa using hkey),
      places_append_of_misses hmisses, honSubkey]
    by_cases hattribute : packet.tag = userAttributeTag
    · rw [if_pos (by rw [hattribute]; decide), h.opened]
      simp [hattribute]
    · have hfollowed : ¬followedTags.contains packet.tag := by
        simp [followedTags, hopen, hsubkey, huserId, hattribute]
      rw [if_neg hfollowed, h.followed]
      simp [hattribute]
  · intro h'
    rw [honSubkey, Bool.and_eq_true] at h'
    exact h.subkey h'.2

/-- A self-signature goes to the key that it follows. -/
theorem Grows.add_signature {s : SelfSignature} (h : Grows packets opening ring)
    (htag : packet.tag = signatureTag) (hs : SelfSignature.ofBody packet.body = .ok (some s))
    (hissued : s.issuedBy ring.primary.fingerprint ring.primary.keyId = true) :
    Grows (packets ++ [packet]) opening (ring.addSignature s) := by
  have hopened : openRing? (packets ++ [packet]) = some opening := by
    rw [openRing?_append_singleton, if_neg (by rw [htag]; decide), h.opened]
  have hfollowed : followedKey? (packets ++ [packet]) = followedKey? packets := by
    rw [followedKey?_append_singleton, if_neg (by rw [htag]; decide),
      if_neg (by rw [htag]; decide)]
  have hplaces : places (inRing [secretSubkeyTag] opening) (packets ++ [packet]) =
      places (inRing [secretSubkeyTag] opening) packets :=
    places_append_of_misses (inRing_eq_false_of_tag (by rw [htag]; decide))
  obtain ⟨primary, subkeys, onSubkey⟩ := ring
  cases onSubkey with
  | false =>
      have hring := h.described.append_signature_primary h.opened h.followed htag hs hissued
      refine ⟨hopened, ?_, by rw [hfollowed]; exact h.followed, fun h => nomatch h⟩
      simpa [Growing.finish, Growing.settled, Growing.addSignature] using hring
  | true =>
      cases subkeys with
      | nil => exact absurd rfl (h.subkey rfl)
      | cons subkey others =>
          have hgrown : RingAt packets opening ⟨Growing.settled primary,
              (others.map Growing.settled).reverse ++ [Growing.settled subkey]⟩ := by
            simpa [Growing.finish] using h.described
          have hring := hgrown.append_signature_subkey h.opened h.followed htag hs hissued
          refine ⟨hopened, ?_, by rw [hfollowed, h.followed, hplaces]; rfl, fun _ => nofun⟩
          simpa [Growing.finish, Growing.settled, Growing.addSignature] using hring

/-- What adding a packet other than an opening one does. -/
theorem Growing.add_cases {grown : Growing} (h : ring.add packet = .ok grown) :
    (packet.tag = secretSubkeyTag ∧ ∃ subkey, readKey packet = .ok subkey ∧
        grown = { ring with subkeys := subkey :: ring.subkeys, onSubkey := true }) ∨
      (packet.tag = userIdTag ∧
        grown = { ring with
          primary := { ring.primary with
            userIds := String.ofList (Text.Utf8.decodeLossy packet.body) :: ring.primary.userIds }
          onSubkey := false }) ∨
      (packet.tag = signatureTag ∧ ∃ s, SelfSignature.ofBody packet.body = .ok (some s) ∧
        s.issuedBy ring.primary.fingerprint ring.primary.keyId = true ∧
        grown = ring.addSignature s) ∨
      (packet.tag ≠ secretSubkeyTag ∧ packet.tag ≠ userIdTag ∧
        (packet.tag = signatureTag → isIssuedBy ring.primary packet.body = false) ∧
        grown = { ring with
          onSubkey := decide (packet.tag ≠ userAttributeTag) && ring.onSubkey }) := by
  rw [add] at h
  by_cases hsubkey : packet.tag = secretSubkeyTag
  · rw [if_pos hsubkey] at h
    obtain ⟨subkey, hread, h⟩ := except_bind_eq_ok.1 h
    refine .inl ⟨hsubkey, subkey, ?_, (Except.ok.inj h).symm⟩
    rw [readKey, decide_eq_true hsubkey, hread]
  rw [if_neg hsubkey] at h
  by_cases huserId : packet.tag = userIdTag
  · rw [if_pos huserId] at h
    exact .inr (.inl ⟨huserId, (Except.ok.inj h).symm⟩)
  rw [if_neg huserId] at h
  by_cases hattribute : packet.tag = userAttributeTag
  · rw [if_pos hattribute] at h
    refine .inr (.inr (.inr ⟨hsubkey, huserId, fun htag => ?_, ?_⟩))
    · rw [hattribute] at htag
      exact absurd htag (by decide)
    · rw [← Except.ok.inj h]
      simp [hattribute]
  rw [if_neg hattribute] at h
  have hsame : ring = { ring with
      onSubkey := decide (packet.tag ≠ userAttributeTag) && ring.onSubkey } := by
    simp [hattribute]
  by_cases hsignature : packet.tag = signatureTag
  · rw [if_pos hsignature] at h
    obtain ⟨found, hs, h⟩ := except_bind_eq_ok.1 h
    cases found with
    | none =>
        exact .inr (.inr (.inr ⟨hsubkey, huserId, fun _ => by rw [isIssuedBy, hs],
          Except.ok.inj h ▸ hsame⟩))
    | some s =>
        simp only at h
        by_cases hissued : s.issuedBy ring.primary.fingerprint ring.primary.keyId
        · rw [if_pos hissued] at h
          exact .inr (.inr (.inl ⟨hsignature, s, hs, hissued, (Except.ok.inj h).symm⟩))
        · rw [if_neg hissued] at h
          refine .inr (.inr (.inr ⟨hsubkey, huserId, fun _ => ?_, Except.ok.inj h ▸ hsame⟩))
          rw [isIssuedBy, hs]
          exact Bool.eq_false_iff.2 hissued
  · rw [if_neg hsignature] at h
    exact .inr (.inr (.inr ⟨hsubkey, huserId, fun htag => absurd htag hsignature,
      Except.ok.inj h ▸ hsame⟩))

/-- What becomes of a ring by a signature packet, from which a signature or none is read. -/
def Growing.attach (ring : Growing) : Option SelfSignature → Growing
  | none => ring
  | some s =>
      if s.issuedBy ring.primary.fingerprint ring.primary.keyId then ring.addSignature s else ring

theorem Growing.add_signature (ring : Growing) (htag : packet.tag = signatureTag) :
    ring.add packet = ring.attach <$> SelfSignature.ofBody packet.body := by
  rw [add, htag, if_neg (by decide), if_neg (by decide), if_neg (by decide), if_pos rfl]
  cases SelfSignature.ofBody packet.body with
  | error failure => rfl
  | ok found =>
      cases found with
      | none => rfl
      | some s =>
          change (if s.issuedBy ring.primary.fingerprint ring.primary.keyId = true then
            Except.ok (ring.addSignature s) else .ok ring) = .ok (ring.attach (some s))
          rw [attach]
          split <;> rfl

/-- The ring that grows keeps growing as the packets say. -/
theorem Grows.add {grown : Growing} (h : Grows packets opening ring)
    (hother : packet.tag ≠ secretKeyTag) (hadd : ring.add packet = .ok grown) :
    Grows (packets ++ [packet]) opening grown := by
  rcases Growing.add_cases hadd with ⟨htag, subkey, hread, rfl⟩ | ⟨htag, rfl⟩ |
    ⟨htag, s, hs, hissued, rfl⟩ | ⟨hsubkey, huserId, hmiss, rfl⟩
  · exact h.add_subkey htag hread
  · exact h.add_userId htag
  · exact h.add_signature htag hs hissued
  · refine h.add_silent (by simp [keyTags, hother, hsubkey]) huserId rfl fun place => ?_
    by_cases htag : packet.tag = signatureTag
    · have hforeign : isIssuedBy ring.finish.primary packet.body = false := hmiss htag
      simp [isSelfSignature, hforeign]
    · exact isSelfSignature_eq_false fun h => absurd h htag

/-- A ring starts with the key in its opening packet. -/
theorem Grows.start {primary : SecretKey} (htag : packet.tag = secretKeyTag)
    (hread : readKey packet = .ok primary) :
    Grows (packets ++ [packet]) packets.length (.start primary) := by
  obtain ⟨hbare, -⟩ := readKey_eq_ok hread
  have hfinish : (Growing.start primary).finish = ⟨primary, []⟩ := by
    simp [Growing.start, Growing.finish, Growing.settled_eq hbare]
  have hsubkeys : inRing [secretSubkeyTag] packets.length packets packet = false :=
    inRing_eq_false_of_tag (by rw [htag]; decide)
  have huserIds : inRing [userIdTag] packets.length packets packet = false :=
    inRing_eq_false_of_tag (by rw [htag]; decide)
  have hnone : primary.userIds = [] := by
    rw [← hbare]
    rfl
  refine ⟨?_, ?_, ?_, fun h => nomatch h⟩
  · rw [openRing?_append_singleton, if_pos htag]
  · rw [hfinish]
    refine ⟨keyAt_length hread (by rw [htag]; decide), ?_, ?_, fun key hkey => nomatch hkey⟩
    · rw [places_append_of_misses hsubkeys, places_inRing_eq_nil (Nat.le_refl _)]
      exact .nil
    · rw [places_append_of_misses huserIds, places_inRing_eq_nil (Nat.le_refl _), hnone]
      exact .nil
  · rw [followedKey?_append_singleton, if_pos (by rw [htag]; decide)]
    rfl

end Growth

section Assembling

variable {packets : List Packet} {packet : Packet} {assembly next : Assembly}

/-- What a step of the assembly keeps: the rings so far are those of the packets so far. -/
structure Tracks (packets : List Packet) (assembly : Assembly) : Prop where
  keys : readKeys packets = .ok ((allKeys assembly.reversed.reverse).map bare)
  rings : match assembly.growing? with
    | none => assembly.complete = [] ∧ places (hasTag [secretKeyTag]) packets = []
    | some ring => ∃ openings opening,
        places (hasTag [secretKeyTag]) packets = openings ++ [opening] ∧
        List.Forall₂ (RingAt packets) openings assembly.complete.reverse ∧
        Grows packets opening ring

theorem Tracks.empty : Tracks [] .empty := ⟨rfl, rfl, rfl⟩

/-- The description of all rings, the growing one among them. -/
theorem Tracks.described (h : Tracks packets assembly) :
    Describes packets assembly.reversed.reverse := by
  refine ⟨h.keys, ?_⟩
  obtain ⟨complete, growing?⟩ := assembly
  cases growing? with
  | none =>
      obtain ⟨hcomplete, hplaces⟩ := h.rings
      subst hcomplete
      rw [hplaces]
      exact .nil
  | some ring =>
      obtain ⟨openings, opening, hplaces, hcomplete, hgrows⟩ := h.rings
      rw [hplaces, Assembly.reversed, List.reverse_cons]
      exact forall₂_concat hcomplete hgrows.described

/-- A packet that opens no ring leaves the complete rings as they are. -/
theorem complete_append {openings : List Nat} {opening : Nat} {rings : List KeyRing}
    {ring : Growing}
    (hplaces : places (hasTag [secretKeyTag]) packets = openings ++ [opening])
    (hgrows : Grows packets opening ring) (hother : packet.tag ≠ secretKeyTag)
    (h : List.Forall₂ (RingAt packets) openings rings) :
    List.Forall₂ (RingAt (packets ++ [packet])) openings rings := by
  refine List.forall₂_iff_zip.2 ⟨h.length_eq, fun {other done} hmem => ?_⟩
  have hother' : other ∈ openings := (List.of_mem_zip hmem).1
  have hplace : other ∈ places (hasTag [secretKeyTag]) packets := by
    rw [hplaces]
    exact List.mem_append_left _ hother'
  have hne : opening ≠ other := by
    rintro rfl
    have hnodup : (openings ++ [opening]).Nodup := hplaces ▸ nodup_places
    exact (List.nodup_append.1 hnodup).2.2 opening hother' opening
      (List.mem_singleton_self opening) rfl
  refine ((List.forall₂_iff_zip.1 h).2 hmem).append_other ?_ fun _ place hfollowed => ?_
  · rw [openRing?_append_singleton, if_neg hother, hgrows.opened]
    exact fun h => hne (Option.some.inj h)
  · rw [hgrows.followed] at hfollowed
    split at hfollowed
    · -- A subkey of the open ring is neither an opening nor a subkey of another ring.
      have hsubkey := List.mem_of_getLast? hfollowed
      refine ⟨?_, fun h => hne (eq_of_mem_inRing hsubkey h)⟩
      rintro rfl
      exact opening_not_mem hplace hsubkey
    · obtain rfl := Option.some.inj hfollowed
      exact ⟨hne, opening_not_mem (List.mem_of_getLast? hgrows.opened)⟩

theorem readKeys_append_key {keys : List SecretKey} {key : SecretKey}
    (h : readKeys packets = .ok keys) (htag : keyTags.contains packet.tag)
    (hread : readKey packet = .ok key) : readKeys (packets ++ [packet]) = .ok (keys ++ [key]) := by
  rw [readKeys] at h ⊢
  have hfilter : [packet].filter (fun packet => keyTags.contains packet.tag) = [packet] :=
    List.filter_eq_self.2 (by simpa using htag)
  rw [List.filter_append, List.mapM_append, h, hfilter, List.mapM_cons, hread]
  rfl

theorem readKeys_append_other (htag : ¬keyTags.contains packet.tag) :
    readKeys (packets ++ [packet]) = readKeys packets := by
  have hfilter : [packet].filter (fun packet => keyTags.contains packet.tag) = [] :=
    List.filter_eq_nil_iff.2 (by simpa using htag)
  rw [readKeys, readKeys, List.filter_append, hfilter, List.append_nil]

theorem Growing.keys_addSignature (ring : Growing) (s : SelfSignature) :
    (ring.addSignature s).finish.keys.map bare = ring.finish.keys.map bare := by
  obtain ⟨primary, subkeys, onSubkey⟩ := ring
  cases onSubkey <;> cases subkeys <;> simp [addSignature, finish, settled, keys, bare]

/-- A ring gains a key from a subkey packet, and from no other. -/
theorem Growing.add_keys {ring grown : Growing} {before : List SecretKey}
    (hother : packet.tag ≠ secretKeyTag) (hadd : ring.add packet = .ok grown)
    (h : readKeys packets = .ok (before ++ ring.finish.keys.map bare)) :
    readKeys (packets ++ [packet]) = .ok (before ++ grown.finish.keys.map bare) := by
  rcases add_cases hadd with ⟨htag, subkey, hread, rfl⟩ | ⟨htag, rfl⟩ |
    ⟨htag, s, hs, hissued, rfl⟩ | ⟨hsubkey, huserId, hmiss, rfl⟩
  · obtain ⟨hbare, -⟩ := readKey_eq_ok hread
    rw [readKeys_append_key h (by rw [htag]; decide) hread]
    simp [keys, finish, settled_eq hbare, hbare]
  · rw [readKeys_append_other (by rw [htag]; decide), h]
    rfl
  · rw [readKeys_append_other (by rw [htag]; decide), h, keys_addSignature]
  · rw [readKeys_append_other (by simp [keyTags, hother, hsubkey]), h]
    rfl

theorem Assembly.step_key_eq_ok (htag : packet.tag = secretKeyTag) :
    assembly.step packet = .ok next ↔ ∃ primary, readKey packet = .ok primary ∧
      next = ⟨assembly.reversed, some (.start primary)⟩ := by
  have hread : readKey packet = SecretKey.ofBody packet.body false := by
    rw [readKey, htag]
    rfl
  rw [step, if_pos htag, hread, except_bind_eq_ok]
  constructor
  · rintro ⟨primary, hprimary, h⟩
    exact ⟨primary, hprimary, (Except.ok.inj h).symm⟩
  · rintro ⟨primary, hprimary, rfl⟩
    exact ⟨primary, hprimary, rfl⟩

/-- What a step with a packet that opens no ring does. -/
theorem Assembly.step_other_eq_ok (hother : packet.tag ≠ secretKeyTag) :
    assembly.step packet = .ok next ↔
      ¬(packet.tag = publicKeyTag ∨ packet.tag = publicSubkeyTag) ∧
        ((assembly.growing? = none ∧ (packet.tag = markerTag ∨ packet.tag = paddingTag) ∧
            next = assembly) ∨
          ∃ ring grown, assembly.growing? = some ring ∧ ring.add packet = .ok grown ∧
            next = { assembly with growing? := some grown }) := by
  rw [step, if_neg hother]
  by_cases hpublic : packet.tag = publicKeyTag ∨ packet.tag = publicSubkeyTag
  · simp [hpublic]
  rw [if_neg hpublic]
  obtain ⟨complete, growing?⟩ := assembly
  cases growing? with
  | none =>
      by_cases htag : packet.tag = markerTag ∨ packet.tag = paddingTag
      · simp only [if_pos htag]
        constructor
        · intro h
          exact ⟨hpublic, .inl ⟨trivial, htag, (Except.ok.inj h).symm⟩⟩
        · rintro ⟨-, ⟨-, -, rfl⟩ | ⟨ring, grown, hsome, -⟩⟩
          · rfl
          · cases hsome
      · simp [htag]
  | some ring =>
      simp only [except_bind_eq_ok]
      constructor
      · rintro ⟨grown, hadd, h⟩
        exact ⟨hpublic, .inr ⟨ring, grown, rfl, hadd, (Except.ok.inj h).symm⟩⟩
      · rintro ⟨-, ⟨hnone, -⟩ | ⟨ring', grown, hsome, hadd, rfl⟩⟩
        · cases hnone
        · obtain rfl := Option.some.inj hsome
          exact ⟨grown, hadd, rfl⟩

/-- A signature goes to the ring that grows. -/
theorem Assembly.step_signature {found : Option SelfSignature}
    (hgrowing : assembly.growing? = some ring) (htag : packet.tag = signatureTag)
    (hfound : SelfSignature.ofBody packet.body = .ok found) :
    assembly.step packet = .ok { assembly with growing? := some (ring.attach found) } := by
  have hadd : ring.add packet = .ok (ring.attach found) := by
    rw [ring.add_signature htag, hfound]
    rfl
  refine (step_other_eq_ok (by rw [htag]; decide)).2 ⟨?_, .inr ⟨ring, _, hgrowing, hadd, rfl⟩⟩
  rw [htag]
  decide

/-- Every step keeps the rings those of the packets so far. -/
theorem Tracks.step (h : Tracks packets assembly) (hstep : assembly.step packet = .ok next) :
    Tracks (packets ++ [packet]) next := by
  by_cases hopens : packet.tag = secretKeyTag
  · obtain ⟨primary, hread, rfl⟩ := (Assembly.step_key_eq_ok hopens).1 hstep
    obtain ⟨hbare, -⟩ := readKey_eq_ok hread
    have hplaces : places (hasTag [secretKeyTag]) (packets ++ [packet]) =
        places (hasTag [secretKeyTag]) packets ++ [packets.length] :=
      places_append_of_meets (by simp [hasTag, hopens])
    refine ⟨?_, places (hasTag [secretKeyTag]) packets, packets.length, hplaces, ?_,
      .start hopens hread⟩
    · rw [readKeys_append_key h.keys (by rw [hopens]; decide) hread]
      simp [Assembly.reversed, Growing.start, Growing.finish, allKeys, KeyRing.keys,
        Growing.settled_eq hbare, hbare]
    · -- A key opens a ring of its own, so it is in no earlier one.
      refine List.forall₂_iff_zip.2 ⟨h.described.rings.length_eq, fun {other done} hmem => ?_⟩
      have hlt := lt_length_of_mem_places (List.of_mem_zip hmem).1
      refine ((List.forall₂_iff_zip.1 h.described.rings).2 hmem).append_other ?_ fun htag => ?_
      · rw [openRing?_append_singleton, if_pos hopens]
        exact fun h => absurd (Option.some.inj h) (by omega)
      · rw [hopens] at htag
        exact absurd htag (by decide)
  · have hplaces : places (hasTag [secretKeyTag]) (packets ++ [packet]) =
        places (hasTag [secretKeyTag]) packets :=
      places_append_of_misses (by simpa [hasTag] using hopens)
    obtain ⟨-, ⟨hnone, htag, rfl⟩ | ⟨ring, grown, hsome, hadd, rfl⟩⟩ :=
      (Assembly.step_other_eq_ok hopens).1 hstep
    · refine ⟨?_, ?_⟩
      · have hkey : ¬keyTags.contains packet.tag := by
          rcases htag with htag | htag <;> rw [htag] <;> decide
        rw [readKeys_append_other hkey, h.keys]
      · have hrings := h.rings
        rw [hnone] at hrings ⊢
        exact ⟨hrings.1, hplaces.trans hrings.2⟩
    · have hkeys := h.keys
      have hrings := h.rings
      obtain ⟨complete, growing?⟩ := assembly
      cases hsome
      obtain ⟨openings, opening, hbefore, hcomplete, hgrows⟩ := hrings
      refine ⟨?_, openings, opening, hplaces.trans hbefore,
        complete_append hbefore hgrows hopens hcomplete, hgrows.add hopens hadd⟩
      have hkept : readKeys packets =
          .ok ((allKeys complete.reverse).map bare ++ ring.finish.keys.map bare) := by
        simpa [Assembly.reversed, allKeys] using hkeys
      have hgained := Growing.add_keys hopens hadd hkept
      simpa [Assembly.reversed, allKeys] using hgained

/-- A whole run of the assembly, packet after packet. -/
theorem Tracks.run {more : List Packet} (h : Tracks packets assembly)
    (hrun : more.foldlM Assembly.step assembly = .ok next) : Tracks (packets ++ more) next := by
  induction more generalizing packets assembly with
  | nil =>
      obtain rfl := Except.ok.inj hrun
      rwa [List.append_nil]
  | cons packet more ih =>
      rw [List.foldlM_cons] at hrun
      obtain ⟨middle, hstep, hrun⟩ := except_bind_eq_ok.1 hrun
      rw [List.append_cons]
      exact ih (h.step hstep) hrun

/-- Packets are accepted if every step succeeds, nothing stopped the reading and there is a ring. -/
theorem ofScan_eq_ok_iff {scan : Packet.Scan} {rings : List KeyRing} :
    ofScan scan = .ok rings ↔ ∃ assembly,
      scan.packets.foldlM Assembly.step Assembly.empty = .ok assembly ∧
        scan.failure? = none ∧ assembly.reversed ≠ [] ∧ rings = assembly.reversed.reverse := by
  rw [ofScan, except_bind_eq_ok]
  refine exists_congr fun assembly => and_congr_right fun _ => ?_
  split
  · rename_i hfailure
    simp [hfailure]
  · rename_i hfailure hnil
    simp [hfailure, List.reverse_eq_nil_iff.1 hnil]
  · rename_i hfailure hne
    have hsome : assembly.reversed ≠ [] := fun hnil => hne (by rw [hnil]; rfl)
    simp [hfailure, hsome, eq_comm]

theorem ofPackets_eq_ok_iff {rings : List KeyRing} :
    ofPackets packets = .ok rings ↔ ∃ assembly,
      packets.foldlM Assembly.step Assembly.empty = .ok assembly ∧
        assembly.reversed ≠ [] ∧ rings = assembly.reversed.reverse := by
  rw [ofPackets, ofScan_eq_ok_iff]
  simp only [true_and]

/-- A primary key and a signature behind it make one ring. -/
theorem ofPackets_signed_key {key signature : Packet} {primary : SecretKey}
    {found : Option SelfSignature} (hkey : key.tag = secretKeyTag)
    (hread : readKey key = .ok primary) (htag : signature.tag = signatureTag)
    (hfound : SelfSignature.ofBody signature.body = .ok found) :
    ofPackets [key, signature] = .ok [((Growing.start primary).attach found).finish] := by
  have hopens : Assembly.empty.step key = .ok ⟨[], some (.start primary)⟩ :=
    (Assembly.step_key_eq_ok hkey).2 ⟨primary, hread, rfl⟩
  have hsigned : Assembly.step ⟨[], some (.start primary)⟩ signature =
      .ok ⟨[], some ((Growing.start primary).attach found)⟩ :=
    Assembly.step_signature rfl htag hfound
  have hrun : [key, signature].foldlM Assembly.step .empty =
      .ok ⟨[], some ((Growing.start primary).attach found)⟩ :=
    except_bind_eq_ok.2 ⟨_, hopens, except_bind_eq_ok.2 ⟨_, hsigned, rfl⟩⟩
  exact ofPackets_eq_ok_iff.2 ⟨_, hrun, by simp [Assembly.reversed], rfl⟩

/-- The packets that key material holds, armored or not. -/
def Holds (material : Bytes) (packets : List Packet) : Prop :=
  ∃ octets, binary material = .ok octets ∧ Frames packets octets

theorem holds_of_frames {octets : Bytes} (hbinary : Armor.isArmored octets = false)
    (h : Frames packets octets) : Holds octets packets :=
  ⟨octets, by rw [binary, if_neg (by rw [hbinary]; decide)], h⟩

theorem Holds.ofMaterial_eq {material : Bytes} (h : Holds material packets) :
    ofMaterial material = ofPackets packets := by
  obtain ⟨octets, hbinary, hframes⟩ := h
  rw [ofMaterial, hbinary, ofPackets, ← scan_complete_iff.2 hframes]
  rfl

/-- The rings in accepted key material are those that its packets describe. -/
theorem rings_described {material : Bytes} {rings : List KeyRing}
    (h : ofMaterial material = .ok rings) :
    ∃ octets packets, binary material = .ok octets ∧
      Packet.scan octets = ⟨packets, none⟩ ∧ Describes packets rings := by
  obtain ⟨octets, hbinary, h⟩ := except_bind_eq_ok.1 h
  obtain ⟨assembly, hfold, hfailure, -, rfl⟩ := ofScan_eq_ok_iff.1 h
  have hscan : Packet.scan octets = ⟨(Packet.scan octets).packets, none⟩ := by
    rw [← hfailure]
  have htracks := Tracks.empty.run hfold
  rw [List.nil_append] at htracks
  exact ⟨octets, _, hbinary, hscan, htracks.described⟩

/-- A primary key with a user id, and a subkey with a self-signature that names no issuer. -/
theorem rings_described_with_subkey :
    ∃ rings, ofMaterial [0x94, 14, 4, 0, 0, 0, 0, 1, 0, 1, 1, 0, 1, 1, 0, 0, 0xB4, 1, 0x61,
        0x9C, 14, 4, 0, 0, 0, 0, 1, 0, 1, 1, 0, 1, 1, 0, 0,
        0x88, 8, 4, 0x18, 1, 8, 0, 0, 0, 0] = .ok rings ∧
      ∃ octets packets, binary [0x94, 14, 4, 0, 0, 0, 0, 1, 0, 1, 1, 0, 1, 1, 0, 0,
          0xB4, 1, 0x61, 0x9C, 14, 4, 0, 0, 0, 0, 1, 0, 1, 1, 0, 1, 1, 0, 0,
          0x88, 8, 4, 0x18, 1, 8, 0, 0, 0, 0] = .ok octets ∧
        Packet.scan octets = ⟨packets, none⟩ ∧ Describes packets rings := by
  have hkey : Frame ⟨5, [4, 0, 0, 0, 0, 1, 0, 1, 1, 0, 1, 1, 0, 0]⟩
      [0x94, 14, 4, 0, 0, 0, 0, 1, 0, 1, 1, 0, 1, 1, 0, 0] :=
    frame_of_encode (show encode 5 _ = _ from rfl)
  have huserId : Frame ⟨13, [0x61]⟩ [0xB4, 1, 0x61] :=
    frame_of_encode (show encode 13 _ = _ from rfl)
  have hsubkey : Frame ⟨7, [4, 0, 0, 0, 0, 1, 0, 1, 1, 0, 1, 1, 0, 0]⟩
      [0x9C, 14, 4, 0, 0, 0, 0, 1, 0, 1, 1, 0, 1, 1, 0, 0] :=
    frame_of_encode (show encode 7 _ = _ from rfl)
  have hsignature : Frame ⟨2, [4, 0x18, 1, 8, 0, 0, 0, 0]⟩
      [0x88, 8, 4, 0x18, 1, 8, 0, 0, 0, 0] :=
    frame_of_encode (show encode 2 _ = _ from rfl)
  have hscan := scan_complete_iff.2
    (.cons hkey (.cons huserId (.cons hsubkey (.cons hsignature .nil))))
  have hs : SelfSignature.ofBody [4, 0x18, 1, 8, 0, 0, 0, 0] =
      .ok (some ⟨0x18, none, none, none, none⟩) := by cbv
  have hrings : ∃ rings, ofMaterial [0x94, 14, 4, 0, 0, 0, 0, 1, 0, 1, 1, 0, 1, 1, 0, 0,
      0xB4, 1, 0x61, 0x9C, 14, 4, 0, 0, 0, 0, 1, 0, 1, 1, 0, 1, 1, 0, 0,
      0x88, 8, 4, 0x18, 1, 8, 0, 0, 0, 0] = .ok rings := by
    obtain ⟨primary, hprimary⟩ : ∃ key,
        SecretKey.ofBody [4, 0, 0, 0, 0, 1, 0, 1, 1, 0, 1, 1, 0, 0] false = .ok key := ⟨_, rfl⟩
    obtain ⟨subkey, hread⟩ : ∃ key,
        SecretKey.ofBody [4, 0, 0, 0, 0, 1, 0, 1, 1, 0, 1, 1, 0, 0] true = .ok key := ⟨_, rfl⟩
    let signed : SecretKey := { subkey with
      selfSignatures := ⟨0x18, none, none, none, none⟩ :: subkey.selfSignatures }
    let named : SecretKey := { primary with
      userIds := String.ofList (Text.Utf8.decodeLossy [0x61]) :: primary.userIds }
    refine ⟨[Growing.finish ⟨named, [signed], true⟩], (congrArg ofScan hscan).trans ?_⟩
    simp [ofScan, Assembly.step, Growing.add, Assembly.empty, hprimary, hread, hs, named, signed,
      secretKeyTag, publicKeyTag, publicSubkeyTag, secretSubkeyTag, userIdTag, signatureTag,
      userAttributeTag, SelfSignature.issuedBy, Growing.start, Assembly.reversed,
      Growing.addSignature]
    rfl
  obtain ⟨rings, hrings⟩ := hrings
  exact ⟨rings, hrings, rings_described hrings⟩

end Assembling

end ArtifactSigning.KeyRing
