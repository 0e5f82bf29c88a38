import ArtifactSigning.Proofs.Gpg.VersionText
import ArtifactSigning.Proofs.Text.Separated
import Mathlib.Data.List.Basic

/-!
# The banner of the tool

The tool introduces itself with a banner: its own name, a name in parentheses, its version and
possibly more. The version is read from the first dotted number of this line. So it is the one that
the banner announces, unless there is a dotted number in the name.
-/
namespace ArtifactSigning.Version

open Text

/-- How banners begin. -/
def bannerHeads : List (List Char) := ["gpg (".toList, "gpg2 (".toList]

/-- A line that has the shape of a banner, but for the blanks around it. -/
def IsBannerLine (line : List Char) : Prop :=
  ∃ head ∈ bannerHeads, ∃ name rest, strip line = head ++ (name ++ (") ".toList ++ rest)) ∧
    name ≠ [] ∧ ')' ∉ name ∧ rest ≠ []

/-- The first line of an output that has the shape of a banner. -/
def IsFirstBanner (output line : List Char) : Prop :=
  IsBannerLine line ∧ ∃ before after, splitLines output = before ++ line :: after ∧
    ∀ other ∈ before, ¬IsBannerLine other

/-- A line that gives a name in parentheses and a version. What follows the version is set off by a
space, and blanks may stand around the line. -/
def Announces (line name : List Char) (v : Version) : Prop :=
  ∃ lead head suffix trail,
    line = lead ++ (head ++ name ++ ") ".toList ++ v.text.toList ++ suffix) ++ trail ∧
      head ∈ bannerHeads ∧ ')' ∉ name ∧ (∀ c ∈ suffix.head?, c = ' ') ∧
      (∀ c ∈ lead, isBlank c = true) ∧ ∀ c ∈ trail, isBlank c = true

variable {output line name : List Char} {v : Version}

section Shape

theorem findSome?_heads {text rest : List Char} :
    ([" (".toList, "2 (".toList].findSome? fun mark => ("gpg".toList ++ mark).isPrefixOf? text) =
      some rest ↔ ∃ head ∈ bannerHeads, text = head ++ rest := by
  constructor
  · intro h
    obtain ⟨mark, hmark, hprefix⟩ := List.exists_of_findSome?_eq_some h
    refine ⟨"gpg".toList ++ mark, ?_, (List.isPrefixOf?_eq_some_iff_append_eq.1 hprefix).symm⟩
    rcases List.mem_cons.1 hmark with rfl | hmark
    · decide
    · rw [List.mem_singleton.1 hmark]
      decide
  · rintro ⟨head, hhead, rfl⟩
    rcases List.mem_cons.1 hhead with rfl | hhead
    · rfl
    · rw [List.mem_singleton.1 hhead]
      rfl

/-- A closing parenthesis ends the name in parentheses. -/
theorem span_name (h : ')' ∉ name) (rest : List Char) :
    (name ++ ')' :: rest).takeWhile (· ≠ ')') = name ∧
      (name ++ ')' :: rest).dropWhile (· ≠ ')') = ')' :: rest := by
  have hother := decide_ne_of_not_mem h
  rw [List.takeWhile_append_of_pos hother, List.dropWhile_append_of_pos hother]
  simp

/-- The test for a banner is one for its shape. -/
theorem isBanner_iff : isBanner (strip line) = true ↔ IsBannerLine line := by
  constructor
  · intro h
    rw [isBanner] at h
    split at h
    · cases h
    · rename_i text hfind
      obtain ⟨head, hhead, hline⟩ := findSome?_heads.1 hfind
      rw [Bool.and_eq_true] at h
      obtain ⟨hname, hrest⟩ := h
      split at hrest
      · rename_i c rest hdrop
        have hsplit := List.takeWhile_append_dropWhile (p := (· ≠ ')')) (l := text)
        rw [hdrop] at hsplit
        refine ⟨head, hhead, text.takeWhile (· ≠ ')'), c :: rest, ?_, by simpa using hname, ?_,
          List.cons_ne_nil _ _⟩
        · exact hline.trans (congrArg (head ++ ·) hsplit.symm)
        · intro hmem
          simpa using List.mem_takeWhile_imp hmem
      · cases hrest
  · rintro ⟨head, hhead, name, rest, hline, hne, hname, hrest⟩
    obtain ⟨c, rest, rfl⟩ := List.exists_cons_of_ne_nil hrest
    have hfind := findSome?_heads.2
      ⟨head, hhead, show strip line = head ++ (name ++ ')' :: ' ' :: c :: rest) from hline⟩
    obtain ⟨htake, hdrop⟩ := span_name hname (' ' :: c :: rest)
    simp only [isBanner, hfind, htake, hdrop]
    simpa using hne

theorem ofOutput_of_isFirstBanner (h : IsFirstBanner output line) :
    ofOutput output = (ofText line).map some := by
  obtain ⟨hbanner, before, after, hlines, hbefore⟩ := h
  have hfind : (splitLines output).find? (fun line => isBanner (strip line)) = some line := by
    rw [List.find?_eq_some_iff_append]
    refine ⟨isBanner_iff.2 hbanner, before, after, hlines, fun other hother => ?_⟩
    simpa using mt isBanner_iff.1 (hbefore other hother)
  rw [ofOutput, hfind]

end Shape

section Reading

theorem StandsBehind.of_isBlank {after : List Char} (h : ∀ c ∈ after.head?, isBlank c = true) :
    StandsBehind after := by
  cases after with
  | nil => exact standsBehind_nil
  | cons c rest => exact .of_isMark (isMark_of_isBlank (h c rfl)) rest

/-- In front of the name in parentheses a banner has no joint, and behind its version it has a
blank. -/
theorem Announces.exists_front (h : Announces line name v) : ∃ front after,
    line = front ++ '(' :: (name ++ ')' :: ' ' :: (v.text.toList ++ after)) ∧
      (∀ i, ¬IsJoint front i) ∧ StandsBehind after := by
  obtain ⟨lead, head, suffix, trail, rfl, hhead, -, hsuffix, hlead, htrail⟩ := h
  have hopens : ∃ tool, head = tool ++ ['('] ∧ '.' ∉ tool := by
    rcases List.mem_cons.1 hhead with rfl | hhead
    · exact ⟨"gpg ".toList, rfl, by decide⟩
    · obtain rfl := List.mem_singleton.1 hhead
      exact ⟨"gpg2 ".toList, rfl, by decide⟩
  obtain ⟨tool, rfl, htool⟩ := hopens
  refine ⟨lead ++ tool, suffix ++ trail, by simp, not_isJoint_of_not_mem ?_, .of_isBlank ?_⟩
  · intro hmem
    rcases List.mem_append.1 hmem with hmem | hmem
    · exact (isMark_of_isBlank (hlead _ hmem)).2 rfl
    · exact htool hmem
  · intro c hc
    cases suffix with
    | nil => exact htrail c (List.mem_of_mem_head? hc)
    | cons d suffix =>
        obtain rfl := hsuffix c hc
        decide

/-- Up to its version, a banner has only the joints of the name. -/
theorem Announces.ofText_eq (h : Announces line name v) :
    ((∀ i, ¬IsJoint name i) → v.IsReadable → ofText line = .ok v) ∧
      ((∃ i, IsJoint name i) → ofText line = ofText name) := by
  obtain ⟨front, after, rfl, hfront, hafter⟩ := h.exists_front
  refine ⟨fun hname hv => ?_, ofText_between hfront (by decide) (by decide)⟩
  have hspace : StandsBefore [' '] :=
    standsBefore_nil.append_mark standsBefore_nil.joint (by decide)
  have hbefore : StandsBefore (front ++ '(' :: (name ++ ')' :: [' '])) :=
    (hspace.append_mark hname (by decide)).append_mark hfront (by decide)
  simpa using ofText_append hv hbefore hafter

end Reading

/-- The version of the first banner is read unless the name in its parentheses has a joint. Then the
number in the name is read. -/
theorem version_of_first_banner (hfirst : IsFirstBanner output line)
    (hline : Announces line name v) :
    (ofOutput output = .ok (some v) ↔
        (∀ i, ¬IsJoint name i) ∧ v.IsReadable ∨ ofText name = .ok v) ∧
      ((∃ i, IsJoint name i) → ofOutput output = (ofText name).map some) := by
  obtain ⟨hown, hname⟩ := hline.ofText_eq
  have hread : ofOutput output = .ok (some v) ↔ ofText line = .ok v := by
    rw [ofOutput_of_isFirstBanner hfirst]
    cases ofText line <;> simp [Except.map]
  rw [hread, ofOutput_of_isFirstBanner hfirst]
  refine ⟨⟨fun h => ?_, ?_⟩, fun hjoint => by rw [hname hjoint]⟩
  · by_cases hjoint : ∃ i, IsJoint name i
    · exact .inr (hname hjoint ▸ h)
    · exact .inl ⟨not_exists.1 hjoint, isReadable_of_ofText h⟩
  · rintro (⟨hnone, hv⟩ | h)
    · exact hown hnone hv
    · by_cases hjoint : ∃ i, IsJoint name i
      · rw [hname hjoint, h]
      · rw [ofText_of_not_isJoint (not_exists.1 hjoint)] at h
        cases h

/-- The numbers in front of the banner, behind its version and in later lines are passed over. -/
theorem version_of_first_banner_in_lines :
    let line := " gpg (GnuPG/MacGPG2) 2.2.10 (Gpg4win 2.2.3)".toList
    let output := "libgcrypt 1.8.5\n".toList ++ line ++ "\nHome: 9.9".toList
    IsFirstBanner output line ∧ Announces line "GnuPG/MacGPG2".toList ⟨[2, 2, 10]⟩ ∧
      ofOutput output = .ok (some ⟨[2, 2, 10]⟩) := by
  intro line output
  have hfirst : IsFirstBanner output line := by
    refine ⟨isBanner_iff.1 (by decide), ["libgcrypt 1.8.5".toList], ["Home: 9.9".toList],
      by decide +kernel, fun other hother => ?_⟩
    obtain rfl := List.mem_singleton.1 hother
    exact mt isBanner_iff.2 (by decide)
  have hline : Announces line "GnuPG/MacGPG2".toList ⟨[2, 2, 10]⟩ :=
    ⟨[' '], "gpg (".toList, ' ' :: "(Gpg4win 2.2.3)".toList, [], by decide, by decide, by decide,
      fun _ hc => (Option.some.inj hc).symm, List.forall_mem_singleton.2 (by decide), nofun⟩
  have hname : ∀ i, ¬IsJoint "GnuPG/MacGPG2".toList i := not_isJoint_of_not_mem (by decide)
  have hread := (version_of_first_banner hfirst hline).1.2 (.inl ⟨hname, by decide +kernel⟩)
  exact ⟨hfirst, hline, hread⟩

/-- A dotted number in the name is taken for the version. -/
theorem version_of_dotted_name :
    let line := "gpg (GnuPG 1.4) 2.2.0".toList
    IsFirstBanner line line ∧ Announces line "GnuPG 1.4".toList ⟨[2, 2, 0]⟩ ∧
      IsReadable ⟨[2, 2, 0]⟩ ∧ ofOutput line = .ok (some ⟨[1, 4]⟩) := by
  intro line
  have hfirst : IsFirstBanner line line :=
    ⟨isBanner_iff.1 (by decide), [], [], by decide +kernel, nofun⟩
  have hline : Announces line "GnuPG 1.4".toList ⟨[2, 2, 0]⟩ :=
    ⟨[], "gpg (".toList, [], [], by decide, by decide, by decide, nofun, nofun, nofun⟩
  have hname : ofText "GnuPG 1.4".toList = .ok ⟨[1, 4]⟩ := by
    have htool : ∀ i, ¬IsJoint "GnuPG".toList i := not_isJoint_of_not_mem (by decide)
    have hbefore : StandsBefore "GnuPG ".toList :=
      standsBefore_nil.append_mark htool (show IsMark ' ' by decide)
    exact ofText_append (v := ⟨[1, 4]⟩) (by decide +kernel) hbefore standsBehind_nil
  have hread : ofOutput line = (ofText "GnuPG 1.4".toList).map some := by
    rw [ofOutput_of_isFirstBanner hfirst, hline.ofText_eq.2 ⟨6, by decide⟩]
  rw [hname] at hread
  exact ⟨hfirst, hline, by decide +kernel, hread⟩

end ArtifactSigning.Version
