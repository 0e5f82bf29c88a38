import ArtifactSigning.Text.Raw

/-!
# Files of variables

A file of variables assigns texts to names, one statement a line: `name=value`, perhaps after the
word `export`. A value stands alone up to the end of the line or a remark, or between quotation
marks, and then it may hold line breaks. References `${name}` in a value are replaced by the value
of that variable, and `${name:-text}` by the text where there is no such variable. A malformed
statement is dropped up to the end of the line in which it goes wrong; `malformedLines` says where
such statements begin.
-/
namespace ArtifactSigning.VariableFile

/-- The characters that end a line. -/
def isLineEnd (c : Char) : Bool := c = '\n' || c = '\r'

/-- The blanks within a line. -/
def isInlineBlank (c : Char) : Bool := Text.isBlank c && !isLineEnd c

/-- A text with a line feed for every line end. -/
def withLineFeeds : List Char → List Char
  | '\r' :: '\n' :: rest => '\n' :: withLineFeeds rest
  | '\r' :: rest => '\n' :: withLineFeeds rest
  | c :: rest => c :: withLineFeeds rest
  | [] => []

/-- A position in a text: what is left of the text, and the number of the line in which this
begins. -/
structure Position where
  line : Nat
  rest : List Char

namespace Position

/-- The start of a text, behind its byte order mark if it has one. -/
def start (text : List Char) : Position :=
  match text with
  | '\ufeff' :: text => ⟨1, withLineFeeds text⟩
  | text => ⟨1, withLineFeeds text⟩

/-- The position behind some characters, with what is left after them. -/
def behind (p : Position) (passed rest : List Char) : Position :=
  ⟨p.line + passed.count '\n', rest⟩

/-- Whether a line ends at a position, or the text. -/
def atLineEnd (p : Position) : Bool := p.rest.head?.all isLineEnd

end Position

/-- The word that may stand before a name. -/
def exportWord : List Char := "export".toList

/-- A text without the word `export` and the blanks after it. -/
def skipExport (text : List Char) : List Char :=
  let rest := text.drop exportWord.length
  if exportWord.isPrefixOf text && rest.head?.any isInlineBlank then rest.dropWhile isInlineBlank
  else text

/-- Takes off what stands before a mark. A backslash keeps the character after it from being the
mark. `passed` are the characters so far, the last one first. -/
def cutQuoted (mark : Char) (passed : List Char) : List Char → Option (List Char × List Char)
  | [] => none
  | '\\' :: c :: rest => cutQuoted mark (c :: '\\' :: passed) rest
  | c :: rest =>
      if c = mark then some (passed.reverse, rest) else cutQuoted mark (c :: passed) rest

theorem length_of_cutQuoted {mark : Char} {passed text content rest : List Char}
    (h : cutQuoted mark passed text = some (content, rest)) : rest.length ≤ text.length := by
  fun_induction cutQuoted mark passed text with
  | case1 => simp at h
  | case2 passed c text ih =>
      have := ih h
      simp only [List.length_cons]
      omega
  | case3 passed c text =>
      simp only [Option.some.injEq, Prod.mk.injEq] at h
      rw [← h.2]
      exact Nat.le_succ _
  | case4 passed c text _ _ ih =>
      have := ih h
      simp only [List.length_cons]
      omega

/-- The escapes between single marks. -/
def singleEscape? : Char → Option Char
  | '\\' => some '\\'
  | '\'' => some '\''
  | _ => none

/-- The escapes between double marks. -/
def doubleEscape? : Char → Option Char
  | '\\' => some '\\'
  | '\'' => some '\''
  | '"' => some '"'
  | 'a' => some '\x07'
  | 'b' => some '\x08'
  | 'f' => some '\x0c'
  | 'n' => some '\n'
  | 'r' => some '\r'
  | 't' => some '\t'
  | 'v' => some '\x0b'
  | _ => none

/-- A text with its escapes replaced. A backslash before any other character stays. -/
def unescape (escape? : Char → Option Char) : List Char → List Char
  | '\\' :: c :: rest =>
      match escape? c with
      | some e => e :: unescape escape? rest
      | none => '\\' :: unescape escape? (c :: rest)
  | c :: rest => c :: unescape escape? rest
  | [] => []

/-- What stands before the first remark, which is a number sign after a blank. -/
def beforeRemark (text : List Char) : List Char :=
  let step (c : Char) (later : List Char × Bool) : List Char × Bool :=
    if Text.isBlank c then (if later.2 then [] else c :: later.1, later.2)
    else (c :: later.1, c = '#')
  (text.foldr step ([], false)).1

/-- What one statement does. -/
inductive Statement where
  /-- It is a remark, or does nothing. -/
  | remark
  | assignment (name : List Char) (value? : Option (List Char))
  | malformed
  deriving DecidableEq, Repr

/-- The name that a statement assigns to; a remark has none. A malformed name is missing from the
result, and the position before it stands beside it. -/
def cutName (p : Position) : Option (Option (List Char)) × Position :=
  match p.rest with
  | '#' :: _ => (some none, p)
  | '\'' :: rest =>
      let name := rest.takeWhile (· ≠ '\'')
      match rest.dropWhile (· ≠ '\'') with
      | [] => (none, p)
      | _ :: after => if name = [] then (none, p) else (some (some name), p.behind name after)
  | text =>
      let stops (c : Char) : Bool := c = '=' || c = '#' || Text.isBlank c
      match text.takeWhile (!stops ·) with
      | [] => (none, p)
      | name => (some (some name), p.behind name (text.dropWhile (!stops ·)))

/-- The value between two marks after the first of them. -/
def cutMarked (mark : Char) (escape? : Char → Option Char) (p : Position) (text : List Char) :
    Option (List Char) × Position :=
  match cutQuoted mark [] text with
  | some (content, rest) => (some (unescape escape? content), p.behind content rest)
  | none => (none, p)

/-- The value after an equals sign and some blanks, or nothing if its closing mark is missing. After
a blank a remark may stand in place of the value. -/
def cutValue (blanks : List Char) (p : Position) : Option (List Char) × Position :=
  match p.rest with
  | '\'' :: rest => cutMarked '\'' singleEscape? p rest
  | '"' :: rest => cutMarked '"' doubleEscape? p rest
  | text =>
      let line := blanks ++ text.takeWhile (!isLineEnd ·)
      (some (Text.trimEnd Text.isBlank ((beforeRemark line).dropWhile isInlineBlank)),
        { p with rest := text.dropWhile (!isLineEnd ·) })

/-- The value of a statement after its name; without an equals sign there is none. -/
def cutAssigned (p : Position) : Option (Option (List Char)) × Position :=
  match p.rest with
  | '=' :: rest =>
      let (value?, p) := cutValue (rest.takeWhile isInlineBlank)
        { p with rest := rest.dropWhile isInlineBlank }
      (value?.map some, p)
  | _ => (some none, p)

/-- The text after a remark that may end a line. -/
def skipRemark (text : List Char) : List Char :=
  match text.dropWhile isInlineBlank with
  | '#' :: rest => rest.dropWhile (!isLineEnd ·)
  | _ => text

/-- The position after the current line. -/
def skipLine (p : Position) : Position :=
  match p.rest.dropWhile (!isLineEnd ·) with
  | [] => { p with rest := [] }
  | c :: rest => p.behind [c] rest

/-- Takes the first statement off a text. A malformed one is dropped up to the end of the line in
which it goes wrong. -/
def cutStatement (p : Position) : Statement × Position :=
  let (name?, p) := cutName { p with rest := skipExport p.rest }
  match name? with
  | none => (.malformed, skipLine p)
  | some name? =>
      let (value?, p) := cutAssigned { p with rest := p.rest.dropWhile isInlineBlank }
      match value? with
      | none => (.malformed, skipLine p)
      | some value? =>
          let p := { p with rest := (skipRemark p.rest).dropWhile isInlineBlank }
          (if p.atLineEnd then statement name? value? else .malformed, skipLine p)
where
  statement (name? : Option (List Char)) (value? : Option (List Char)) : Statement :=
    match name? with
    | some name => .assignment name value?
    | none => .remark

theorem length_skipExport_le (text : List Char) : (skipExport text).length ≤ text.length := by
  simp only [skipExport]
  split
  · exact Nat.le_trans (List.dropWhile_suffix _).length_le (List.drop_suffix ..).length_le
  · exact Nat.le_refl _

theorem length_cutName_le (p : Position) : (cutName p).2.rest.length ≤ p.rest.length := by
  unfold cutName
  split
  · exact Nat.le_refl _
  · rename_i rest h
    dsimp only
    split
    · exact Nat.le_refl _
    · rename_i mark after hdrop
      have := (List.dropWhile_suffix (· ≠ '\'') (l := rest)).length_le
      rw [hdrop] at this
      simp only [List.length_cons] at this
      split
      · exact Nat.le_refl _
      · rw [h]
        simp only [Position.behind, List.length_cons]
        omega
  · dsimp only
    split
    · exact Nat.le_refl _
    · exact (List.dropWhile_suffix _).length_le

theorem length_cutMarked_le (mark : Char) (escape? : Char → Option Char) (p : Position)
    (text : List Char) (h : text.length ≤ p.rest.length) :
    (cutMarked mark escape? p text).2.rest.length ≤ p.rest.length := by
  unfold cutMarked
  split
  · rename_i content rest hcut
    exact Nat.le_trans (length_of_cutQuoted hcut) h
  · exact Nat.le_refl _

theorem length_cutValue_le (blanks : List Char) (p : Position) :
    (cutValue blanks p).2.rest.length ≤ p.rest.length := by
  unfold cutValue
  split
  · rename_i rest h
    exact length_cutMarked_le _ _ _ _ (by simp [h])
  · rename_i rest h
    exact length_cutMarked_le _ _ _ _ (by simp [h])
  · exact (List.dropWhile_suffix _).length_le

theorem length_cutAssigned_le (p : Position) :
    (cutAssigned p).2.rest.length ≤ p.rest.length := by
  unfold cutAssigned
  split
  · rename_i rest h
    have h₁ := length_cutValue_le (rest.takeWhile isInlineBlank)
      { p with rest := rest.dropWhile isInlineBlank }
    have h₂ := (List.dropWhile_suffix isInlineBlank (l := rest)).length_le
    rw [h]
    simp only [List.length_cons] at h₁ ⊢
    omega
  · exact Nat.le_refl _

theorem length_skipRemark_le (text : List Char) : (skipRemark text).length ≤ text.length := by
  unfold skipRemark
  split
  · rename_i rest h
    have h₁ := (List.dropWhile_suffix isInlineBlank (l := text)).length_le
    have h₂ := (List.dropWhile_suffix (!isLineEnd ·) (l := rest)).length_le
    rw [h] at h₁
    simp only [List.length_cons] at h₁
    omega
  · exact Nat.le_refl _

/-- Skipping a line takes something off every text that is not empty. -/
theorem length_skipLine_le (p : Position) :
    (skipLine p).rest.length ≤ p.rest.length - 1 := by
  unfold skipLine
  split
  · exact Nat.zero_le _
  · rename_i c rest h
    have := (List.dropWhile_suffix (!isLineEnd ·) (l := p.rest)).length_le
    rw [h] at this
    simp only [Position.behind, List.length_cons] at this ⊢
    omega

/-- Every statement takes something off the text. -/
theorem length_cutStatement_lt {p : Position} (h : p.rest ≠ []) :
    (cutStatement p).2.rest.length < p.rest.length := by
  have hpos := List.length_pos_iff.2 h
  have h₁ := length_skipExport_le p.rest
  have h₂ := length_cutName_le { p with rest := skipExport p.rest }
  suffices (cutStatement p).2.rest.length ≤ p.rest.length - 1 by omega
  unfold cutStatement
  generalize cutName { p with rest := skipExport p.rest } = named at h₂
  obtain ⟨name?, after⟩ := named
  have h₃ := (List.dropWhile_suffix isInlineBlank (l := after.rest)).length_le
  have h₄ := length_cutAssigned_le { after with rest := after.rest.dropWhile isInlineBlank }
  dsimp only at h₂ h₄ ⊢
  split
  · have := length_skipLine_le after
    dsimp only
    omega
  · generalize
      cutAssigned { after with rest := after.rest.dropWhile isInlineBlank } = assigned at h₄
    obtain ⟨value?, last⟩ := assigned
    dsimp only at h₄ ⊢
    split
    · have := length_skipLine_le last
      dsimp only
      omega
    · have h₅ := length_skipRemark_le last.rest
      have h₆ := (List.dropWhile_suffix isInlineBlank (l := skipRemark last.rest)).length_le
      have := length_skipLine_le
        { last with rest := (skipRemark last.rest).dropWhile isInlineBlank }
      dsimp only at this ⊢
      omega

/-- The statements in a text, in order, each with the number of the line that follows the statement
before it. -/
def statements (p : Position) : List (Nat × Statement) :=
  match _h : p.rest.dropWhile Text.isBlank with
  | [] => []
  | c :: rest =>
      let first := p.behind (p.rest.takeWhile Text.isBlank) (c :: rest)
      let cut := cutStatement first
      (p.line, cut.1) :: statements cut.2
termination_by p.rest.length
decreasing_by
  have h₁ := (List.dropWhile_suffix Text.isBlank (l := p.rest)).length_le
  have h₂ := @length_cutStatement_lt first (by simp [first, Position.behind])
  rw [_h] at h₁
  exact Nat.lt_of_lt_of_le h₂ h₁

/-- The assignments in a text, in order. -/
def assignments (text : List Char) : List (List Char × Option (List Char)) :=
  (statements (.start text)).filterMap fun (_, statement) =>
    match statement with
    | .assignment name value? => some (name, value?)
    | .remark | .malformed => none

/-- The lines from which on a statement was looked for and turned out to be malformed. -/
def malformedLines (text : List Char) : List Nat :=
  ((statements (.start text)).filter fun (_, statement) => statement = .malformed).map Prod.fst

/-- Variables with their values; a name without an equals sign has none. -/
abbrev Values := List (String × Option RawText)

/-- Gives a value to a variable, which keeps its place if it had a value before. -/
def assign (values : Values) (name : String) (value? : Option RawText) : Values :=
  if values.any (·.1 = name) then
    values.map fun entry => if entry.1 = name then (name, value?) else entry
  else values ++ [(name, value?)]

/-- A reference at the front of a text: the name, the text that stands in for a missing variable,
and what follows. -/
def cutReference : List Char → Option (List Char × List Char × List Char)
  | '$' :: '\x7b' :: rest =>
      let stops (c : Char) : Bool := c = '\x7d' || c = ':'
      let name := rest.takeWhile (!stops ·)
      match rest.dropWhile (!stops ·) with
      | '\x7d' :: after => some (name, [], after)
      | ':' :: '-' :: after =>
          match after.dropWhile (· ≠ '\x7d') with
          | _ :: rest => some (name, after.takeWhile (· ≠ '\x7d'), rest)
          | [] => none
      | _ => none
  | _ => none

/-- A text with its references replaced, where `lookup` knows the variables. -/
def expand (lookup : String → Option (Option RawText)) (text : List Char) : RawText :=
  match text with
  | [] => []
  | c :: rest =>
      match cutReference (c :: rest) with
      | some (name, fallback, after) =>
          let found := match lookup (String.ofList name) with
            | some value? => value?.getD []
            | none => RawText.ofChars fallback
          if _h : after.length ≤ rest.length then found ++ expand lookup after else found
      | none => .char c :: expand lookup rest
termination_by text.length
decreasing_by
  all_goals
    simp only [List.length_cons]
    omega

/-- The variables that a text assigns. References see the assignments before them, and else the
variables of the surroundings. -/
def ofText (outer : Variables) (text : List Char) : Values :=
  (assignments text).foldl
    (fun values (name, value?) =>
      let lookup (name : String) := (values.lookup name).or ((outer name).map some)
      assign values (String.ofList name)
        (value?.map (expand lookup)))
    []

end ArtifactSigning.VariableFile
