/-!
# Arguments of commands

A command line is a sequence of words. Words that start with a dash are options: long ones after two
dashes, single letters after one, and letters may share a dash. The value of an option is the word
after it, or what is attached to it. Two dashes alone end the options; all other words are operands.
-/
namespace ArtifactSigning.CommandLine

/-- An option that a command knows. -/
structure OptionForm where
  /-- The long name with its dashes. -/
  long : String
  letter? : Option Char
  takesValue : Bool
  deriving DecidableEq, Repr

/-- An option as it was given, by its long name. A switch has an empty value. -/
structure Given where
  long : String
  value : String
  deriving DecidableEq, Repr

/-- The options in one word, and the long name of a last one whose value is the next word. -/
structure Cut where
  given : List Given
  awaiting? : Option String
  deriving DecidableEq, Repr

/-- The options that letters after a single dash name. The first option that takes a value takes the
rest of the word, if there is one. -/
def cutLetters (forms : List OptionForm) : List Char → Option Cut
  | [] => some ⟨[], none⟩
  | letter :: rest => do
      let form ← forms.find? fun form => form.letter? = some letter
      if form.takesValue then
        if rest = [] then return ⟨[], some form.long⟩
        else return ⟨[⟨form.long, String.ofList rest⟩], none⟩
      else
        let cut ← cutLetters forms rest
        return { cut with given := ⟨form.long, ""⟩ :: cut.given }

/-- The options in a word that starts with a dash. -/
def cutWord (forms : List OptionForm) (word : List Char) : Option Cut :=
  let name := word.takeWhile (· ≠ '=')
  let attached? := match word.dropWhile (· ≠ '=') with
    | [] => none
    | _ :: value => some (String.ofList value)
  match forms.find? fun form => form.long.toList = name with
  | some form =>
      match form.takesValue, attached? with
      | true, some value => some ⟨[⟨form.long, value⟩], none⟩
      | true, none => some ⟨[], some form.long⟩
      | false, some _ => none
      | false, none => some ⟨[⟨form.long, ""⟩], none⟩
  | none => if ['-', '-'].isPrefixOf word then none else cutLetters forms (word.drop 1)

/-- The words of a command line by their roles. -/
structure Arguments where
  given : List Given
  operands : List String
  deriving DecidableEq, Repr

/-- The arguments with some more options in front. -/
def Arguments.prepend (options : List Given) (arguments : Arguments) : Arguments :=
  { arguments with given := options ++ arguments.given }

/-- Whether a word is an option. A dash alone is an operand. -/
def isOption (word : String) : Bool :=
  match word.toList with
  | '-' :: _ :: _ => true
  | _ => false

/-- Sorts the words of a command line, or fails for an option that is unknown, misses its value, or
has one that it does not take. Unless options may follow operands, the first operand ends them. -/
def Arguments.ofWords? (forms : List OptionForm) (mixed : Bool) : List String → Option Arguments
  | [] => some ⟨[], []⟩
  | word :: words =>
      if word = "--" then some ⟨[], words⟩
      else if isOption word then
        match cutWord forms word.toList, words with
        | none, _ | some ⟨_, some _⟩, [] => none
        | some ⟨given, some long⟩, value :: words =>
            (ofWords? forms mixed words).map (·.prepend (given ++ [⟨long, value⟩]))
        | some ⟨given, none⟩, words => (ofWords? forms mixed words).map (·.prepend given)
      else if mixed then
        (ofWords? forms mixed words).map fun arguments =>
          { arguments with operands := word :: arguments.operands }
      else some ⟨[], word :: words⟩

/-- Whether a switch was given. -/
def Arguments.has (arguments : Arguments) (long : String) : Bool :=
  arguments.given.any (·.long = long)

/-- The value of an option; of several the last counts. -/
def Arguments.value? (arguments : Arguments) (long : String) : Option String :=
  (arguments.given.reverse.find? (·.long = long)).map Given.value

end ArtifactSigning.CommandLine
