/-!
# Shell words

`shellWord` writes one argument so that a shell reads it back as that argument, and `shellLine` a
whole command. An argument of harmless characters stays as it is; any other stands between single
quotes, and a single quote inside it is closed, written between double quotes, and reopened.
-/
namespace ArtifactSigning.Text

/-- The characters that mean only themselves to a shell. -/
def isShellSafe (c : Char) : Bool :=
  c.isAlphanum || "_@%+=:,./-".toList.contains c

/-- One argument of a command line. -/
def shellWord (argument : List Char) : List Char :=
  if argument = [] then ['\'', '\'']
  else if argument.all isShellSafe then argument
  else
    '\'' :: (argument.flatMap fun c => if c = '\'' then "'\"'\"'".toList else [c]) ++ ['\'']

/-- A command line that a shell splits into the given arguments. -/
def shellLine (arguments : List (List Char)) : List Char :=
  [' '].intercalate (arguments.map shellWord)

end ArtifactSigning.Text
