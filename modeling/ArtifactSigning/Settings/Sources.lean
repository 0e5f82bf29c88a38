import ArtifactSigning.Credential.Loader
import ArtifactSigning.Settings.Reading
import ArtifactSigning.Settings.VariableFile
import ArtifactSigning.Text.Lower
import ArtifactSigning.Text.Separated

/-!
# Settings

What a user can choose about signing. A choice is made by the caller, by an environment variable
or by a line of a variable file, in this order of precedence; everything else has a usual value.
The names of variables start with `PGPSIGN_`, and case does not matter in any name.
-/
namespace ArtifactSigning

structure Settings where
  /-- Which signer is used. -/
  signer : String
  /-- Whether a human may be asked. -/
  interactive : Bool
  executable? : Option String
  home? : Option Path
  keyName? : Option String
  useAgent : Bool
  defaultKeyring : Bool
  secretKeyring? : Option String
  publicKeyring? : Option String
  lockMode? : Option String
  arguments : List String
  toolLimit? : Option Time.Seconds
  /-- The environment variable that holds the passphrase. -/
  passphraseVariable : String
  /-- A passphrase that was stored with the settings, where it must not be. -/
  passphrase? : Option String
  keyFile? : Option Path
  fingerprint? : Option String
  /-- The sockets of agents, with commas between them. -/
  sockets : String
  agentLimit? : Option Time.Seconds
  configDirectory? : Option Path
  outputDirectory? : Option Path

/-- Values of settings by their names; the first value of a name counts. -/
abbrev SettingValues := List (String × Json)

namespace Settings

/-- The names of all settings. -/
def names : List String := [
  "signer", "interactive", "executable", "homedir", "keyname", "use_agent", "default_keyring",
  "secret_keyring", "public_keyring", "lock_mode", "gpg_arguments", "gpg_timeout_seconds",
  "passphrase_env_name", "passphrase", "key_file_path", "key_fingerprint", "agent_socket_locations",
  "agent_timeout_seconds", "config_dir", "output_dir"]

/-- What the names of variables start with, in lower case. -/
def variableStart : String := "pgpsign_"

/-- The setting whose variable holds structured text. -/
def structuredName : String := "gpg_arguments"

/-- The name of the setting that a variable sets. -/
def nameOf? (variable_ : String) : Option String :=
  (variableStart.toList.isPrefixOf? (Text.lower variable_).toList).map String.ofList

/-- The texts of variables by the names of their settings. Of several variables for one setting the
last counts, even one without a value. -/
def textsByName (values : VariableFile.Values) : List (String × RawText) :=
  let named := values.filterMap fun (variable_, text?) => (nameOf? variable_).map (·, text?)
  let last := named.foldl (fun kept entry => kept.filter (·.1 ≠ entry.1) ++ [entry]) []
  last.filterMap fun (name, text?) => text?.map (name, ·)

/-- The value of a setting that a text gives. A structured setting whose text is `null` is not
set. -/
def ofNamedText (name : String) (text : RawText) : Except Failure (Option (String × Json)) :=
  if name = structuredName then
    match Json.ofSource? text with
    | none => .error .settingsText
    | some .null => .ok none
    | some value => .ok (some (name, value))
  else .ok (some (name, .text text))

/-- The values that variables give to settings. -/
def ofVariables (values : VariableFile.Values) : Except Failure SettingValues := do
  let given ← (textsByName values).mapM fun (name, text) => ofNamedText name text
  return given.filterMap id

/-- A lock mode in lower case, without outer blanks; an empty one is none. -/
def normalLockMode (mode : String) : Option String :=
  let mode := Text.lower (String.ofList (Text.strip mode.toList))
  if mode = "" then none else some mode

/-- The value of a setting, or its usual value. -/
def field (values : SettingValues) (name : String) (usual : α) (read : Json → Checked α) :
    Checked α :=
  match values.lookup name with
  | some value => (read value).below name
  | none => .valid usual

open Setting in
/-- The settings that are made of values. -/
def ofValues (values : SettingValues) : Checked Settings :=
  Settings.mk
    <$> field values "signer" "gpg" readText
    <*> field values "interactive" true readSwitch
    <*> field values "executable" none (readOptional readText)
    <*> field values "homedir" none (readOptional readPath)
    <*> field values "keyname" none (readOptional readText)
    <*> field values "use_agent" true readSwitch
    <*> field values "default_keyring" true readSwitch
    <*> field values "secret_keyring" none (readOptional readText)
    <*> field values "public_keyring" none (readOptional readText)
    <*> ((fun mode? => mode?.bind normalLockMode) <$>
      field values "lock_mode" none (readOptional readText))
    <*> field values structuredName [] readTexts
    <*> field values "gpg_timeout_seconds" (some (.real 300)) (readOptional readLimit)
    <*> field values "passphrase_env_name" "PGPSIGN_GPG_PASSPHRASE" readText
    <*> field values "passphrase" none (readOptional readText)
    <*> field values "key_file_path" none (readOptional readPath)
    <*> field values "key_fingerprint" none (readOptional readText)
    <*> field values "agent_socket_locations" ".gnupg/S.gpg-agent" readText
    <*> field values "agent_timeout_seconds" none (readOptional readLimit)
    <*> field values "config_dir" none (readOptional readPath)
    <*> field values "output_dir" none (readOptional readPath)

/-- What a caller gives, with the names in lower case. Of several spellings of one name the last
counts. -/
def ofCaller (given : SettingValues) : SettingValues :=
  (given.map fun (name, value) => (Text.lower name, value)).reverse

/-- The settings from what a caller gives, the environment and the text of a variable file. -/
def ofSources (given : SettingValues) (environment : List (String × RawText))
    (file? : Option (List Char)) : Except Failure Settings := do
  let fromEnvironment ← ofVariables (environment.map fun (name, text) => (name, some text))
  let outer (name : String) := environment.lookup name
  let fromFile ← ofVariables ((file?.map (VariableFile.ofText outer)).getD [])
  match ofValues (ofCaller given ++ fromEnvironment ++ fromFile) with
  | .valid settings => return settings
  | .invalid problems => throw (.settings problems)

/-- The home directory of the user. -/
def homeDirectory (environment : String → Option String) : Except Failure Path :=
  match (environment "HOME").map fun home => Text.trimEnd (· = '/') home.toList with
  | none | some ('~' :: _) => .error .noHome
  | some [] => .ok (.ofText "/")
  | some home => .ok (.ofText (String.ofList home))

/-- Where configuration lies for all programs. -/
def configHome (environment : String → Option String) : Except Failure Path :=
  match environment "XDG_CONFIG_HOME" with
  | none | some "" => (homeDirectory environment).map (·.join (.ofText ".config"))
  | some directory => .ok (.ofText directory)

/-- Where the configuration of this program lies. -/
def configDirectory (settings : Settings) (environment : String → Option String) :
    Except Failure Path :=
  match settings.configDirectory? with
  | some directory => .ok directory
  | none => (configHome environment).map (·.join (.ofText "pgpsign"))

/-- The name of the key file if none is chosen. -/
def usualKeyFile : Path := .ofText "signing-key.key"

/-- The key file, seen from the configuration directory. -/
def keyFile (settings : Settings) (environment : String → Option String) :
    Except Failure Path :=
  (settings.configDirectory environment).map (·.join (settings.keyFile?.getD usualKeyFile))

/-- The sockets of agents, without blanks around them and without empty ones. -/
def socketLocations (settings : Settings) : List String :=
  (((Text.separated ',' settings.sockets.toList).map Text.strip).filter (· ≠ [])).map String.ofList

end Settings

end ArtifactSigning
