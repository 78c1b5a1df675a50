import SearchSql.Config.Basic
import SearchSql.Json.Reader

/-!
# Settings from a file

A file is one JSON object with any of the settings, or one JSON array with the first of them in
order. A setting that is left out keeps the value it had. In an object, a name that is no setting is
passed over, and a setting that comes twice is an error.
-/

namespace SearchSql.Config

open Json.Reader

/-- The value of a setting that may be absent, which `null` says. -/
def absentOr {α : Type} (read : Json → Option α) : Json → Option (Option α)
  | .null => some none
  | value => (read value).map some

def readBool : Json → Option Bool
  | .bool value => some value
  | _ => none

/-- Changes a setting; `none` when the value is not of its kind. -/
def set? (config : Config) (setting : Setting) (value : Json) : Option Config :=
  match setting with
  | .endpoint => value.asText?.map fun endpoint => { config with endpoint }
  | .explainPath => value.asText?.map fun explainPath => { config with explainPath }
  | .keepAlive => value.asText?.map fun keepAlive => { config with keepAlive }
  | .queryTimeout => value.asNatural?.map fun queryTimeout => { config with queryTimeout }
  | .requestTimeout =>
    (absentOr Json.asNatural? value).map fun requestTimeout => { config with requestTimeout }
  | .username => (absentOr Json.asText? value).map fun username => { config with username }
  | .password => (absentOr Json.asText? value).map fun password => { config with password }
  | .cacheMappings => (readBool value).map fun cacheMappings => { config with cacheMappings }
  | .mappingLifetime =>
    value.asNatural?.map fun mappingLifetime => { config with mappingLifetime }

/-- What reading has come to: the settings, and which of them were given. -/
structure Reading where
  config : Config
  given : List Setting := []

/-- The value of a setting, which follows the colon after its name. -/
def readSetting (reading : Reading) (setting : Setting) (text : List Char) :
    Option (Reading × List Char) :=
  if setting ∈ reading.given then none
  else do
    let (value, text) ← Json.readStart text
    let config ← reading.config.set? setting value
    some (⟨config, setting :: reading.given⟩, text)

/-- A name, a colon and a value. -/
def readNamed (reading : Reading) (text : List Char) : Option (Reading × List Char) :=
  match skipBlanks text with
  | '"' :: rest => do
    let (name, rest) ← readString false rest
    match skipBlanks rest with
    | ':' :: rest =>
      match Setting.ofName? name with
      | some setting => readSetting reading setting rest
      | none => (Json.skip rest).map fun rest => (reading, rest)
    | _ => none
  | _ => none

/-- The members of an object after its opening brace, when there is at least one. -/
def readObject : Nat → Reading → List Char → Option (Reading × List Char)
  | 0, _, _ => none
  | fuel + 1, reading, text =>
    match readNamed reading text with
    | none => none
    | some (reading, text) =>
      match skipBlanks text with
      | ',' :: rest => readObject fuel reading rest
      | '\x7d' :: rest => some (reading, rest)
      | _ => none

/-- The values of settings in order after an opening bracket, when there is at least one. -/
def readList : List Setting → Reading → List Char → Option (Reading × List Char)
  | [], _, _ => none
  | setting :: settings, reading, text =>
    match readSetting reading setting text with
    | none => none
    | some (reading, text) =>
      match skipBlanks text with
      | ',' :: rest => readList settings reading rest
      | ']' :: rest => some (reading, rest)
      | _ => none

def readStart (config : Config) (text : List Char) : Option (Reading × List Char) :=
  match skipBlanks text with
  | '\x7b' :: rest =>
    match skipBlanks rest with
    | '\x7d' :: rest => some (⟨config, []⟩, rest)
    | rest => readObject (rest.length + 1) ⟨config, []⟩ rest
  | '[' :: rest =>
    match skipBlanks rest with
    | ']' :: rest => some (⟨config, []⟩, rest)
    | rest => readList Setting.all ⟨config, []⟩ rest
  | _ => none

/-- The settings of a file's text over the default ones; `none` when the text is not of the form. -/
def ofText? (text : String) : Option Config :=
  match readStart {} text.toList with
  | some (reading, rest) => if (skipBlanks rest).isEmpty then some reading.config else none
  | none => none

end SearchSql.Config
