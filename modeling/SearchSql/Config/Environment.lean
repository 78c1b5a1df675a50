import SearchSql.Config.File
import SearchSql.Decimal.Literal
import SearchSql.Text.CharacterClass
import SearchSql.Text.Quoted
import SearchSql.Text.Search

/-!
# Settings from the environment

A variable of the environment wins over the file, and the file over the defaults. Numbers may have
blanks around them; a name or a password that is empty is none; and a switch is on for the words
`1`, `true`, `yes` and `on` in any mixture of cases, and off for anything else.
-/

namespace SearchSql

/-- The variables of an environment. -/
abbrev Environment := String → Option String

def ConfigError.message : ConfigError → String
  | .invalidFile => "invalid config"
  | .notWhole setting value =>
    setting.variableName ++ " must be a whole number, got " ++ Text.quoted value

namespace Config

def readSwitch (value : String) : Bool :=
  Text.asciiLower value ∈ ["1", "true", "yes", "on"]

def readWhole (setting : Setting) (value : String) : Except ConfigError Nat :=
  match Decimal.word64? (Text.trim value) with
  | some number => .ok number
  | none => .error (.notWhole setting value)

def nonempty (value : String) : Option String := if value.isEmpty then none else some value

/-- Changes a setting to what a variable says. -/
def override (config : Config) (setting : Setting) (value : String) :
    Except ConfigError Config :=
  match setting with
  | .endpoint => .ok { config with endpoint := value }
  | .explainPath => .ok { config with explainPath := value }
  | .keepAlive => .ok { config with keepAlive := value }
  | .queryTimeout => (readWhole setting value).map fun queryTimeout => { config with queryTimeout }
  | .requestTimeout =>
    (readWhole setting value).map fun timeout => { config with requestTimeout := some timeout }
  | .username => .ok { config with username := nonempty value }
  | .password => .ok { config with password := nonempty value }
  | .cacheMappings => .ok { config with cacheMappings := readSwitch value }
  | .mappingLifetime =>
    (readWhole setting value).map fun mappingLifetime => { config with mappingLifetime }

/-- Changes each setting that has a variable, in order. -/
def withEnvironment (config : Config) (environment : Environment) : Except ConfigError Config :=
  Setting.all.foldlM
    (fun config setting =>
      match environment setting.variableName with
      | some value => config.override setting value
      | none => .ok config)
    config

/-- The settings of a file, if there is one, under those of the environment. -/
def load (file : Option String) (environment : Environment) : Except ConfigError Config :=
  match file with
  | none => withEnvironment {} environment
  | some text =>
    match ofText? text with
    | some config => config.withEnvironment environment
    | none => .error .invalidFile

/-- The variable that names the file. -/
def pathVariable : String := "DOCSQL_CONFIG"

def homeVariable : String := "HOME"

/-- The variables that the settings depend on. -/
def variableNames : List String :=
  pathVariable :: homeVariable :: Setting.all.map Setting.variableName

/-- A path inside a directory. -/
def pathWithin (directory path : String) : String :=
  if directory.endsWith "/" then directory ++ path else directory ++ "/" ++ path

/--
Where the file is: where the variable says, unless that is blank, and otherwise under the home
directory, or under the working directory when there is no home.
-/
def path (environment : Environment) : String :=
  let standard := ".docsql/config.json"
  match (environment pathVariable).filter fun path => !Text.isAllBlank path with
  | some path => path
  | none =>
    match (environment homeVariable).filter fun home => !home.isEmpty with
    | some home => pathWithin home standard
    | none => standard

end Config

end SearchSql
