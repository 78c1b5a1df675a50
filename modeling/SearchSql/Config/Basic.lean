import SearchSql.Json.Printer
import SearchSql.Session.Basic

/-!
# Settings

How to reach the search engine and how long to wait for it. Each setting has one name, by which a
file gives it and, in upper case and with `DOCSQL_` before it, the environment does.
-/

namespace SearchSql

structure Config where
  endpoint : String := "http://localhost:9200"
  /-- The path of the service that turns SQL into a native query. -/
  explainPath : String := "_opendistro/_sql/_explain"
  keepAlive : String := "1m"
  /-- The budget of a query in seconds. -/
  queryTimeout : Nat := 60
  /-- The seconds after which a single request is given up. -/
  requestTimeout : Option Nat := none
  username : Option String := none
  password : Option String := none
  cacheMappings : Bool := false
  mappingLifetime : Nat := 300
deriving DecidableEq

inductive Setting
  | endpoint
  | explainPath
  | keepAlive
  | queryTimeout
  | requestTimeout
  | username
  | password
  | cacheMappings
  | mappingLifetime
deriving DecidableEq

namespace Setting

/-- The settings in the order in which they are written. -/
def all : List Setting :=
  [.endpoint, .explainPath, .keepAlive, .queryTimeout, .requestTimeout, .username, .password,
    .cacheMappings, .mappingLifetime]

def name : Setting → String
  | .endpoint => "endpoint"
  | .explainPath => "explain_path"
  | .keepAlive => "scroll_keep_alive"
  | .queryTimeout => "query_timeout_secs"
  | .requestTimeout => "request_timeout_secs"
  | .username => "username"
  | .password => "password"
  | .cacheMappings => "cache_mappings"
  | .mappingLifetime => "mapping_cache_ttl_secs"

def ofName? (name : String) : Option Setting := all.find? fun setting => setting.name == name

/-- The variable of the environment that gives the setting. -/
def variableName (setting : Setting) : String := "DOCSQL_" ++ setting.name.map Char.toUpper

end Setting

/-- What is wrong with the settings that were given. -/
inductive ConfigError
  /-- The text of the file is not a list of settings. -/
  | invalidFile
  | notWhole (setting : Setting) (value : String)
deriving DecidableEq

namespace Config

def number (value : Nat) : Json := .number (.integer value)

/-- A setting as a document has it. -/
def get (config : Config) : Setting → Json
  | .endpoint => .string config.endpoint
  | .explainPath => .string config.explainPath
  | .keepAlive => .string config.keepAlive
  | .queryTimeout => number config.queryTimeout
  | .requestTimeout => (config.requestTimeout.map number).getD .null
  | .username => (config.username.map Json.string).getD .null
  | .password => (config.password.map Json.string).getD .null
  | .cacheMappings => .bool config.cacheMappings
  | .mappingLifetime => number config.mappingLifetime

def toJson (config : Config) : Json :=
  .object (Setting.all.map fun setting => (setting.name, config.get setting))

/-- The text of a file with these settings. -/
def toText (config : Config) : String := config.toJson.pretty

/-- The options of a session under these settings. -/
def sessionOptions (config : Config) : Options :=
  { timeout := config.queryTimeout * 1000, keepAlive := config.keepAlive }

end Config

end SearchSql
