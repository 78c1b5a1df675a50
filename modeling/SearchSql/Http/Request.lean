import SearchSql.Config.Basic
import SearchSql.Http.Encoding
import SearchSql.Http.Url

/-!
# Requests to the search engine

A client knows where the engine is, where its service for SQL is, and in whose name to ask. It turns
each call on the engine into one request: the method, the target below the endpoint, and a JSON body
where the call has something to say.
-/

namespace SearchSql

/-- What can be asked of the search engine. -/
inductive EngineCall
  | mapping (index : String)
  | explain (sql : String)
  | search (index : String) (query : Json) (keepAlive : String)
  | scroll (id keepAlive : String)
  | clear (id : String)

def Event.call? : Event → Option EngineCall
  | .mapping index => some (.mapping index)
  | .explain sql => some (.explain sql)
  | .search index query keepAlive => some (.search index query keepAlive)
  | .scroll id keepAlive => some (.scroll id keepAlive)
  | .clear id => some (.clear id)
  | _ => none

namespace Http

inductive Method
  | get
  | post
  | delete
deriving DecidableEq

def Method.name : Method → String
  | .get => "GET"
  | .post => "POST"
  | .delete => "DELETE"

structure Request where
  method : Method
  /-- The path and the query. -/
  target : String
  authorization : Option String
  body : Option Json

namespace Request

/-- The type of the body, for a request that has one. -/
def contentType (request : Request) : Option String :=
  request.body.map fun _ => "application/json"

def bodyText (request : Request) : String := (request.body.map Json.compact).getD ""

end Request

structure Credentials where
  username : String
  password : Option String := none

/-- The value of the header that carries a name and a password. -/
def Credentials.header (credentials : Credentials) : String :=
  let text := credentials.username ++ ":" ++ credentials.password.getD ""
  "Basic " ++ String.ofList (Base64.encode text.toUTF8.toList)

structure Client where
  endpoint : Url
  /-- The segments under which the engine explains SQL. -/
  explainPath : List String
  credentials : Option Credentials := none

namespace Client

/-- A path that can be appended to an endpoint. -/
def pathSegments (path : String) : List String :=
  (Text.split '/' path).filter fun segment => !segment.isEmpty

/-- What it means that a text is no endpoint; one without a hierarchy is told as it is written. -/
def endpointError (text : String) : BackendError := .transport ("invalid endpoint " ++ text)

/-- The URL of an endpoint, to which segments can be appended. -/
def endpoint? (text : String) : Except BackendError Url :=
  match Url.ofText? text with
  | none => .error (endpointError text)
  | some url =>
    match url.path with
    | .rootless _ => .error (endpointError (url.scheme ++ ":" ++ url.tail))
    | .segments _ => .ok url

def ofConfig (config : Config) : Except BackendError Client :=
  (endpoint? config.endpoint).map fun endpoint =>
    { endpoint
      explainPath := pathSegments config.explainPath
      credentials := config.username.map fun username => ⟨username, config.password⟩ }

/-- The user that an endpoint names. -/
def endpointUser (endpoint : Url) : Option Credentials :=
  let decoded := fun text : String => (decodedText? text.toList).getD text
  if endpoint.username.isEmpty && endpoint.password.isEmpty then none
  else
    some
      { username := decoded endpoint.username
        password := if endpoint.password.isEmpty then none else some (decoded endpoint.password) }

/-- The user of the settings, or else the one of the endpoint. -/
def authorization (client : Client) : Option String :=
  (client.credentials.or (endpointUser client.endpoint)).map Credentials.header

/-- The target of segments below the endpoint, with a query if there is one. -/
def target (client : Client) (segments : List String) (query : Option String) : String :=
  let url := client.endpoint.append segments
  let both := (client.endpoint.query.toList ++ query.toList).filter fun part => !part.isEmpty
  { url with
    query := if both.isEmpty then client.endpoint.query else some ("&".intercalate both)
    fragment := none }.tail

def scrollSegments : List String := ["_search", "scroll"]

def request (client : Client) (call : EngineCall) : Request :=
  let authorization := client.authorization
  match call with
  | .mapping index =>
    { method := .get, target := client.target [index, "_mapping"] none, authorization,
      body := none }
  | .explain sql =>
    { method := .post
      target := client.target client.explainPath none
      authorization
      body := some (.object [("query", .string sql)]) }
  | .search index query keepAlive =>
    { method := .post
      target := client.target [index, "_search"] (some ("scroll=" ++ formEncode keepAlive))
      authorization
      body := some query }
  | .scroll id keepAlive =>
    { method := .post
      target := client.target scrollSegments none
      authorization
      body := some (.object [("scroll", .string keepAlive), ("scroll_id", .string id)]) }
  | .clear id =>
    { method := .delete
      target := client.target scrollSegments none
      authorization
      body := some (.object [("scroll_id", .array [.string id])]) }

end Client

end Http

end SearchSql
