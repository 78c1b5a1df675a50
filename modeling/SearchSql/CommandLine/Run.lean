import SearchSql.CommandLine.Arguments
import SearchSql.Config.Environment
import SearchSql.Http.Server
import SearchSql.Query.OfSql

/-!
# Running the command

The command reads its settings, then does its task with the search engine behind the server that
they name. Its status is 0 for success, 1 when the settings or the query fail, and 2 for arguments
that make no sense and for a query that ran over its budget, whose rows are written all the same.
What was written before a failure stays written.
-/

namespace SearchSql.CommandLine

/-- What the command finds around it. -/
structure Surroundings where
  environment : Environment
  /-- The text of a file; `none` when there is no such file. -/
  file : String → Option String
  server : Http.Server

/-- What the command leaves behind. -/
structure Conclusion where
  status : Nat
  output : String := ""
  /-- The requests that the server got, in order. -/
  requests : List Http.Request := []

def Conclusion.failed : Conclusion := ⟨1, "", []⟩

def versionText : String := "docsql 0.3.4\n"

def helpText : String :=
  "Runs SQL against a document index and streams the rows.\n\n" ++
  "Usage: docsql [--config FILE] [--endpoint URL] <COMMAND>\n\n" ++
  "Commands:\n" ++
  "  query SQL [--index NAME] [--format json|geojson|csv] [--download] [--meta JSON] " ++
  "[--timeout SECONDS]\n" ++
  "  explain SQL [--index NAME]\n"

/-- The options of a session for a task; `none` when the metadata is no document. -/
def QueryTask.options? (task : QueryTask) (config : Config) : Option Options :=
  let options :=
    { config.sessionOptions with
      format := task.format
      download := task.download
      timeout := task.timeout.elim config.sessionOptions.timeout (· * 1000) }
  match task.metadata with
  | none => some options
  | some text => (Json.read text).map fun metadata => { options with metadata := some metadata }

/-- A session looks up one mapping at most, so that keeping mappings would change nothing here. -/
def runQuery (server : Http.Server) (client : Http.Client) (config : Config) (task : QueryTask) :
    Conclusion :=
  match Query.ofSql task.sql, task.options? config with
  | .ok query, some options =>
    let seen := server.givenUpAfter config.requestTimeout
    let run :=
      (seen.engine query.needsMapping).execute query Consumer.willing options
        (task.index.getD query.index)
    let requests := server.received client (run.events.filterMap Event.call?)
    let output := String.join (run.events.map Event.written)
    let ended := if task.format = .csv then output else output ++ "\n"
    match run.result with
    | .ok (.completed _) => ⟨0, ended, requests⟩
    | .ok (.overBudget _) => ⟨2, ended, requests⟩
    | .error _ => ⟨1, output, requests⟩
  | _, _ => .failed

/-- Writes the SQL text that the engine gets and the native query that it makes of it. -/
def runExplain (server : Http.Server) (client : Http.Client) (config : Config)
    (task : ExplainTask) : Conclusion :=
  match Query.ofSql task.sql with
  | .error _ => .failed
  | .ok query =>
    let seen := server.givenUpAfter config.requestTimeout
    let engine := (seen.engine query.needsMapping).engine
    let looked :=
      if query.needsMapping then [EngineCall.mapping (task.index.getD query.index)] else []
    match if query.needsMapping then engine.mapping else .ok [] with
    | .error _ => ⟨1, "", server.received client looked⟩
    | .ok mapping =>
      match (query.prepare mapping).toSql with
      | .error _ => ⟨1, "", server.received client looked⟩
      | .ok sql =>
        let requests := server.received client (looked ++ [.explain sql])
        match engine.explain.result with
        | .error _ => ⟨1, "", requests⟩
        | .ok explained => ⟨0, sql ++ "\n" ++ explained.pretty ++ "\n", requests⟩

namespace Invocation

/-- The file of the settings. -/
def configFile (invocation : Invocation) (environment : Environment) : String :=
  invocation.configPath.getD (Config.path environment)

/-- The settings that hold for an invocation. -/
def config (invocation : Invocation) (surroundings : Surroundings) : Except ConfigError Config :=
  let file := surroundings.file (invocation.configFile surroundings.environment)
  (Config.load file surroundings.environment).map fun config =>
    { config with endpoint := invocation.endpoint.getD config.endpoint }

end Invocation

def perform (invocation : Invocation) (surroundings : Surroundings) : Conclusion :=
  match invocation.config surroundings with
  | .error _ => .failed
  | .ok config =>
    match Http.Client.ofConfig config with
    | .error _ => .failed
    | .ok client =>
      match invocation.task with
      | .query task => runQuery surroundings.server client config task
      | .explain task => runExplain surroundings.server client config task

def run (arguments : List String) (surroundings : Surroundings) : Conclusion :=
  match Invocation.ofArguments arguments with
  | .ok invocation => perform invocation surroundings
  | .error .help => ⟨0, helpText, []⟩
  | .error .version => ⟨0, versionText, []⟩
  | .error .misuse => ⟨2, "", []⟩

end SearchSql.CommandLine
