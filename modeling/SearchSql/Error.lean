import SearchSql.Query.SqlText

/-!
# Failures

Everything that can go wrong with a query, by its cause. The wording of each failure is in one
function; a failure of the SQL grammar has no wording of its own.
-/

namespace SearchSql

/-- A failed exchange with the search engine. -/
inductive BackendError
  | status (code : Nat) (reason : String)
  | transport (reason : String)
  | decode (reason : String)
deriving DecidableEq

def BackendError.message : BackendError → String
  | .status code reason => "search engine returned " ++ Nat.repr code ++ ": " ++ reason
  | .transport reason => "transport error: " ++ reason
  | .decode reason => "decode error: " ++ reason

/-- Parts of SQL that parse and are refused. -/
inductive Feature
  | multipleStatements
  | otherStatement
  | setExpression
  | qualifiedWildcard
  | having
  | tableCount
  | joins
  | tableExpression
  | limitExpression
  | functionSubquery
  | functionArguments
deriving DecidableEq

def Feature.message : Feature → String
  | .multipleStatements => "multi-statement"
  | .otherStatement => "only SELECT and DELETE are supported"
  | .setExpression => "unsupported set expr"
  | .qualifiedWildcard => "qualified wildcard"
  | .having => "HAVING"
  | .tableCount => "exactly one FROM index is required"
  | .joins => "joins"
  | .tableExpression => "complex table ref"
  | .limitExpression => "non-numeric LIMIT"
  | .functionSubquery => "subquery function argument"
  | .functionArguments => "function arguments"

inductive QueryError
  /-- The text is not in the grammar. -/
  | grammar
  /-- The limit is a number that is not a whole number of 64 bits. -/
  | invalidLimit (text : String)
  | unsupported (feature : Feature)
  | emit (cause : EmitError)
  | mappingLookup (cause : BackendError)
  /-- The engine refused the query. -/
  | invalidQuery (status : Nat) (detail : String)
  | semanticallyInvalid (reason : String)
  | indexNotFound (index : String)
  | timeoutExceeded (returned : Nat)
  | backend (cause : BackendError)
  /-- Rows were given to an envelope that is closed. -/
  | envelopeClosed
  | io (reason : String)
deriving DecidableEq

def QueryError.message : QueryError → String
  | .grammar => "parse error"
  | .invalidLimit text => "parse error: invalid LIMIT " ++ text
  | .unsupported feature => "unsupported feature: " ++ feature.message
  | .emit cause => "emit error: " ++ cause.message
  | .mappingLookup cause => "mapping lookup failed: " ++ cause.message
  | .invalidQuery status detail => "invalid query (" ++ Nat.repr status ++ "): " ++ detail
  | .semanticallyInvalid reason => "semantically invalid query: " ++ reason
  | .indexNotFound index => "table not found: " ++ index
  | .timeoutExceeded returned => "timeout exceeded after " ++ Nat.repr returned ++ " rows"
  | .backend cause => cause.message
  | .envelopeClosed => "encode error: envelope already closed"
  | .io reason => "io error: " ++ reason

end SearchSql
