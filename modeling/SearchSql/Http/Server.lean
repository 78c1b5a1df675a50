import SearchSql.Http.Request
import SearchSql.Http.Response
import SearchSql.Mapping.Source
import SearchSql.Session.Script

/-!
# Servers

A server is given by what comes of each request in turn: a response, or the failure to exchange
anything. After finitely many requests every further one fails in the same way. Behind a server
stands a search engine, whose replies are what its responses say.
-/

namespace SearchSql.Http

structure Server where
  replies : List (Reply Response)
  /-- What becomes of all further requests. -/
  afterwards : BackendError

namespace Server

/-- A server that no request reaches. -/
def unreachable : Server := ⟨[], .transport "connection refused"⟩

/-- The server as a client sees it that waits for a response no longer than some seconds. -/
def givenUpAfter (server : Server) : Option Nat → Server
  | none => server
  | some seconds =>
    { server with
      replies := server.replies.map fun reply =>
        if seconds * 1000 < reply.delay then
          ⟨.error (.transport "operation timed out"), seconds * 1000⟩
        else reply }

def reply (server : Server) (request : Nat) : Reply Response :=
  server.replies[request]?.getD ⟨.error server.afterwards, 0⟩

/-- Whether a request got as far as the server. -/
def receives (server : Server) (request : Nat) : Bool :=
  match (server.reply request).result with
  | .error (.transport _) => false
  | _ => true

/-- The document that comes of a request. -/
def document (server : Server) (request : Nat) : Reply Json :=
  let reply := server.reply request
  ⟨reply.result.bind Response.document, reply.delay⟩

theorem endsPages_document {server : Server} {request : Nat}
    (beyond : server.replies.length ≤ request) : (server.document request).endsPages := by
  intro body same
  simp [document, reply, List.getElem?_eq_none beyond, Except.bind] at same

/-- The engine behind a server, for a session that begins with a lookup of a mapping or without. -/
def engine (server : Server) (looksUp : Bool) : FiniteEngine where
  engine :=
    let first := if looksUp then 1 else 0
    { mapping := (server.document 0).result.map Mapping.ofResponse
      explain := server.document first
      search := server.document (first + 1)
      scroll := fun call => server.document (first + 2 + call)
      clear := fun scrolls => (server.document (first + 2 + scrolls)).acknowledged }
  pages := server.replies.length
  ends := fun call beyond => endsPages_document (by omega)

/-- The requests for calls made one after the other that got as far as the server. -/
def received (server : Server) (client : Client) (calls : List EngineCall) : List Request :=
  (calls.zipIdx.filter fun call => server.receives call.2).map fun call => client.request call.1

end Server

end SearchSql.Http
