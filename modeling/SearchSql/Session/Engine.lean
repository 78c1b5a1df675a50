import SearchSql.Error
import SearchSql.Mapping.Basic
import SearchSql.Page

/-!
# The search engine and the consumer of a result

A session talks to a search engine and writes to a consumer. Both are given by what they will
answer: the engine by its reply to each call, with the time that the reply takes, and the consumer
by the failures of its operations. A session is then a function of the two, and what it did is the
list of its events.
-/

namespace SearchSql

/-- An answer of the search engine, and the milliseconds that it takes. -/
structure Reply (α : Type) where
  result : Except BackendError α
  delay : Nat := 0

/-- The reply with nothing but the news that there was one. -/
def Reply.acknowledged {α : Type} (reply : Reply α) : Reply Unit :=
  ⟨reply.result.map fun _ => (), reply.delay⟩

/-- A search engine, by the replies to the calls that a session may make. -/
structure Engine where
  mapping : Except BackendError Mapping
  explain : Reply Json
  search : Reply Json
  /-- The replies to the scroll calls, counted from zero. -/
  scroll : Nat → Reply Json
  /-- The reply to the release of the cursor, after so many scroll calls. -/
  clear : Nat → Reply Unit := fun _ => { result := .ok () }

/-- A consumer of chunks, by the reasons for which its operations fail. -/
structure Consumer where
  /-- The outcome of each write, counted from zero. -/
  write : Nat → Except String Unit
  finish : Except String Unit

/-- A consumer that takes everything. -/
def Consumer.willing : Consumer := ⟨fun _ => .ok (), .ok ()⟩

/-- What a session does to the engine and to the consumer. -/
inductive Event
  | mapping (index : String)
  | explain (sql : String)
  | search (index : String) (query : Json) (keepAlive : String)
  | scroll (id keepAlive : String)
  /-- The release of a cursor. -/
  | clear (id : String)
  | chunk (text : String)
  /-- A chunk that the consumer did not take. -/
  | refused (text : String)
  | finish
  | abort (error : QueryError)

namespace Event

/-- The text that the consumer took. -/
def written : Event → String
  | .chunk text => text
  | _ => ""

def isWrite : Event → Bool
  | .chunk _ => true
  | .refused _ => true
  | _ => false

/-- The operations after which the consumer gets nothing more. -/
def isTerminal : Event → Bool
  | .finish => true
  | .abort _ => true
  | _ => false

def isEngineCall : Event → Bool
  | .mapping _ => true
  | .explain _ => true
  | .search .. => true
  | .scroll .. => true
  | .clear _ => true
  | _ => false

end Event

end SearchSql
