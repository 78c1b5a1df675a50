import SearchSql.Error

/-!
# Passing chunks to a receiver

A channel keeps what was sent in order until the receiver asks for it. When the receiver is gone,
sending fails, except for the news that a query failed, which nobody waits for.
-/

namespace SearchSql

/-- What a receiver gets. -/
inductive Message
  | chunk (text : String)
  | finish
  /-- The query failed, for the reason given. -/
  | failed (reason : String)
deriving DecidableEq

/-- What a receiver finds that does not wait. -/
inductive Received
  | message (message : Message)
  | empty
  | dropped
deriving DecidableEq

structure Channel where
  pending : List Message := []
  /-- Whether the receiver is gone. -/
  dropped : Bool := false

namespace Channel

def send (channel : Channel) (message : Message) : Channel × Except QueryError Unit :=
  if channel.dropped then (channel, .error (.io "stream receiver dropped"))
  else ({ channel with pending := channel.pending ++ [message] }, .ok ())

def write (channel : Channel) (chunk : String) : Channel × Except QueryError Unit :=
  channel.send (.chunk chunk)

def finish (channel : Channel) : Channel × Except QueryError Unit :=
  channel.send .finish

def abort (channel : Channel) (error : QueryError) : Channel :=
  (channel.send (.failed error.message)).1

/-- Takes the message that was sent first. -/
def receive (channel : Channel) : Channel × Received :=
  if channel.dropped then (channel, .dropped)
  else
    match channel.pending with
    | [] => (channel, .empty)
    | message :: pending => ({ channel with pending }, .message message)

def drop (_ : Channel) : Channel := ⟨[], true⟩

end Channel

end SearchSql
