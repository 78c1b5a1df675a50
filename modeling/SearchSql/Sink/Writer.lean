import SearchSql.Error

/-!
# Writing chunks to a destination of bytes

A writer hands chunks on to a destination and counts the bytes of those that were taken whole. A
destination may have a capacity: it takes what still fits of a chunk and refuses the rest. Ending
and aborting both finish a writer and flush the destination, but only ending reports that the flush
failed.
-/

namespace SearchSql

/-- A destination of bytes, by what it has taken, what it can take, and the outcome of a flush. -/
structure Destination where
  taken : List UInt8 := []
  /-- The bytes that it takes in all; any number when absent. -/
  capacity : Option Nat := none
  flush : Except String Unit := .ok ()

namespace Destination

/-- The bytes of a text that still fit. -/
def fitting (destination : Destination) (bytes : List UInt8) : List UInt8 :=
  match destination.capacity with
  | none => bytes
  | some capacity => bytes.take (capacity - destination.taken.length)

/-- Takes the bytes that fit, and fails when some do not. -/
def take (destination : Destination) (bytes : List UInt8) : Destination × Except String Unit :=
  let accepted := destination.fitting bytes
  ({ destination with taken := destination.taken ++ accepted },
    if accepted.length = bytes.length then .ok () else .error "writer full")

end Destination

structure Writer where
  destination : Destination
  /-- The bytes of the chunks that were taken whole. -/
  bytesWritten : Nat := 0
  /-- Whether a terminal operation came. -/
  finished : Bool := false

namespace Writer

def ioResult (outcome : Except String Unit) : Except QueryError Unit :=
  outcome.mapError QueryError.io

def write (writer : Writer) (chunk : String) : Writer × Except QueryError Unit :=
  let bytes := chunk.toUTF8.toList
  let (destination, outcome) := writer.destination.take bytes
  match outcome with
  | .ok () =>
    ({ writer with destination, bytesWritten := writer.bytesWritten + bytes.length }, .ok ())
  | .error reason => ({ writer with destination }, .error (.io reason))

def finish (writer : Writer) : Writer × Except QueryError Unit :=
  ({ writer with finished := true }, ioResult writer.destination.flush)

/-- Finishes after a failure, which is not passed on; nor is a failure to flush. -/
def abort (writer : Writer) : Writer := { writer with finished := true }

end Writer

end SearchSql
