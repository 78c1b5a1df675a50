import SearchSql.Error
import SearchSql.Mapping.Basic

/-!
# A memory in front of a source of mappings

A source is given by its reply to each lookup. The cache keeps the mapping of an index for as long
as its lifetime says and asks the source for any other; a lifetime of zero keeps nothing. A failed
lookup is passed on as it is and stores nothing.
-/

namespace SearchSql.Mapping

/-- A mapping and the second at which it was fetched. -/
structure Fetched where
  mapping : Mapping
  time : Nat

structure Cache where
  /-- The replies of the source, counted from zero. -/
  source : Nat → Except BackendError Mapping
  /-- The seconds for which a mapping is kept. -/
  lifetime : Nat := 300
  entries : Table Fetched := []
  /-- The indices that the source was asked for, in order. -/
  lookups : List String := []

namespace Cache

/-- What is kept about an index, unless it is too old. -/
def fresh? (cache : Cache) (now : Nat) (index : String) : Option Mapping :=
  match Table.get? cache.entries index with
  | some fetched => if now - fetched.time < cache.lifetime then some fetched.mapping else none
  | none => none

/-- Asks the source, and keeps a mapping that it gives. -/
def fetch (cache : Cache) (now : Nat) (index : String) : Except BackendError Mapping × Cache :=
  let asked := { cache with lookups := cache.lookups ++ [index] }
  match cache.source cache.lookups.length with
  | .error cause => (.error cause, asked)
  | .ok mapping =>
    (.ok mapping, { asked with entries := Table.put index ⟨mapping, now⟩ cache.entries })

def get (cache : Cache) (now : Nat) (index : String) : Except BackendError Mapping × Cache :=
  match cache.fresh? now index with
  | some mapping => (.ok mapping, cache)
  | none => cache.fetch now index

def invalidate (cache : Cache) (index : String) : Cache :=
  { cache with entries := Table.erase index cache.entries }

end Cache

end SearchSql.Mapping
