import AppSync.Source.Resolution

/-! A memo of resolved types that several resolutions share. -/

namespace AppSync

/-- Why no type is found for a source. -/
inductive LookupFault where
  | noArguments (error : Source.NoArguments)
  /-- The key of the source cannot be written. -/
  | unwritable (complaint : String)
deriving DecidableEq, Repr

/-- The sentence that states a fault. -/
def LookupFault.message : LookupFault → String
  | .noArguments error => error.message
  | .unwritable complaint => "Error serializing to JSON: UnicodeEncodeError: " ++ complaint

/-- Resolved types by the key of their source, and how lookups went since the last clearing. -/
structure TypeCache where
  entries : List (String × ResolvedType) := []
  hits : Nat := 0
  misses : Nat := 0
deriving Inhabited

namespace TypeCache

/-- The type stored for a source. -/
def find? (cache : TypeCache) (source : Source) : Option ResolvedType :=
  (cache.entries.find? fun entry => entry.1 = source.key).map (·.2)

/-- Resolves a source that is not stored. -/
def resolveNew (cache : TypeCache) (source : Source) :
    Except LookupFault ResolvedType × TypeCache :=
  match source.resolve with
  | .error error => (.error (.noArguments error), cache)
  | .ok resolved =>
    (.ok resolved,
      { cache with
        entries := cache.entries ++ [(source.key, resolved)]
        misses := cache.misses + 1 })

/-- Resolves a source through the cache; a failure leaves the cache as it was. -/
def resolve (cache : TypeCache) (source : Source) :
    Except LookupFault ResolvedType × TypeCache :=
  match source.unwritable? with
  | some complaint => (.error (.unwritable complaint), cache)
  | none =>
    match cache.find? source with
    | some found => (.ok found, { cache with hits := cache.hits + 1 })
    | none => cache.resolveNew source

/-- The number of stored types. -/
def size (cache : TypeCache) : Nat := cache.entries.length

/-- A cache without entries and counts. -/
def clear (_cache : TypeCache) : TypeCache := {}

end TypeCache

end AppSync
