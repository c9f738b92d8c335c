import AppSync.Proofs.Source.Cache

/-!
The books of a cache: its misses are its entries, and its hits and misses together are the lookups
that completed.
-/

namespace AppSync

namespace Source

/-- A lookup of the source completes. -/
def Resolves (source : Source) : Prop :=
  ∃ resolved, source.lookup = .ok resolved

/-- What a lookup adds to the completed ones; it is `none` where the lookup does not complete. -/
def lookups? (source : Source) : Option (List Source) :=
  match source.lookup with
  | .ok _ => some [source]
  | .error _ => none

/-- What finding a return type adds to them; only an undeclared one is looked up. -/
def returnLookups? (source : Source) (declared : Option String) : Option (List Source) :=
  match source.lookedUp? declared with
  | some actual => actual.lookups?
  | none => some []

/-- A lookup does not complete where the source has no output type. -/
theorem lookups?_eq_none {source : Source} :
    source.lookups? = none ↔ ∃ error, source.lookup = .error error := by
  unfold lookups?
  cases source.lookup <;> simp

/-- A lookup for a return type does not complete where the source has no return type. -/
theorem returnLookups?_eq_none {source : Source} {declared : Option String} :
    source.returnLookups? declared = none ↔
      ∃ error, source.returnedAlone declared = .error error := by
  unfold returnLookups? returnedAlone lookedUp?
  -- Only an undeclared type of a value is looked up.
  cases source.unwrap with
  | none => cases declaration? declared <;> simp
  | some actual =>
    cases declaration? declared with
    | some name => simp
    | none =>
      refine lookups?_eq_none.trans ?_
      dsimp only
      cases actual.lookup <;> simp [Except.map]

/-- What a lookup adds to the completed ones resolves. -/
theorem resolves_of_lookups? (source : Source) :
    ∀ looked ∈ source.lookups?.getD [], looked.Resolves := by
  unfold lookups?
  cases found : source.lookup with
  | error error => nofun
  | ok resolved =>
    intro looked inside
    obtain rfl := List.mem_singleton.mp inside
    exact ⟨resolved, found⟩

/-- What finding a return type adds to the completed lookups resolves. -/
theorem resolves_of_returnLookups? (source : Source) (declared : Option String) :
    ∀ looked ∈ (source.returnLookups? declared).getD [], looked.Resolves := by
  unfold returnLookups?
  cases source.lookedUp? declared with
  | some actual => exact resolves_of_lookups? actual
  | none => nofun

/-- A declared name and the absence of a value both need no lookup. -/
theorem lookedUp?_eq_none {source : Source} {declared : Option String} :
    source.lookedUp? declared = none ↔
      (declaration? declared).isSome = true ∨ source.unwrap = none := by
  unfold lookedUp?
  cases declaration? declared <;> simp

end Source

namespace TypeCache

/-- The cache after lookups of sources in turn. -/
def lookAll (cache : TypeCache) (sources : List Source) : TypeCache :=
  sources.foldl (fun cache source => (cache.resolve source).2) cache

/-- Lookups in turn can be made in two parts. -/
theorem lookAll_append (cache : TypeCache) (sources more : List Source) :
    cache.lookAll (sources ++ more) = (cache.lookAll sources).lookAll more :=
  List.foldl_append

/-- Lookups in turn leave a faithful cache faithful. -/
theorem Faithful.lookAll {cache : TypeCache} (faithful : cache.Faithful) (sources : List Source) :
    (cache.lookAll sources).Faithful := by
  -- Each lookup hands a faithful cache on to the next one.
  induction sources generalizing cache with
  | nil => exact faithful
  | cons source rest ih => exact ih (faithful.resolve source)

/-- A lookup that fails leaves a cache as it was, faithful or not. -/
theorem resolve_of_error {cache : TypeCache} {source : Source} {error : LookupFault}
    (failed : (cache.resolve source).1 = .error error) : (cache.resolve source).2 = cache := by
  -- A hit does not fail, and a miss that fails has stored nothing yet.
  unfold resolve at failed ⊢
  cases unwritable : source.unwritable? with
  | some complaint => rfl
  | none =>
    rw [unwritable] at failed
    cases found : cache.find? source with
    | some resolved => simp [found] at failed
    | none =>
      -- A source that is not stored is stored only if it resolves.
      simp only [found, resolveNew] at failed ⊢
      cases resolved : source.resolve with
      | error error => rfl
      | ok type => simp [resolved] at failed

/-- A return type that is not found leaves a cache as it was. -/
theorem returned_of_error {cache : TypeCache} {source : Source} {declared : Option String}
    {error : LookupFault} (failed : (source.returned cache declared).1 = .error error) :
    (source.returned cache declared).2 = cache := by
  -- Only the lookup of an undeclared type fails.
  unfold Source.returned at failed ⊢
  cases unwrapped : source.unwrap with
  | none => rfl
  | some actual =>
    rw [unwrapped] at failed
    cases named : Source.declaration? declared with
    | some name => rfl
    | none =>
      simp only [named] at failed ⊢
      cases ended : (cache.resolve actual).1 with
      | error error => exact resolve_of_error ended
      | ok type => simp [ended, Except.map] at failed

/-- A return type that needs no lookup leaves a cache as it was. -/
theorem returned_of_unneeded {cache : TypeCache} {source : Source} {declared : Option String}
    (unneeded : source.lookedUp? declared = none) : (source.returned cache declared).2 = cache := by
  unfold Source.lookedUp? at unneeded
  unfold Source.returned
  cases unwrapped : source.unwrap with
  | none => rfl
  | some actual =>
    cases named : Source.declaration? declared with
    | some name => rfl
    | none => simp [named, unwrapped] at unneeded

/-- A lookup through a faithful cache is one of the completed ones, or changes nothing. -/
theorem Faithful.resolve_snd {cache : TypeCache} (faithful : cache.Faithful) (source : Source) :
    (cache.resolve source).2 = cache.lookAll (source.lookups?.getD []) := by
  -- A faithful cache answers as the source does, so that it fails where the source does.
  have answer := faithful.resolve_eq source
  unfold Source.lookups?
  cases found : source.lookup with
  | ok resolved => rfl
  | error error => exact resolve_of_error (answer.trans found)

/-- Finding a return type through a faithful cache takes one completed lookup or changes nothing. -/
theorem Faithful.returned_snd {cache : TypeCache} (faithful : cache.Faithful) (source : Source)
    (declared : Option String) : (source.returned cache declared).2 =
      cache.lookAll ((source.returnLookups? declared).getD []) := by
  have looked (actual : Source) := faithful.resolve_snd actual
  unfold Source.returned Source.returnLookups? Source.lookedUp?
  -- Only an undeclared type of a value is looked up.
  cases source.unwrap with
  | none => cases Source.declaration? declared <;> rfl
  | some actual =>
    cases Source.declaration? declared with
    | some name => rfl
    | none => exact looked actual

/-- The keys that are stored are those of the sources that are found. -/
theorem mem_keys_iff (cache : TypeCache) (source : Source) :
    source.key ∈ cache.entries.map Prod.fst ↔ (cache.find? source).isSome = true := by
  simp [find?, List.find?_isSome]

/-- The books of a cache after completed lookups of sources. -/
structure Booked (cache : TypeCache) (sources : List Source) : Prop where
  /-- Every lookup that completed is counted, whether it was a hit or a miss. -/
  counted : cache.hits + cache.misses = sources.length
  missed : cache.misses = cache.size
  /-- No two entries are under one key. -/
  distinct : (cache.entries.map Prod.fst).Nodup
  stored : ∀ source, source.key ∈ cache.entries.map Prod.fst ↔ source ∈ sources
  resolved : ∀ source ∈ sources, source.Resolves

namespace Booked

variable {cache : TypeCache} {sources : List Source}

/-- The books of a cache that is new. -/
theorem empty : Booked {} [] :=
  ⟨rfl, rfl, .nil, by simp, by simp⟩

/-- What has been looked up resolves, the last source as well as those before it. -/
theorem resolved_concat {source : Source} (booked : Booked cache sources)
    (resolves : source.Resolves) : ∀ looked ∈ sources ++ [source], looked.Resolves := by
  intro looked inside
  rcases List.mem_append.mp inside with earlier | last
  · exact booked.resolved looked earlier
  · exact List.mem_singleton.mp last ▸ resolves

/-- A hit is counted, and the source was looked up before. -/
theorem hit {source : Source} {type : ResolvedType} (booked : Booked cache sources)
    (resolves : source.Resolves) (found : cache.find? source = some type) :
    Booked { cache with hits := cache.hits + 1 } (sources ++ [source]) := by
  have known : source ∈ sources :=
    (booked.stored source).mp ((mem_keys_iff cache source).mpr (by simp [found]))
  refine ⟨?_, booked.missed, booked.distinct, fun looked => ?_, booked.resolved_concat resolves⟩
  · have counted := booked.counted
    simp only [List.length_append, List.length_singleton]
    omega
  · rw [booked.stored looked, List.mem_append, List.mem_singleton]
    exact ⟨.inl, fun either => either.elim id fun same => same ▸ known⟩

/-- A miss is counted, and the source gets an entry under a key that is new. -/
theorem miss {source : Source} {type : ResolvedType} (booked : Booked cache sources)
    (resolves : source.Resolves) (absent : cache.find? source = none) :
    Booked
      { cache with
        entries := cache.entries ++ [(source.key, type)]
        misses := cache.misses + 1 }
      (sources ++ [source]) := by
  have free : source.key ∉ cache.entries.map Prod.fst :=
    mt (mem_keys_iff cache source).mp (by simp [absent])
  refine ⟨?_, ?_, ?_, fun looked => ?_, booked.resolved_concat resolves⟩
  · have counted := booked.counted
    simp only [List.length_append, List.length_singleton]
    omega
  · simp [size, booked.missed]
  · -- The new key is under no entry yet.
    rw [List.map_append, List.perm_append_comm.nodup_iff]
    exact List.nodup_cons.mpr ⟨free, booked.distinct⟩
  · simp only [List.map_append, List.mem_append, booked.stored looked, List.map_cons,
      List.map_nil, List.mem_singleton]
    exact or_congr_right ⟨Source.eq_of_key_eq, congrArg Source.key⟩

/-- A completed lookup is entered in the books, as a hit or as a miss with an entry of its own. -/
theorem resolve {source : Source} {resolved : ResolvedType} (booked : Booked cache sources)
    (complete : source.lookup = .ok resolved) :
    Booked (cache.resolve source).2 (sources ++ [source]) := by
  have resolves : source.Resolves := ⟨resolved, complete⟩
  unfold Source.lookup at complete
  unfold TypeCache.resolve
  cases unwritable : source.unwritable? with
  | some complaint => simp [unwritable] at complete
  | none =>
    rw [unwritable] at complete
    cases found : cache.find? source with
    | some type => exact booked.hit resolves found
    | none =>
      -- The lookup completes, so that there is something to store.
      unfold resolveNew
      cases answer : source.resolve with
      | error error => simp [answer, Except.mapError] at complete
      | ok type => exact booked.miss resolves found

/-- Completed lookups in turn are entered in the books one by one. -/
theorem lookAll {more : List Source} (booked : Booked cache sources)
    (resolves : ∀ source ∈ more, source.Resolves) :
    Booked (cache.lookAll more) (sources ++ more) := by
  -- The sources looked up so far come first in the books of the rest.
  induction more generalizing cache sources with
  | nil => rwa [List.append_nil]
  | cons source rest ih =>
    obtain ⟨resolved, found⟩ := resolves source List.mem_cons_self
    have later := ih (booked.resolve found) fun other inside =>
      resolves other (List.mem_cons_of_mem source inside)
    rwa [List.append_assoc, List.singleton_append] at later

end Booked

end TypeCache

end AppSync
