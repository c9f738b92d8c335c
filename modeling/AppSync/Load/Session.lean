import AppSync.Load.Document

/-! Sessions: steps of resolving and loading that share one cache of resolved types. -/

namespace AppSync

/-- A step that may use the shared cache. -/
inductive Step where
  | resolve (source : Source)
  | returned (source : Source) (declared : Option String)
  | nullability (source : Source)
  | load (entries : Entries)
  | clear

/-- What a step answers. -/
inductive Outcome where
  | resolved (result : Except LookupFault ResolvedType)
  | returned (result : Except LookupFault String)
  | nullability (isNullable : Bool)
  | loaded (result : Except Trouble Report)
  | cleared

/-- Takes one step. -/
def Step.run (cache : TypeCache) : Step → Outcome × TypeCache
  | .resolve source =>
    let found := cache.resolve source
    (.resolved found.1, found.2)
  | .returned source declared =>
    let found := source.returned cache declared
    (.returned found.1, found.2)
  | .nullability source => (.nullability source.isNullable, cache)
  | .load entries =>
    let found := (Load.load entries).run { cache }
    (.loaded found.1, found.2.cache)
  | .clear => (.cleared, cache.clear)

/-- Takes steps one after the other; each answer comes with the cache as the step left it. -/
def Step.runAll (cache : TypeCache) : List Step → List (Outcome × TypeCache)
  | [] => []
  | step :: rest =>
    let found := step.run cache
    found :: Step.runAll found.2 rest

end AppSync
