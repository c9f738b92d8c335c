import AppSync.Load.Session
import AppSync.Proofs.Load.Document

/-! Steps that share one cache answer as each of them does by itself. -/

namespace AppSync

namespace Step

/-- The outcome of a step without any cache; a document is loaded with a cache of its own. -/
def alone : Step → Outcome
  | .resolve source => .resolved (source.resolve.mapError .noArguments)
  | .returned source declared => .returned ((source.returnText declared).mapError .noArguments)
  | .nullability source => .nullability source.isNullable
  | .load entries => .loaded (Load.loadFresh entries)
  | .clear => .cleared

/-- The outcome of a step that looks up a source whose key cannot be encoded. -/
def refusal? : Step → Option Outcome
  | .resolve source => source.unwritable?.map fun complaint =>
    .resolved (.error (.unwritable complaint))
  | .returned source declared =>
    ((source.lookedUp? declared).bind Source.unwritable?).map fun complaint =>
      .returned (.error (.unwritable complaint))
  | .nullability _ => none
  | .load _ => none
  | .clear => none

/-- The texts of which the key of a step is made. -/
def keyTexts : Step → List String
  | .resolve source => source.texts
  | .returned source _ => source.texts
  | .nullability _ => []
  | .load _ => []
  | .clear => []

/-- A step is not refused where its texts have no halves of characters in them. -/
theorem refusal?_eq_none {step : Step}
    (whole : ∀ text ∈ step.keyTexts, Text.hasHalves text = false) : step.refusal? = none := by
  -- Only lookups have keys, which are made of the texts of their sources.
  cases step with
  | resolve source =>
    simp only [refusal?]
    rw [Source.unwritable?_eq_none whole, Option.map_none]
  | returned source declared =>
    simp only [refusal?]
    cases located : source.lookedUp? declared with
    | none => rfl
    | some actual =>
      have part := Source.unwritable?_eq_none fun text member =>
        whole text (Source.texts_of_lookedUp? located member)
      rw [Option.bind_some, part, Option.map_none]
  | nullability source => rfl
  | load entries => rfl
  | clear => rfl

/-- Through a faithful cache a step answers as it does by itself, unless it is refused. -/
theorem run_outcome {cache : TypeCache} (faithful : cache.Faithful) (step : Step) :
    (step.run cache).1 = step.refusal?.getD step.alone := by
  -- A step reads the cache in lookups and loads only.
  cases step with
  | resolve source =>
    simp only [run, faithful.resolve_eq, Source.lookup, refusal?, alone]
    cases source.unwritable? <;> rfl
  | returned source declared =>
    simp only [run, faithful.returned_eq, Source.returnedAlone_eq, refusal?, alone]
    cases (source.lookedUp? declared).bind Source.unwritable? <;> rfl
  | nullability source => rfl
  | load entries =>
    simp only [run, refusal?, alone, Option.getD_none]
    rw [(Load.load_gives entries).answer faithful, Load.loadFresh_eq]
  | clear => rfl

/-- A step leaves a faithful cache faithful, whatever its outcome is. -/
theorem run_faithful {cache : TypeCache} (faithful : cache.Faithful) (step : Step) :
    (step.run cache).2.Faithful := by
  -- A step that fails halfway has stored true entries only, and clearing stores none.
  cases step with
  | resolve source => exact faithful.resolve source
  | returned source declared => exact faithful.returned source declared
  | nullability source => exact faithful
  | load entries => exact (Load.load_gives entries).faithful faithful
  | clear => exact TypeCache.faithful_empty

/-- Through a faithful cache every step of a run answers as it does by itself. -/
theorem runAll_outcomes {cache : TypeCache} (faithful : cache.Faithful) (steps : List Step) :
    (runAll cache steps).map Prod.fst = steps.map fun step => step.refusal?.getD step.alone := by
  -- Each step hands a faithful cache on to the next one.
  induction steps generalizing cache with
  | nil => rfl
  | cons step rest ih =>
    unfold runAll
    rw [List.map_cons, List.map_cons, run_outcome faithful step, ih (run_faithful faithful step)]

/-- The cache that steps leave behind. -/
def cacheAfter (cache : TypeCache) (steps : List Step) : TypeCache :=
  steps.foldl (fun cache step => (step.run cache).2) cache

/-- Steps leave a faithful cache faithful. -/
theorem cacheAfter_faithful {cache : TypeCache} (faithful : cache.Faithful) (steps : List Step) :
    (cacheAfter cache steps).Faithful := by
  -- Each step hands a faithful cache on to the next one.
  induction steps generalizing cache with
  | nil => exact faithful
  | cons step rest ih => exact ih (run_faithful faithful step)

end Step

end AppSync
