import AppSync.Proofs.Load.Lookups
import AppSync.Proofs.Load.Session

/-! The books of a cache that steps share, after each of them. -/

namespace AppSync.Step

open TypeCache (Booked)

/-- The lookups that a step completes. -/
def lookups : Step → List Source
  | .resolve source => source.lookups?.getD []
  | .returned source declared => (source.returnLookups? declared).getD []
  | .nullability _ => []
  | .load entries => Load.documentLookups entries
  | .clear => []

/-- The lookups that count after a step: clearing forgets all that were completed before. -/
def lookupsSince (earlier : List Source) : Step → List Source
  | .clear => []
  | step => earlier ++ step.lookups

/-- The lookups that steps completed since the beginning or the last clearing. -/
def completedLookups (steps : List Step) : List Source :=
  steps.foldl lookupsSince []

/-- Steps that ask nothing of the cache, or fail to resolve what they look up. -/
inductive IsIdle : Step → Outcome → Prop
  | unresolved (source : Source) (error : LookupFault) :
    IsIdle (.resolve source) (.resolved (.error error))
  | notReturned (source : Source) (declared : Option String) (error : LookupFault) :
    IsIdle (.returned source declared) (.returned (.error error))
  | declared (source : Source) {declared : Option String} (outcome : Outcome)
    (named : (Source.declaration? declared).isSome = true) :
    IsIdle (.returned source declared) outcome
  | noValue {source : Source} (declared : Option String) (outcome : Outcome)
    (absent : source.unwrap = none) : IsIdle (.returned source declared) outcome
  | nullability (source : Source) (outcome : Outcome) : IsIdle (.nullability source) outcome

/-- An idle step leaves the cache as it was, whatever is in it. -/
theorem run_idle {cache : TypeCache} {step : Step} (idle : IsIdle step (step.run cache).1) :
    (step.run cache).2 = cache := by
  -- The outcome tells of a failed lookup, and the step itself of one that is not needed.
  generalize ended : (step.run cache).1 = outcome at idle
  cases idle with
  | unresolved source error => exact TypeCache.resolve_of_error (Outcome.resolved.inj ended)
  | notReturned source declared error =>
    exact TypeCache.returned_of_error (Outcome.returned.inj ended)
  | declared source outcome named =>
    exact TypeCache.returned_of_unneeded (Source.lookedUp?_eq_none.mpr (.inl named))
  | noValue declared outcome absent =>
    exact TypeCache.returned_of_unneeded (Source.lookedUp?_eq_none.mpr (.inr absent))
  | nullability source outcome => rfl

/-- The sources that a step looks up to the end resolve. -/
theorem resolves_of_lookups (step : Step) : ∀ source ∈ step.lookups, source.Resolves := by
  cases step with
  | resolve source => exact source.resolves_of_lookups?
  | returned source declared => exact source.resolves_of_returnLookups? declared
  | nullability source => nofun
  | load entries => exact (Load.load_looksUp entries).resolved
  | clear => nofun

/-- A step that does not clear leaves a faithful cache as its completed lookups do. -/
theorem run_lookAll {cache : TypeCache} (faithful : cache.Faithful) {step : Step}
    (keeps : step ≠ .clear) : (step.run cache).2 = cache.lookAll step.lookups := by
  -- A load is the only step that may take many lookups.
  cases step with
  | resolve source => exact faithful.resolve_snd source
  | returned source declared => exact faithful.returned_snd source declared
  | nullability source => rfl
  | load entries => exact (Load.load_looksUp entries).cache faithful
  | clear => exact absurd rfl keeps

/-- A step keeps the books. -/
theorem run_booked {cache : TypeCache} {earlier : List Source} (faithful : cache.Faithful)
    (booked : Booked cache earlier) (step : Step) :
    Booked (step.run cache).2 (lookupsSince earlier step) := by
  -- Clearing begins new books, and every other step adds its lookups to them.
  by_cases clears : step = .clear
  · rw [clears]
    exact .empty
  · have since : lookupsSince earlier step = earlier ++ step.lookups := by
      cases step <;> first | rfl | exact absurd rfl clears
    rw [since, run_lookAll faithful clears]
    exact booked.lookAll step.resolves_of_lookups

/-- Steps one after the other keep the books. -/
theorem cacheAfter_booked {cache : TypeCache} {earlier : List Source} (faithful : cache.Faithful)
    (booked : Booked cache earlier) (steps : List Step) :
    Booked (cacheAfter cache steps) (steps.foldl lookupsSince earlier) := by
  -- Each step hands on a faithful cache with its books.
  induction steps generalizing cache earlier with
  | nil => exact booked
  | cons step rest ih => exact ih (run_faithful faithful step) (run_booked faithful booked step)

/-- A run takes each step with the cache that the steps in front of it leave behind. -/
theorem runAll_get? {cache : TypeCache} {steps : List Step} {index : Nat} {step : Step}
    (taken : steps[index]? = some step) :
    (runAll cache steps)[index]? = some (step.run (cacheAfter cache (steps.take index))) := by
  -- The first step is taken with the given cache, and the others with the one that it leaves.
  induction steps generalizing cache index with
  | nil => cases taken
  | cons first rest ih =>
    cases index with
    | zero =>
      obtain rfl := Option.some.inj taken
      rfl
    | succ index => exact ih taken

/-- The cache that a step leaves behind is the one after the steps up to it. -/
theorem cacheAfter_take {cache : TypeCache} {steps : List Step} {index : Nat} {step : Step}
    (taken : steps[index]? = some step) :
    cacheAfter cache (steps.take (index + 1)) =
      (step.run (cacheAfter cache (steps.take index))).2 := by
  unfold cacheAfter
  rw [List.take_add_one, taken, Option.toList_some, List.foldl_append]
  rfl

/-- A document with one type, whose second field has no element type. -/
def brokenDocument : Entries :=
  [(.text "types", .list [.mapping [(.text "name", .text "Item"), (.text "fields", .list
    [.mapping [(.text "name", .text "size"), (.text "source", .text "System.Int32")],
      .mapping [(.text "name", .text "parts"), (.text "source", .mapping
        [(.text "name", .text "System.Array"), (.text "is_collection", .bool true)])],
      .mapping [(.text "name", .text "title"), (.text "source", .text "System.String")]])]])]

/-- A run that clears after its first lookup, and makes its second one again within a load. -/
def someSteps : List Step :=
  [.resolve { name := "System.Guid" }, .clear, .resolve { name := "System.Int32" },
    .load brokenDocument]

/--
After every step of a run on one cache, which starts empty, the misses are the entries, and the hits
and misses together are the lookups that completed since the beginning or the last clearing. A step
that is idle leaves the cache as the steps in front of it did.
-/
theorem runAll_booked {steps : List Step} {index : Nat} {step : Step}
    (taken : steps[index]? = some step) :
    ∃ outcome cache, (runAll {} steps)[index]? = some (outcome, cache) ∧
      Booked cache (completedLookups (steps.take (index + 1))) ∧
      (IsIdle step outcome → cache = cacheAfter {} (steps.take index)) := by
  -- The books are kept from the start on, and the last of the steps up to here is this one.
  have booked := cacheAfter_booked TypeCache.faithful_empty .empty (steps.take (index + 1))
  rw [cacheAfter_take taken] at booked
  exact ⟨_, _, runAll_get? taken, booked, run_idle⟩

/-- A load that keeps nothing still makes its lookups: here one hit, after the miss of a step. -/
theorem runAll_booked_load :
    (∃ outcome cache, (runAll {} someSteps)[3]? = some (outcome, cache) ∧
      Booked cache (completedLookups someSteps) ∧
      (IsIdle (.load brokenDocument) outcome → cache = cacheAfter {} (someSteps.take 3))) ∧
    (completedLookups someSteps).length = 2 ∧
    (cacheAfter {} someSteps).hits = 1 ∧ (cacheAfter {} someSteps).misses = 1 :=
  ⟨runAll_booked rfl, by decide +kernel, by decide +kernel, by decide +kernel⟩

end AppSync.Step
