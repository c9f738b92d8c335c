import AppSync.Proofs.Load.Trail

/-!
Extracting a type or an operation answers the same through every faithful cache. The place in the
document shows in faults only: it decides neither what is accepted nor what is an accident.
-/

namespace AppSync

/-- The accident that ends more than an extraction, if it is one. -/
def ExtractionEnd.accident? : ExtractionEnd → Option Accident
  | .fault _ => none
  | .accident found => some found

/-- Ends that are both faults or the same accident, and that are equal where exactness is asked. -/
def SameEnd (exact : Prop) (left right : ExtractionEnd) : Prop :=
  (exact → left = right) ∧ left.accident? = right.accident?

/-- An end is the same as itself. -/
theorem SameEnd.refl (exact : Prop) (end_ : ExtractionEnd) : SameEnd exact end_ end_ :=
  ⟨fun _ => rfl, rfl⟩

/-- Faults are the same wherever they are equal if exactness is asked. -/
theorem SameEnd.fault {exact : Prop} {left right : ExtractionFault} (equal : exact → left = right) :
    SameEnd exact (.fault left) (.fault right) :=
  ⟨fun asked => by rw [equal asked], rfl⟩

namespace Extraction

open Trailing (Alike)

variable {α : Type} {exact : Prop} {place other : String}

/-- Problems end an extraction in the same way, whichever fault they make. -/
theorem endOf_same {fault fault' : List Problem → ExtractionFault}
    (equal : exact → fault = fault') (problems : List Problem) :
    SameEnd exact (endOf fault problems) (endOf fault' problems) := by
  unfold endOf
  -- A complaint about the text of a problem is an accident at any place.
  cases Problem.unstatable? problems with
  | some complaint => exact .refl exact _
  | none => exact .fault fun asked => by rw [equal asked]

/-- Refusals are alike if their faults are. -/
theorem refuse_alike {fault fault' : ExtractionFault} (equal : exact → fault = fault') :
    Alike (SameEnd exact) (refuse fault : Extraction α) (refuse fault') :=
  .throw (.fault equal)

/-- Readings of the same value are alike. -/
theorem ofReading_alike {fault fault' : List Problem → ExtractionFault}
    (equal : exact → fault = fault') (reading : Reading α) :
    Alike (SameEnd exact) (ofReading fault reading) (ofReading fault' reading) := by
  -- A reading has nothing to do with the trail.
  cases reading with
  | ok value => exact .pure value
  | error problems => exact .throw (endOf_same equal problems)

/-- The items of a list do not depend on a place. -/
theorem itemsOf_alike (value : Value) :
    Alike (SameEnd exact) (itemsOf value) (itemsOf value) := by
  unfold itemsOf
  split
  · exact .pure _
  · exact .pure _
  · exact refuse_alike fun _ => rfl

/-- The source type that a value describes does not depend on the place. -/
theorem parseSource_alike (places : exact → place = other) (value : Value) :
    Alike (SameEnd exact) (parseSource place value) (parseSource other value) :=
  ofReading_alike (fun asked => by rw [places asked]) _

/-- A lookup sets the cache, and turns what it answers into a value or a fault. -/
theorem run_lookup (place : String) (look : TypeCache → Except LookupFault α × TypeCache)
    (trail : Trail) :
    (do ofLookup place (look (← get).cache) : Extraction α).run trail =
      ((look trail.cache).1.mapError fun error => .fault (.unresolvable place error),
        { trail with cache := (look trail.cache).2 }) := by
  change (ofLookup place (look trail.cache)).run trail = _
  unfold ofLookup
  rw [Trailing.run_bind]
  cases (look trail.cache).1 <;> rfl

/-- Lookups with the same answers are alike whatever trails they start with. -/
theorem lookup_alike (places : exact → place = other)
    (look : TypeCache → Except LookupFault α × TypeCache) {answer : Except LookupFault α}
    (answers : ∀ {cache : TypeCache}, cache.Faithful → (look cache).1 = answer)
    (keeps : ∀ {cache : TypeCache}, cache.Faithful → (look cache).2.Faithful) :
    Alike (SameEnd exact) (do ofLookup place (look (← get).cache))
      (do ofLookup other (look (← get).cache)) := by
  -- Both caches are faithful, so that both lookups have the one answer.
  constructor
  · intro trail trail' faithful faithful'
    rw [run_lookup, run_lookup, answers faithful, answers faithful']
    cases answer with
    | ok value => exact .ok value
    | error error => exact .error (.fault fun asked => by rw [places asked])
  · intro trail faithful
    rw [run_lookup]
    exact keeps faithful
  · intro trail faithful
    rw [run_lookup]
    exact keeps faithful

/-- The output type of a source does not depend on the place. -/
theorem resolveSource_alike (places : exact → place = other) (source : Source) :
    Alike (SameEnd exact) (resolveSource place source) (resolveSource other source) :=
  lookup_alike places (fun cache => cache.resolve source)
    (fun faithful => faithful.resolve_eq source) (fun faithful => faithful.resolve source)

/-- The return type of a source does not depend on the place. -/
theorem returnedBy_alike (places : exact → place = other) (source : Source)
    (declared : Option String) :
    Alike (SameEnd exact) (returnedBy place source declared)
      (returnedBy other source declared) := by
  unfold returnedBy
  -- The note on wrappings leaves the cache alone.
  refine .bind (.modify fun _ => rfl) fun _ => ?_
  exact lookup_alike places (fun cache => source.returned cache declared)
    (fun faithful => faithful.returned_eq source declared)
    (fun faithful => faithful.returned source declared)

/-- A field or argument is resolved in the same way wherever it stands. -/
theorem resolveMember_alike (places : exact → place = other) (nullable : Bool) (value : Value) :
    Alike (SameEnd exact) (resolveMember place nullable value)
      (resolveMember other nullable value) := by
  have below : exact → place ++ ".source" = other ++ ".source" := fun asked => by
    rw [places asked]
  unfold resolveMember
  -- A member with a source is resolved, one without is taken as it is.
  split
  · split
    · exact .pure _
    · refine .bind (parseSource_alike below _) fun source => ?_
      exact .bind (resolveSource_alike below source) fun resolved => .pure _
  · exact refuse_alike fun asked => by rw [places asked]

/-- Fields or arguments are resolved in the same way wherever they stand. -/
theorem resolveMembers_alike (places : exact → place = other) (nullable : Bool) (index : Nat)
    (values : List Value) :
    Alike (SameEnd exact) (resolveMembers place nullable index values)
      (resolveMembers other nullable index values) := by
  -- The members come one after the other, each at its own place.
  induction values generalizing index with
  | nil => exact .pure _
  | cons value rest ih =>
    unfold resolveMembers
    refine .bind (resolveMember_alike (fun asked => by rw [places asked]) nullable value) ?_
    exact fun member => .bind (ih (index + 1)) fun members => .pure _

/-- The members at a key are resolved in the same way wherever they stand. -/
theorem resolveAt_alike (places : exact → place = other) (key : String) (nullable : Bool)
    (entries : Entries) :
    Alike (SameEnd exact) (resolveAt key place nullable entries)
      (resolveAt key other nullable entries) := by
  unfold resolveAt
  -- A key that is absent or null leaves the entries as they are.
  split
  · exact .pure _
  · refine .bind (itemsOf_alike _) fun items => ?_
    refine .bind (resolveMembers_alike ?_ nullable 0 items) fun members => .pure _
    exact fun asked => by rw [places asked]

/-- A type declaration is taken in the same way wherever it stands. -/
theorem type_alike (places : exact → place = other) (value : Value) :
    Alike (SameEnd exact) (type place value) (type other value) := by
  unfold type
  split
  · rename_i entries _
    -- Behind the check of the name the fields are resolved and the type is read.
    have body : Alike (SameEnd exact)
        (do
          let resolved ← resolveAt "fields" place true entries
          ofReading .invalid (NamedType.read (.mapping resolved)))
        (do
          let resolved ← resolveAt "fields" other true entries
          ofReading .invalid (NamedType.read (.mapping resolved))) :=
      .bind (resolveAt_alike places "fields" true entries) fun resolved =>
        ofReading_alike (fun _ => rfl) _
    dsimp only
    split
    · split
      · exact .bind (refuse_alike fun _ => rfl) fun _ => body
      · exact body
    · exact body
  · exact refuse_alike fun _ => rfl

/-- The declared return type does not depend on a place. -/
theorem declaredReturn_alike (entries : Entries) :
    Alike (SameEnd exact) (declaredReturn entries) (declaredReturn entries) := by
  unfold declaredReturn
  split
  · exact .pure _
  · exact .pure _
  · exact refuse_alike fun _ => rfl

/-- Whether a field can be shown does not depend on a place. -/
theorem checkShown_alike (entries : Entries) :
    Alike (SameEnd exact) (checkShown entries) (checkShown entries) := by
  unfold checkShown
  split
  · exact .throw (.refl exact _)
  · exact .pure _

/-- The return type of an operation is found in the same way wherever it stands. -/
theorem resolveReturn_alike (places : exact → place = other) (entries : Entries) :
    Alike (SameEnd exact) (resolveReturn place entries) (resolveReturn other entries) := by
  have below : exact → place ++ ".source_return" = other ++ ".source_return" := fun asked => by
    rw [places asked]
  unfold resolveReturn
  -- The declared type is read first; a source comes in only where it is given.
  refine .bind (declaredReturn_alike entries) fun declared => ?_
  dsimp only
  split
  · refine .bind (parseSource_alike below _) fun source => ?_
    exact .bind (returnedBy_alike below source declared) fun text => .pure _
  · split
    · exact .pure _
    · exact .bind (checkShown_alike entries) fun _ => .pure _

/-- An operation declaration is taken in the same way wherever it stands. -/
theorem operation_alike (places : exact → place = other) (value : Value) :
    Alike (SameEnd exact) (operation place value) (operation other value) := by
  unfold operation
  -- The return type, the arguments and the operation itself, each alike.
  split
  · refine .bind (resolveReturn_alike places _) fun found => ?_
    refine .bind (resolveAt_alike places "arguments" false found.1) fun resolved => ?_
    exact .bind (ofReading_alike (fun _ => rfl) _) fun operation => .pure _
  · exact refuse_alike fun _ => rfl

open Trailing (Gives alone)

/-- A lookup with one answer through faithful caches gives this answer, at its place. -/
theorem lookup_gives (place : String) (look : TypeCache → Except LookupFault α × TypeCache)
    {answer : Except LookupFault α}
    (answers : ∀ {cache : TypeCache}, cache.Faithful → (look cache).1 = answer)
    (keeps : ∀ {cache : TypeCache}, cache.Faithful → (look cache).2.Faithful) :
    Gives (do ofLookup place (look (← get).cache) : Extraction α)
      (answer.mapError fun error => .fault (.unresolvable place error)) := by
  constructor
  · intro trail faithful
    rw [run_lookup, answers faithful]
  · intro trail faithful
    rw [run_lookup]
    exact keeps faithful

/-- An extraction that is exactly like itself gives what it answers by itself. -/
theorem gives_of_alike {extraction : Extraction α}
    (alike : Alike (SameEnd True) extraction extraction) : Gives extraction (alone extraction) :=
  (alike.imp fun _ _ same => same.1 trivial).gives

/-- Every faithful cache gives the type that a value declares by itself. -/
theorem type_gives (place : String) (value : Value) :
    Gives (type place value) (alone (type place value)) :=
  gives_of_alike (type_alike (fun _ => rfl) value)

/-- Every faithful cache gives the operation that a value declares by itself. -/
theorem operation_gives (place : String) (value : Value) :
    Gives (operation place value) (alone (operation place value)) :=
  gives_of_alike (operation_alike (fun _ => rfl) value)

end Extraction

end AppSync
