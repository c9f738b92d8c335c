import AppSync.Proofs.Document.Lookup
import AppSync.Proofs.Load.Document
import AppSync.Proofs.Source.Lookups

/-!
Which lookups a document completes: those of its members and return types in order, where each entry
stops at the first that does not complete, and the document at the first accident.
-/

namespace AppSync

open Trailing (Gives alone)

variable {ε α β : Type}

namespace Trailing

/-- A computation leaves a faithful cache as completed lookups of the sources do. -/
structure LooksUp (action : Trailing ε α) (sources : List Source) : Prop where
  resolved : ∀ source ∈ sources, source.Resolves
  cache : ∀ {trail : Trail}, trail.cache.Faithful →
    (action.run trail).2.cache = trail.cache.lookAll sources

namespace LooksUp

variable {action : Trailing ε α} {next : α → Trailing ε β} {sources more : List Source}

/-- What leaves the cache alone looks up nothing. -/
theorem nothing (kept : ∀ trail, (action.run trail).2.cache = trail.cache) : LooksUp action [] :=
  ⟨nofun, fun _ => kept _⟩

/-- A value that is there already needs no lookup. -/
theorem pure (value : α) : LooksUp (Pure.pure value : Trailing ε α) [] :=
  nothing fun _ => rfl

/-- Giving up needs no lookup. -/
theorem throw (error : ε) : LooksUp (throw error : Trailing ε α) [] :=
  nothing fun _ => rfl

/-- A computation that goes on makes more lookups. -/
theorem bind_ok {value : α} (first : LooksUp action sources) (gives : Gives action (.ok value))
    (then_ : LooksUp (next value) more) : LooksUp (action >>= next) (sources ++ more) := by
  -- The first lookups leave the cache faithful, which the second ones start with.
  refine ⟨fun source inside => ?_, fun {trail} faithful => ?_⟩
  · rcases List.mem_append.mp inside with earlier | later
    · exact first.resolved source earlier
    · exact then_.resolved source later
  · rw [run_bind, gives.answer faithful, TypeCache.lookAll_append, ← first.cache faithful]
    exact then_.cache (gives.faithful faithful)

/-- A computation that ends with an error makes no more lookups. -/
theorem bind_error {error : ε} (first : LooksUp action sources)
    (gives : Gives action (.error error)) : LooksUp (action >>= next) sources := by
  -- The error is the same through every faithful cache.
  refine ⟨first.resolved, fun {trail} faithful => ?_⟩
  rw [run_bind, gives.answer faithful]
  exact first.cache faithful

/-- What goes on without lookups adds none, whether it comes to that or not. -/
theorem before (first : LooksUp action sources) (then_ : ∀ value, LooksUp (next value) []) :
    LooksUp (action >>= next) sources := by
  refine ⟨first.resolved, fun {trail} faithful => ?_⟩
  have left := first.cache faithful
  -- An error ends the computation, and a value is gone on with.
  rw [run_bind]
  cases (action.run trail).1 with
  | error error => exact left
  | ok value =>
    have still : (action.run trail).2.cache.Faithful := left ▸ faithful.lookAll sources
    exact ((then_ value).cache still).trans left

end LooksUp

/--
A computation has a value that holds what is asked, its lookups being completed, or it has an error
and completes none.
-/
inductive Completes (action : Trailing ε α) (holds : α → Prop) : Option (List Source) → Prop
  | value {value : α} {sources : List Source} (gives : Gives action (.ok value))
    (held : holds value) (looks : LooksUp action sources) : Completes action holds (some sources)
  | error {error : ε} (gives : Gives action (.error error)) (looks : LooksUp action []) :
    Completes action holds none

namespace Completes

variable {action : Trailing ε α} {next : α → Trailing ε β} {holds : α → Prop} {later : β → Prop}
  {found : Option (List Source)}

/-- A value that is there already completes without lookups. -/
theorem pure {value : α} (held : holds value) :
    Completes (Pure.pure value : Trailing ε α) holds (some []) :=
  .value (.pure value) held (.pure value)

/-- Giving up completes nothing. -/
theorem throw (error : ε) : Completes (throw error : Trailing ε α) holds none :=
  .error (.throw error) (.throw error)

/-- What goes on after no lookups completes the lookups of the rest. -/
theorem after (first : Completes action holds (some []))
    (then_ : ∀ value, holds value → Completes (next value) later found) :
    Completes (action >>= next) later found := by
  cases first with
  | value gives held looks =>
    -- Nothing comes in front of the lookups of the rest.
    cases then_ _ held with
    | value gives' held' looks' =>
      exact .value (gives.bind_ok gives') held' (looks.bind_ok gives looks')
    | error gives' looks' => exact .error (gives.bind_ok gives') (looks.bind_ok gives looks')

/-- What has an error does not go on. -/
theorem stop (first : Completes action holds none) : Completes (action >>= next) later none := by
  cases first with
  | error gives looks => exact .error gives.bind_error (looks.bind_error gives)

/-- What is made of a value takes no lookups. -/
theorem map {make : α → β} (first : Completes action holds found)
    (kept : ∀ value, holds value → later (make value)) :
    Completes (action >>= fun value => Pure.pure (make value)) later found := by
  have made := fun value => LooksUp.pure (ε := ε) (make value)
  cases first with
  | value gives held looks => exact .value (gives.map make) (kept _ held) (looks.before made)
  | error gives looks => exact .error (gives.map make) (looks.before made)

/-- What goes on after completed lookups adds its own to them. -/
theorem bind {more : List Source} (first : Completes action holds found)
    (then_ : ∀ value, holds value → LooksUp (next value) more) :
    LooksUp (action >>= next) (found.elim [] (· ++ more)) := by
  cases first with
  | value gives held looks => exact looks.bind_ok gives (then_ _ held)
  | error gives looks => exact looks.bind_error gives

end Completes

end Trailing

namespace Extraction

open Trailing (LooksUp Completes)

/-- The completed lookup of a member; it is `none` where the member is not resolved. -/
def memberLookups? (value : Value) : Option (List Source) :=
  match value.unfolded with
  | .mapping entries =>
    match given? "source" entries with
    | none => some []
    | some raw =>
      match Source.ofValue raw with
      | .ok source => source.lookups?
      | .error _ => none
  | _ => none

/-- The completed lookups of members, up to the first that is not resolved. -/
def memberLookups : List Value → List Source
  | [] => []
  | value :: rest => (memberLookups? value).elim [] (· ++ memberLookups rest)

/-- The completed lookups of the members at a key. -/
def lookupsAt (key : String) (entries : Entries) : List Source :=
  match (Entries.get? key entries).map Value.unfolded with
  | some (.list items) => memberLookups items
  | _ => []

/-- The name of a type is that of a root. -/
def hasReservedName (entries : Entries) : Bool :=
  match Entries.get? "name" entries with
  | some (.scalar (.text name)) => Root.isName name
  | _ => false

/-- The completed lookups of a type declaration. -/
def typeLookups (value : Value) : List Source :=
  match value.unfolded with
  | .mapping entries => if hasReservedName entries then [] else lookupsAt "fields" entries
  | _ => []

/-- The completed lookup of a return type; it is `none` where no return type is found. -/
def returnLookups? (entries : Entries) (declared : Option String) : Option (List Source) :=
  match given? "source_return" entries with
  | some raw =>
    match Source.ofValue raw with
    | .ok source => source.returnLookups? declared
    | .error _ => none
  | none =>
    if (Source.declaration? declared).isSome then some []
    -- The note on a fallback has to show the field.
    else if (Entries.get? "field_name" entries).any Value.hasOverlong then none
    else some []

/-- The declared return type; it is `none` where that is no text. -/
def declaredReturn? (entries : Entries) : Option (Option String) :=
  match given? "return_type" entries with
  | none => some none
  | some (.scalar (.text name)) => some (some name)
  | some _ => none

/-- The completed lookups of an operation: that of its return type, and those of its arguments. -/
def operationLookups (value : Value) : List Source :=
  match value.unfolded with
  | .mapping entries =>
    ((declaredReturn? entries).bind (returnLookups? entries)).elim []
      (· ++ lookupsAt "arguments" entries)
  | _ => []

variable {α : Type}

/-- A reading takes no lookups. -/
theorem ofReading_looksUp (fault : List Problem → ExtractionFault) (reading : Reading α) :
    LooksUp (ofReading fault reading) [] := by
  cases reading with
  | ok value => exact .pure value
  | error problems => exact .throw _

/-- The source that a value describes takes no lookups. -/
theorem parseSource_completes (place : String) (value : Value) :
    Completes (parseSource place value) (Source.ofValue value = .ok ·)
      (match Source.ofValue value with
        | .ok _ => some []
        | .error _ => none) := by
  unfold parseSource
  cases Source.ofValue value with
  | ok source => exact .pure rfl
  | error problems => exact .throw _

/-- A lookup completes as what it answers and what it does to faithful caches say. -/
theorem lookup_completes (place : String) (look : TypeCache → Except LookupFault α × TypeCache)
    {answer : Except LookupFault α} {found : Option (List Source)}
    (answers : ∀ {cache : TypeCache}, cache.Faithful → (look cache).1 = answer)
    (keeps : ∀ {cache : TypeCache}, cache.Faithful → (look cache).2.Faithful)
    (left : ∀ {cache : TypeCache}, cache.Faithful →
      (look cache).2 = cache.lookAll (found.getD []))
    (resolved : ∀ source ∈ found.getD [], source.Resolves)
    (ended : found = none ↔ ∃ error, answer = .error error) :
    Completes (do ofLookup place (look (← get).cache) : Extraction α) (fun _ => True) found := by
  have gives := lookup_gives place look answers keeps
  have looks : LooksUp (do ofLookup place (look (← get).cache) : Extraction α)
      (found.getD []) := by
    refine ⟨resolved, fun {trail} faithful => ?_⟩
    rw [run_lookup]
    exact left faithful
  -- There is nothing to look up exactly where the lookup is answered with an error.
  cases found with
  | none =>
    obtain ⟨error, rfl⟩ := ended.mp rfl
    exact .error gives looks
  | some sources =>
    cases answer with
    | error error => exact nomatch ended.mpr ⟨error, rfl⟩
    | ok value => exact .value gives trivial looks

/-- The output type of a source completes with its lookup. -/
theorem resolveSource_completes (place : String) (source : Source) :
    Completes (resolveSource place source) (fun _ => True) source.lookups? := by
  exact lookup_completes place (fun cache => cache.resolve source)
    (fun faithful => faithful.resolve_eq source) (fun faithful => faithful.resolve source)
    (fun faithful => faithful.resolve_snd source)
    source.resolves_of_lookups? Source.lookups?_eq_none

/-- The return type of a source completes with the lookup that it takes, if it takes one. -/
theorem returnedBy_completes (place : String) (source : Source) (declared : Option String) :
    Completes (returnedBy place source declared) (fun _ => True)
      (source.returnLookups? declared) := by
  -- Noting the wrapping looks nothing up.
  have noted : Completes (modify fun trail =>
        { trail with wrappings := trail.wrappings ++ (source.wrapping? declared).toList } :
      Extraction Unit) (fun _ => True) (some []) :=
    .value ⟨fun _ => rfl, id⟩ trivial (.nothing fun _ => rfl)
  refine noted.after fun _ _ => ?_
  exact lookup_completes place (fun cache => source.returned cache declared)
    (fun faithful => faithful.returned_eq source declared)
    (fun faithful => faithful.returned source declared)
    (fun faithful => faithful.returned_snd source declared)
    (source.resolves_of_returnLookups? declared) Source.returnLookups?_eq_none

/-- A member completes with the lookup of its source, if it states one. -/
theorem resolveMember_completes (place : String) (nullable : Bool) (value : Value) :
    Completes (resolveMember place nullable value) (fun _ => True) (memberLookups? value) := by
  unfold resolveMember memberLookups?
  -- A source that is stated is read first, and looked up if it can be read.
  cases value.unfolded with
  | mapping entries =>
    dsimp only
    cases given? "source" entries with
    | none => exact .pure trivial
    | some raw =>
      have parsed := parseSource_completes (place ++ ".source") raw
      dsimp only
      cases read : Source.ofValue raw with
      | error problems =>
        rw [read] at parsed
        exact parsed.stop
      | ok source =>
        rw [read] at parsed
        refine parsed.after fun other same => ?_
        obtain rfl := Except.ok.inj same
        exact (resolveSource_completes _ source).map fun _ _ => trivial
  | _ => exact .throw _

/-- Members complete their lookups one after the other, up to the first that is not resolved. -/
theorem resolveMembers_looksUp (place : String) (nullable : Bool) (index : Nat)
    (values : List Value) :
    LooksUp (resolveMembers place nullable index values) (memberLookups values) := by
  -- The rest is resolved only behind a member that is.
  induction values generalizing index with
  | nil => exact .pure _
  | cons value rest ih =>
    unfold resolveMembers memberLookups
    refine (resolveMember_completes _ nullable value).bind fun member _ => ?_
    exact (ih (index + 1)).before fun _ => .pure _

/-- The members at a key complete their lookups. -/
theorem resolveAt_looksUp (key place : String) (nullable : Bool) (entries : Entries) :
    LooksUp (resolveAt key place nullable entries) (lookupsAt key entries) := by
  unfold resolveAt lookupsAt
  cases Entries.get? key entries with
  | none => exact .pure _
  | some value =>
    dsimp only [Option.map_some]
    unfold itemsOf
    -- Only a list has members; null is an empty one, and anything else is refused.
    split
    · rename_i null
      rw [null]
      exact .bind_ok (.pure _) (.pure _) (.before (.pure _) fun _ => .pure _)
    · rename_i items listed
      rw [listed]
      exact .bind_ok (.pure _) (.pure _)
        ((resolveMembers_looksUp _ nullable 0 items).before fun _ => .pure _)
    · rename_i no_list
      split
      · rename_i items listed
        exact absurd (Option.some.inj listed) (no_list items)
      · exact .bind_error (.throw _) (.throw _)

/-- A type declaration completes the lookups of its fields, whatever comes of it in the end. -/
theorem type_looksUp (place : String) (value : Value) :
    LooksUp (type place value) (typeLookups value) := by
  unfold type typeLookups
  cases value.unfolded with
  | mapping entries =>
    have body : LooksUp
        (do
          let resolved ← resolveAt "fields" place true entries
          ofReading .invalid (NamedType.read (.mapping resolved)))
        (lookupsAt "fields" entries) :=
      (resolveAt_looksUp "fields" place true entries).before fun _ => ofReading_looksUp _ _
    unfold hasReservedName
    dsimp only
    -- A reserved name is refused in front of the fields.
    cases Entries.get? "name" entries with
    | none => exact body
    | some name =>
      cases name with
      | scalar scalar =>
        cases scalar with
        | text name =>
          dsimp only
          split
          · exact .bind_error (.throw _) (.throw _)
          · exact body
        | _ => exact body
      | _ => exact body
  | _ => exact .throw _

/-- The declared return type takes no lookups. -/
theorem declaredReturn_completes (entries : Entries) :
    Completes (declaredReturn entries) (fun declared => declaredReturn? entries = some declared)
      ((declaredReturn? entries).map fun _ => []) := by
  unfold declaredReturn declaredReturn?
  -- Nothing and a text count as declarations; all else is refused.
  cases given? "return_type" entries with
  | none => exact .pure rfl
  | some value =>
    cases value with
    | scalar scalar =>
      cases scalar with
      | text name => exact .pure rfl
      | _ => exact .throw _
    | _ => exact .throw _

/-- Whether a field can be shown takes no lookups. -/
theorem checkShown_completes (entries : Entries) :
    Completes (checkShown entries) (fun _ => True)
      (if (Entries.get? "field_name" entries).any Value.hasOverlong then none else some []) := by
  unfold checkShown
  split
  · exact .throw _
  · exact .pure trivial

/-- The return type of an operation completes with its lookup, and leaves the arguments. -/
theorem resolveReturn_completes (place : String) (entries : Entries) :
    Completes (resolveReturn place entries)
      (fun found => Entries.get? "arguments" found.1 = Entries.get? "arguments" entries)
      ((declaredReturn? entries).bind (returnLookups? entries)) := by
  -- What is put in for the return type stands at keys of its own.
  have kept (text : String) :
      Entries.get? "arguments" (Entries.set (.text "return_type") (.text text)
        (Entries.erase "source_return" entries)) = Entries.get? "arguments" entries := by
    simp [Entries.get?_set, Entries.get?_erase]
  have found := declaredReturn_completes entries
  unfold resolveReturn
  cases stated : declaredReturn? entries with
  | none =>
    rw [stated] at found
    exact found.stop
  | some declared =>
    rw [stated] at found
    refine found.after fun other same => ?_
    obtain rfl := Option.some.inj same
    dsimp only [Option.bind_some]
    unfold returnLookups?
    cases given? "source_return" entries with
    | some raw =>
      have parsed := parseSource_completes (place ++ ".source_return") raw
      dsimp only
      cases read : Source.ofValue raw with
      | error problems =>
        rw [read] at parsed
        exact parsed.stop
      | ok source =>
        rw [read] at parsed
        refine parsed.after fun other same => ?_
        obtain rfl := Except.ok.inj same
        exact (returnedBy_completes _ source declared).map fun text _ => kept text
    | none =>
      dsimp only
      have shown := checkShown_completes entries
      split
      · exact .pure (by simp [Entries.get?_erase])
      · split
        · rename_i overlong
          rw [if_pos overlong] at shown
          exact shown.stop
        · rename_i clear
          rw [if_neg clear] at shown
          exact shown.after fun _ _ => .pure (kept fallbackReturnType)

/-- An operation declaration completes the lookups of its return type and its arguments. -/
theorem operation_looksUp (place : String) (value : Value) :
    LooksUp (operation place value) (operationLookups value) := by
  unfold operation operationLookups
  cases value.unfolded with
  | mapping entries =>
    refine (resolveReturn_completes place entries).bind fun found same => ?_
    -- The arguments are those of the declaration.
    have arguments := resolveAt_looksUp "arguments" place false found.1
    unfold lookupsAt at arguments ⊢
    rw [same] at arguments
    refine arguments.before fun resolved => ?_
    exact (ofReading_looksUp _ _).before fun _ => .pure _
  | _ => exact .throw _

end Extraction

namespace Load

open Extraction (typeLookups operationLookups)
open Trailing (LooksUp)

/-- The completed lookups of entries, counting from an index, up to the first accident. -/
def entryLookups (lookups : Value → List Source)
    (verdict : Nat → Value → Except Accident (Verdict α)) : Nat → List Value → List Source
  | _, [] => []
  | index, value :: rest =>
    lookups value ++
      if (verdict index value).isOk then entryLookups lookups verdict (index + 1) rest else []

/-- The completed lookups of a document: those of its types, and behind them its operations'. -/
def documentLookups (entries : Entries) : List Source :=
  match topLevelItems "types" entries with
  | .error _ => []
  | .ok types =>
    entryLookups typeLookups typeVerdict 0 types ++
      match Verdict.all typeVerdict 0 types, topLevelItems "operations" entries with
      | .ok _, .ok operations => entryLookups operationLookups operationVerdict 0 operations
      | _, _ => []

/-- An attempt makes the lookups of its extraction, and loading goes on unless it is an accident. -/
theorem attempt_looksUp {extraction : Extraction α} {result : Except ExtractionEnd α}
    {sources more : List Source} {next : Except ExtractionFault α → Loading β}
    (gives : Gives extraction result) (looks : LooksUp extraction sources)
    (go_on : ∀ found, LooksUp (next found) more) :
    LooksUp (attempt extraction >>= next)
      (sources ++ if (attempted result).isOk then more else []) := by
  have tried := attempt_gives gives
  -- An attempt runs its extraction on the same cache.
  have first : LooksUp (attempt extraction) sources := by
    refine ⟨looks.resolved, fun {trail} faithful => ?_⟩
    rw [run_attempt]
    exact looks.cache faithful
  cases ended : attempted result with
  | error trouble =>
    rw [ended] at tried
    simpa [Except.isOk, Except.toBool] using first.bind_error tried
  | ok found =>
    rw [ended] at tried
    exact first.bind_ok tried (go_on found)

/-- The verdict on a type is an accident exactly if the attempt to extract it is one. -/
theorem isOk_typeVerdict (index : Nat) (value : Value) : (typeVerdict index value).isOk =
    (attempted (alone (Extraction.type (typePlace index) value))).isOk := by
  unfold typeVerdict
  rcases alone (Extraction.type (typePlace index) value) with (fault | accident) | type <;> rfl

/-- The verdict on an operation is an accident exactly if the attempt to extract it is one. -/
theorem isOk_operationVerdict (index : Nat) (value : Value) : (operationVerdict index value).isOk =
    (attempted (alone (Extraction.operation (operationPlace index) value))).isOk := by
  unfold operationVerdict
  rcases alone (Extraction.operation (operationPlace index) value) with
    (fault | accident) | extracted <;> rfl

/-- The types make their lookups, those that are left out as well. -/
theorem types_looksUp (taken : List String) (index : Nat) (values : List Value) :
    LooksUp (types taken index values) (entryLookups typeLookups typeVerdict index values) := by
  -- Whatever comes of a type, the rest follows, with its name taken or not.
  induction values generalizing taken index with
  | nil => exact .pure _
  | cons value rest ih =>
    unfold types entryLookups
    rw [isOk_typeVerdict]
    refine attempt_looksUp (Extraction.type_gives (typePlace index) value)
      (Extraction.type_looksUp (typePlace index) value) fun found => ?_
    cases found with
    | error fault => exact (ih taken (index + 1)).before fun _ => .pure _
    | ok type =>
      dsimp only
      split
      · exact (ih taken (index + 1)).before fun _ => .pure _
      · exact (ih (type.name :: taken) (index + 1)).before fun _ => .pure _

/-- The operations make their lookups, those that are left out as well. -/
theorem operations_looksUp (taken : List (Root × String)) (index : Nat) (values : List Value) :
    LooksUp (operations taken index values)
      (entryLookups operationLookups operationVerdict index values) := by
  -- The loop over types again, with keys in place of names.
  induction values generalizing taken index with
  | nil => exact .pure _
  | cons value rest ih =>
    unfold operations entryLookups
    rw [isOk_operationVerdict]
    refine attempt_looksUp (Extraction.operation_gives (operationPlace index) value)
      (Extraction.operation_looksUp (operationPlace index) value) fun found => ?_
    cases found with
    | error fault => exact (ih taken (index + 1)).before fun _ => .pure _
    | ok extracted =>
      dsimp only
      split
      · exact (ih taken (index + 1)).before fun _ => .pure _
      · exact (ih (extracted.1.key :: taken) (index + 1)).before fun _ => .pure _

/-- A fault of the document itself takes no lookups. -/
theorem liftExcept_looksUp (result : Except Fault α) :
    LooksUp (extract.liftExcept result) [] := by
  cases result with
  | error fault => exact .throw _
  | ok value => exact .pure value

/-- Extracting a document makes the lookups of its entries. -/
theorem extract_looksUp (entries : Entries) :
    LooksUp (extract entries) (documentLookups entries) := by
  -- Types come first, and operations behind them if neither is stopped.
  have behind (listed : Except Fault (List Value)) := liftExcept_looksUp listed
  unfold extract documentLookups
  have lifted := liftExcept_gives (topLevelItems "types" entries)
  cases declared : topLevelItems "types" entries with
  | error fault =>
    rw [declared] at lifted
    exact (behind _).bind_error lifted
  | ok values =>
    rw [declared] at lifted
    refine (behind _).bind_ok lifted ?_
    have given := types_give [] 0 values
    have looks := types_looksUp [] 0 values
    dsimp only
    -- An accident among the types keeps the operations from being extracted.
    cases verdicts : Verdict.all typeVerdict 0 values with
    | error accident =>
      rw [verdicts] at given
      change LooksUp _ (entryLookups typeLookups typeVerdict 0 values ++ [])
      rw [List.append_nil]
      exact looks.bind_error given
    | ok found =>
      rw [verdicts] at given
      refine looks.bind_ok given ?_
      have lifted' := liftExcept_gives (topLevelItems "operations" entries)
      cases declared' : topLevelItems "operations" entries with
      | error fault =>
        rw [declared'] at lifted'
        exact (behind _).bind_error lifted'
      | ok operations =>
        rw [declared'] at lifted'
        refine (behind _).bind_ok lifted' ?_
        exact (operations_looksUp [] 0 operations).before fun _ => .pure _

/-- Loading a document makes the lookups of its entries, whatever comes of it in the end. -/
theorem load_looksUp (entries : Entries) : LooksUp (load entries) (documentLookups entries) := by
  refine (extract_looksUp entries).before fun found => ?_
  cases assemble found (entries.get? "description") with
  | ok schema => exact .pure _
  | error fault => exact .throw _

end Load

end AppSync
