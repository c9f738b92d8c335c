import AppSync.Proofs.Load.Extraction
import AppSync.Proofs.Load.Verdict

/-! Loading a document is a verdict on each entry by itself, and a choice among those accepted. -/

namespace AppSync

open Trailing (Gives alone)

namespace Verdict

/-- The verdicts on values, counting from an index, unless one of them is an accident. -/
def all {α : Type} (verdict : Nat → Value → Except Accident (Verdict α)) :
    Nat → List Value → Except Accident (List (Verdict α))
  | _, [] => .ok []
  | index, value :: rest =>
    match verdict index value with
    | .error accident => .error accident
    | .ok found => (all verdict (index + 1) rest).map (found :: ·)

end Verdict

namespace Load

/-- The place of a type in a document. -/
def typePlace (index : Nat) : String := s!"types[{index}]"

/-- The place of an operation in a document. -/
def operationPlace (index : Nat) : String := s!"operations[{index}]"

/-- The verdict on a type by itself. -/
def typeVerdict (index : Nat) (value : Value) : Except Accident (Verdict NamedType) :=
  match alone (Extraction.type (typePlace index) value) with
  | .error (.accident accident) => .error accident
  | .error (.fault fault) =>
    .ok (.refused (Extraction.typeFailure (typePlace index) value fault))
  | .ok type => .ok (.accepted type [] (Extraction.duplicateType (typePlace index) type))

/-- The verdict on an operation by itself, with the note on a return type that it did not state. -/
def operationVerdict (index : Nat) (value : Value) : Except Accident (Verdict Operation) :=
  match alone (Extraction.operation (operationPlace index) value) with
  | .error (.accident accident) => .error accident
  | .error (.fault fault) =>
    .ok (.refused (Extraction.operationFailure (operationPlace index) value fault))
  | .ok (operation, fallback) =>
    .ok (.accepted operation
      (fallback.map (Extraction.fallbackNote (operationPlace index))).toList
      (Extraction.duplicateOperation (operationPlace index) operation))

/-- What an attempt makes of the end of an extraction. -/
def attempted {α : Type} : Except ExtractionEnd α → Except Trouble (Except ExtractionFault α)
  | .ok value => .ok (.ok value)
  | .error (.fault fault) => .ok (.error fault)
  | .error (.accident accident) => .error (.accident accident)

/-- An attempt runs its extraction on the trail of the loading and never cuts it short. -/
theorem run_attempt {α : Type} (extraction : Extraction α) (trail : Trail) :
    (attempt extraction).run trail =
      (attempted (extraction.run trail).1, (extraction.run trail).2) := by
  have lifted : (ExceptT.lift extraction.run : Loading _).run trail =
      (.ok (extraction.run trail).1, (extraction.run trail).2) := rfl
  unfold attempt
  rw [Trailing.run_bind, lifted]
  rcases extraction.run trail with ⟨(fault | accident) | value, left⟩ <;> rfl

/-- An attempt gives what its extraction gives, faults being values. -/
theorem attempt_gives {α : Type} {extraction : Extraction α}
    {result : Except ExtractionEnd α} (gives : Gives extraction result) :
    Gives (attempt extraction) (attempted result) := by
  constructor
  · intro trail faithful
    rw [run_attempt, gives.answer faithful]
  · intro trail faithful
    rw [run_attempt]
    exact gives.faithful faithful

/-- What the entries of a list are settled to, or the accident that one of them is. -/
def settled {α κ : Type} [DecidableEq κ] (key : α → κ) (taken : List κ)
    (verdicts : Except Accident (List (Verdict α))) :
    Except Trouble (List α × List Diagnostic) :=
  (verdicts.map (Verdict.settle key taken)).mapError .accident

section settled

variable {α κ : Type} [DecidableEq κ] {key : α → κ} {taken : List κ}

/-- An entry that is refused adds its warning. -/
theorem settled_refused (warning : Diagnostic) (verdicts : Except Accident (List (Verdict α))) :
    settled key taken (verdicts.map (.refused warning :: ·)) =
      (settled key taken verdicts).map fun found => (found.1, warning :: found.2) := by
  cases verdicts <;> rfl

/-- An item whose key is taken adds its notes and the warning on a duplicate. -/
theorem settled_duplicate {item : α} (member : key item ∈ taken) (notes : List Diagnostic)
    (duplicate : Diagnostic) (verdicts : Except Accident (List (Verdict α))) :
    settled key taken (verdicts.map (.accepted item notes duplicate :: ·)) =
      (settled key taken verdicts).map fun found =>
        (found.1, notes ++ duplicate :: found.2) := by
  cases verdicts with
  | error accident => rfl
  | ok verdicts => simp [settled, Except.map, Except.mapError, Verdict.settle, Verdict.outcomes,
      Verdict.outcome, member]

/-- An item whose key is not taken is kept, takes its key and adds its notes. -/
theorem settled_kept {item : α} (fresh : key item ∉ taken) (notes : List Diagnostic)
    (duplicate : Diagnostic) (verdicts : Except Accident (List (Verdict α))) :
    settled key taken (verdicts.map (.accepted item notes duplicate :: ·)) =
      (settled key (key item :: taken) verdicts).map fun found =>
        (item :: found.1, notes ++ found.2) := by
  cases verdicts with
  | error accident => rfl
  | ok verdicts => simp [settled, Except.map, Except.mapError, Verdict.settle, Verdict.outcomes,
      Verdict.outcome, fresh]

end settled

/-- The types that are loaded are those settled by the verdicts on each by itself. -/
theorem types_give (taken : List String) (index : Nat) (values : List Value) :
    Gives (types taken index values)
      (settled NamedType.name taken (Verdict.all typeVerdict index values)) := by
  -- Each value goes through one attempt, whose result decides how the rest is treated.
  induction values generalizing taken index with
  | nil => exact .pure _
  | cons value rest ih =>
    have tried := attempt_gives (Extraction.type_gives (typePlace index) value)
    unfold types Verdict.all typeVerdict
    cases ended : alone (Extraction.type (typePlace index) value) with
    | error reason =>
      rw [ended] at tried
      cases reason with
      | accident accident => exact tried.bind_error
      | fault fault =>
        refine .bind_ok tried ?_
        rw [settled_refused]
        exact (ih taken (index + 1)).map _
    | ok type =>
      rw [ended] at tried
      refine .bind_ok tried ?_
      dsimp only
      split
      · rename_i member
        rw [settled_duplicate member]
        exact (ih taken (index + 1)).map _
      · rename_i fresh
        rw [settled_kept fresh]
        exact (ih (type.name :: taken) (index + 1)).map _

/-- The operations that are loaded are those settled by the verdicts on each by itself. -/
theorem operations_give (taken : List (Root × String)) (index : Nat) (values : List Value) :
    Gives (operations taken index values)
      (settled Operation.key taken (Verdict.all operationVerdict index values)) := by
  -- The loop over types again, with the note on a fallback as the notes of an item.
  induction values generalizing taken index with
  | nil => exact .pure _
  | cons value rest ih =>
    have tried := attempt_gives (Extraction.operation_gives (operationPlace index) value)
    unfold operations Verdict.all operationVerdict
    cases ended : alone (Extraction.operation (operationPlace index) value) with
    | error reason =>
      rw [ended] at tried
      cases reason with
      | accident accident => exact tried.bind_error
      | fault fault =>
        refine .bind_ok tried ?_
        rw [settled_refused]
        exact (ih taken (index + 1)).map _
    | ok found =>
      rw [ended] at tried
      refine .bind_ok tried ?_
      dsimp only
      split
      · rename_i member
        rw [settled_duplicate member]
        exact (ih taken (index + 1)).map _
      · rename_i fresh
        rw [settled_kept fresh]
        exact (ih (found.1.key :: taken) (index + 1)).map _

/-- A fault of the document itself does not depend on the cache. -/
theorem liftExcept_gives {α : Type} (result : Except Fault α) :
    Gives (extract.liftExcept result) (result.mapError .fault) := by
  cases result with
  | error fault => exact .throw _
  | ok value => exact .pure value

/-- What a document declares, from the verdicts on its entries by themselves. -/
def extracted (entries : Entries) : Except Trouble Extracted := do
  let declaredTypes ← (topLevelItems "types" entries).mapError .fault
  let (keptTypes, typeNotes) ←
    settled NamedType.name [] (Verdict.all typeVerdict 0 declaredTypes)
  let declaredOperations ← (topLevelItems "operations" entries).mapError .fault
  let (keptOperations, operationNotes) ←
    settled Operation.key [] (Verdict.all operationVerdict 0 declaredOperations)
  return ⟨keptTypes, keptOperations, typeNotes ++ operationNotes⟩

/-- Extracting a document gives what its entries by themselves declare. -/
theorem extract_gives (entries : Entries) : Gives (extract entries) (extracted entries) := by
  unfold extract extracted
  refine (liftExcept_gives _).bind fun declaredTypes => ?_
  refine (types_give _ _ _).bind fun found => ?_
  refine (liftExcept_gives _).bind fun declaredOperations => ?_
  exact (operations_give _ _ _).bind fun found => .pure _

/-- The report on a document, from the verdicts on its entries by themselves. -/
def reported (entries : Entries) : Except Trouble Report := do
  let found ← extracted entries
  match assemble found (entries.get? "description") with
  | .ok schema => return ⟨schema, found.diagnostics⟩
  | .error fault => throw (.fault fault)

/-- Loading a document gives the report on it. -/
theorem load_gives (entries : Entries) : Gives (load entries) (reported entries) := by
  unfold load reported
  refine (extract_gives entries).bind fun found => ?_
  cases assemble found (entries.get? "description") with
  | ok schema => exact .pure _
  | error fault => exact .throw _

/-- A cache of its own gives the same report. -/
theorem loadFresh_eq (entries : Entries) : loadFresh entries = reported entries :=
  (load_gives entries).alone_eq

end Load

end AppSync
