import AppSync.Proofs.Document.Lookup

/-!
Reading what was written: the readings of single values, lists and members applied to document
forms. A reading is stable if it accepts the document form of whatever it reads, and reads the same
again.
-/

namespace AppSync.Reading

variable {α β : Type}

/-- A reading that reads whatever it reads once again from its document form. -/
def IsStable (read : Value → Reading α) (write : α → Json) : Prop :=
  ∀ value found, read value = .ok found → read (.ofJson (write found)) = .ok found

/-! ## Values that are read go on as they are -/

@[simp] theorem bind_ok (value : α) (next : α → Reading β) :
    ((.ok value : Reading α) >>= next) = next value := rfl

@[simp] theorem map_ok (make : α → β) (value : α) :
    Except.map make (.ok value : Reading α) = .ok (make value) := rfl

@[simp] theorem give_ok (argument : α) (function : α → β) :
    give (.ok argument) (.ok function) = .ok (function argument) := rfl

@[simp] theorem below_ok (step : String) (value : α) :
    below step (.ok value : Reading α) = .ok value := rfl

/-! ## Document forms of single values -/

@[simp] theorem text_ofJson (value : String) : text (.ofJson (.text value)) = .ok value := rfl

@[simp] theorem boolean_ofJson (value : Bool) : boolean (.ofJson (.bool value)) = .ok value := rfl

@[simp] theorem record_ofJson (name : String) (members : List (String × Json)) :
    record name (.ofJson (.object members)) = .ok (Value.ofJsonMembers members) := rfl

/-- A text that may be missing is written as itself or as null. -/
@[simp] theorem nullable_ofText? (value : Option String) :
    nullable text (.ofJson (Json.ofText? value)) = .ok value := by
  cases value <;> rfl

/-- A truth value that may be missing is written as itself or as null. -/
@[simp] theorem nullable_ofBool? (value : Option Bool) :
    nullable boolean (.ofJson (Json.ofOption .bool value)) = .ok value := by
  cases value <;> rfl

/-- A number within bounds that may be missing is written as itself or as null. -/
@[simp] theorem nullable_ofNumber? {least greatest : Int} (value : Option (Within least greatest)) :
    nullable (integerBetween least greatest)
      (.ofJson (Json.ofOption (fun number => .int number.1) value)) = .ok value := by
  cases value with
  | none => rfl
  | some number =>
    obtain ⟨number, low, high⟩ := number
    have kept :
        integerBetween least greatest (.scalar (.int number)) = .ok ⟨number, low, high⟩ := by
      change (if low : least ≤ number then _ else _) = _
      rw [dif_pos low, dif_pos high]
    change (integerBetween least greatest (.scalar (.int number))).map some = _
    rw [kept]
    rfl

/-! ## Document forms of lists -/

/-- Items that are each read again are read again one after the other. -/
theorem items_ofJson {read : Value → Reading α} {write : α → Json} {found : List α}
    (again : ∀ item ∈ found, read (.ofJson (write item)) = .ok item) (index : Nat) :
    items read index (Value.ofJsonItems (found.map write)) = .ok found := by
  induction found generalizing index with
  | nil => rfl
  | cons item rest ih =>
    have others :=
      ih (fun other member => again other (List.mem_cons_of_mem item member)) (index + 1)
    rw [List.map_cons, Value.ofJsonItems, items, again item List.mem_cons_self, others]
    rfl

/-- A list is read again if its items are. -/
theorem list_ofJson {read : Value → Reading α} {write : α → Json} {found : List α}
    (again : ∀ item ∈ found, read (.ofJson (write item)) = .ok item) :
    list read (.ofJson (.array (found.map write))) = .ok found :=
  items_ofJson again 0

/-- A sequence is read again if its items are. -/
theorem tuple_ofJson {read : Value → Reading α} {write : α → Json} {found : List α}
    (again : ∀ item ∈ found, read (.ofJson (write item)) = .ok item) :
    tuple read (.ofJson (.array (found.map write))) = .ok found :=
  items_ofJson again 0

/-- Texts are read again. -/
@[simp] theorem texts_ofJson (texts : List String) :
    list text (.ofJson (.array (texts.map Json.text))) = .ok texts :=
  list_ofJson fun _ _ => rfl

/-! ## Document forms of members -/

/-- A required member is read where its name comes first. -/
@[simp] theorem required_member (key name : String) (read : Value → Reading α) (value : Json)
    (members : List (String × Json)) :
    required key read (Value.ofJsonMembers ((name, value) :: members)) =
      if name = key then below key (read (.ofJson value))
      else required key read (Value.ofJsonMembers members) := by
  unfold required
  rw [Value.ofJsonMembers, Entries.get?_cons]
  by_cases same : name = key
  · rw [if_pos same, if_pos same]
  · rw [if_neg same, if_neg same]

/-- An optional member is read where its name comes first. -/
@[simp] theorem optional_member (key name : String) (read : Value → Reading α) (absent : α)
    (value : Json) (members : List (String × Json)) :
    optional key read absent (Value.ofJsonMembers ((name, value) :: members)) =
      if name = key then below key (read (.ofJson value))
      else optional key read absent (Value.ofJsonMembers members) := by
  unfold optional
  rw [Value.ofJsonMembers, Entries.get?_cons]
  by_cases same : name = key
  · rw [if_pos same, if_pos same]
  · rw [if_neg same, if_neg same]

end AppSync.Reading
