import AppSync.Schema.Operation

/-! Entries are read by what they hold at text keys, in whatever order the keys stand. -/

namespace AppSync

/-- A text is the same key as no other scalar. -/
theorem Scalar.sameKey_text {scalar : Scalar} {key : String} :
    scalar.sameKey (.text key) = true ↔ scalar = .text key := by
  -- Numbers and moments are compared in ways of their own, none of which a text takes part in.
  cases scalar with
  | text value => simp [sameKey, number?]
  | float value => cases value <;> simp [sameKey, number?, Binary64.ratio?]
  | _ => simp [sameKey, number?]

namespace Entries

/-- Entries that hold the same at every text key but some. -/
def SameBeyond (keys : List String) (entries others : Entries) : Prop :=
  ∀ key, key ∉ keys → get? key others = get? key entries

/-- The first entry decides what is at its own key. -/
theorem get?_cons (key other : String) (value : Value) (rest : Entries) :
    get? key ((.text other, value) :: rest) =
      if other = key then some value else get? key rest := by
  unfold get?
  by_cases same : other = key <;> simp [same]

/-- What is put in at a text key is there, and nothing else changes. -/
theorem get?_set (key other : String) (value : Value) (entries : Entries) :
    get? other (set (.text key) value entries) =
      if other = key then some value else get? other entries := by
  -- The entry with the key keeps its place; a key that is missing comes last.
  induction entries with
  | nil =>
    by_cases same : other = key
    · simp [set, get?, same]
    · simp [set, get?, same, Ne.symm same]
  | cons entry rest ih =>
    unfold set
    by_cases found : entry.1 = .text key
    · rw [if_pos (Scalar.sameKey_text.mpr found)]
      by_cases same : other = key
      · simp [get?, same, found]
      · simp [get?, same, found, Ne.symm same]
    · rw [if_neg (mt Scalar.sameKey_text.mp found)]
      unfold get? at ih ⊢
      by_cases here : entry.1 = .text other
      · have apart : other ≠ key := fun same => found (same ▸ here)
        simp [here, apart]
      · simpa [here] using ih

/-- What is taken out at a text key is gone, and nothing else changes. -/
theorem get?_erase (key other : String) (entries : Entries) :
    get? other (erase key entries) = if other = key then none else get? other entries := by
  -- An entry in front is taken out, is the one that is sought, or is neither.
  induction entries with
  | nil => simp [erase, get?]
  | cons entry rest ih =>
    unfold erase get? at ih ⊢
    by_cases found : entry.1 = .text key
    · by_cases same : other = key
      · simp [same]
      · simpa [found, same, Ne.symm same] using ih
    · by_cases here : entry.1 = .text other
      · have apart : other ≠ key := fun same => found (same ▸ here)
        simp [here, apart]
      · simpa [found, here] using ih

/-- A default is there where nothing else is, and nothing else changes. -/
theorem get?_setDefault (key other : String) (value : Value) (entries : Entries) :
    get? other (setDefault key value entries) =
      if other = key then some ((get? key entries).getD value) else get? other entries := by
  unfold setDefault
  split
  · rename_i found held
    by_cases same : other = key
    · simp [same, held]
    · simp [same]
  · rename_i missing
    rw [get?_set, missing, Option.getD_none]

/-- Entries that hold the same but for lists at a key, whose items are taken in the same way. -/
structure SameBut {γ : Type} (take : Value → γ) (key : String) (entries others : Entries) :
    Prop where
  rest : entries.SameBeyond [key] others
  listed : get? key others = get? key entries ∨
    ∃ values plains, get? key entries = some (.list values) ∧
      get? key others = some (.list plains) ∧ plains.map take = values.map take

end Entries

namespace Reading

variable {α γ : Type} {entries others : Entries} {key : String}

/-- A reading of mappings that looks at nothing but the values at text keys. -/
def ByLookup (read : Value → γ) : Prop :=
  ∀ {entries others : Entries}, entries.SameBeyond [] others →
    read (.mapping others) = read (.mapping entries)

/-- A required value is read the same where the same is at its key. -/
theorem required_congr (same : Entries.get? key others = Entries.get? key entries)
    (read : Value → Reading α) : required key read others = required key read entries := by
  unfold required
  rw [same]

/-- An optional value is read the same where the same is at its key. -/
theorem optional_congr (same : Entries.get? key others = Entries.get? key entries)
    (read : Value → Reading α) (absent : α) :
    optional key read absent others = optional key read absent entries := by
  unfold optional
  rw [same]

/-- Items are read the same if each of them is. -/
theorem items_congr {read : Value → Reading α} {values plains : List Value}
    (same : plains.map read = values.map read) (index : Nat) :
    items read index plains = items read index values := by
  -- The items are taken one by one, each at its index.
  induction values generalizing plains index with
  | nil =>
    rw [List.map_nil, List.map_eq_nil_iff] at same
    rw [same]
  | cons value rest ih =>
    obtain ⟨first, others, rfl, here, below⟩ := List.map_eq_cons_iff.mp same
    unfold items
    rw [here, ih below]

/-- A list at a key is read the same if its items are. -/
theorem optional_list_congr {read : Value → Reading α} (same : entries.SameBut read key others)
    (absent : List α) :
    optional key (list read) absent others = optional key (list read) absent entries := by
  rcases same.listed with equal | ⟨values, plains, held, held', alike⟩
  · exact optional_congr equal _ absent
  · unfold optional
    rw [held, held']
    -- Both lists are read item by item.
    exact congrArg (below key) (items_congr alike 0)

end Reading

open Reading (ByLookup required_congr optional_congr optional_list_congr)

/-- A field is read by what it holds at text keys. -/
theorem Field.read_byLookup : ByLookup Field.read := by
  intro entries others same
  have at_key (key : String) := same key List.not_mem_nil
  change (_ |> Reading.give _) = _
  simp only [required_congr (at_key _), Reading.optionalText, optional_congr (at_key _)]
  rfl

/-- An argument is read by what it holds at text keys. -/
theorem Argument.read_byLookup : ByLookup Argument.read := by
  intro entries others same
  have at_key (key : String) := same key List.not_mem_nil
  change (_ |> Reading.give _) = _
  simp only [required_congr (at_key _), Reading.optionalText, optional_congr (at_key _)]
  rfl

/-- A type is read the same where its fields are and all else is the same. -/
theorem NamedType.read_congr {entries others : Entries}
    (same : entries.SameBut Field.read "fields" others) :
    NamedType.read (.mapping others) = NamedType.read (.mapping entries) := by
  -- All that is read is read at a key, of the fields or of the rest.
  have declared : TypeDeclaration.read (.mapping others) =
      TypeDeclaration.read (.mapping entries) := by
    change (_ |> Reading.give _) = _
    simp only [optional_list_congr same, required_congr (same.rest "name" (by decide)),
      Reading.optionalText, optional_congr (same.rest "kind" (by decide)),
      optional_congr (same.rest "description" (by decide)),
      optional_congr (same.rest "enum_values" (by decide)),
      optional_congr (same.rest "union_members" (by decide)),
      optional_congr (same.rest "directives" (by decide))]
    rfl
  unfold NamedType.read
  rw [declared]

/-- An operation is read the same where its arguments are and all else is the same. -/
theorem Operation.read_congr {entries others : Entries}
    (same : entries.SameBut Argument.read "arguments" others) :
    Operation.read (.mapping others) = Operation.read (.mapping entries) := by
  -- All that is read is read at a key, of the arguments or of the rest.
  have declared : OperationDeclaration.read (.mapping others) =
      OperationDeclaration.read (.mapping entries) := by
    change (_ |> Reading.give _) = _
    simp only [optional_list_congr same, required_congr (same.rest "root_type" (by decide)),
      required_congr (same.rest "field_name" (by decide)),
      required_congr (same.rest "return_type" (by decide)), Reading.optionalText,
      optional_congr (same.rest "description" (by decide)),
      optional_congr (same.rest "resolver_kind" (by decide)),
      optional_congr (same.rest "data_source" (by decide)),
      optional_congr (same.rest "functions" (by decide)),
      optional_congr (same.rest "directives" (by decide)),
      optional_congr (same.rest "deployment" (by decide))]
    rfl
  unfold Operation.read
  rw [declared]

end AppSync
