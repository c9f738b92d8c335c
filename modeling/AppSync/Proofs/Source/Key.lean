import AppSync.Proofs.Json.Quoted
import AppSync.Source.Basic

/-! The key of a source type determines it: no two source types share one. -/

namespace AppSync.Source

open Json (compact quoteUnicode)

/-- The characters of a truth value in a key. -/
def flagChars (flag : Bool) : List Char :=
  if flag then "true".toList else "false".toList

/-- The characters of a truth value that may be unknown. -/
def optionalFlagChars : Option Bool → List Char
  | none => "null".toList
  | some flag => flagChars flag

/-- The characters of a text that may be absent. -/
def optionalTextChars : Option String → List Char
  | none => "null".toList
  | some text => (quoteUnicode text).toList

/-- The characters of further type arguments, each after a comma. -/
def itemChars (arguments : List Source) : List Char :=
  (compact.compactItems quoteUnicode (toJsonItems arguments)).toList

/-- The characters of type arguments in their brackets. -/
def argumentChars : List Source → List Char
  | [] => "[]".toList
  | first :: others => '[' :: first.key.toList ++ itemChars others ++ [']']

/-- A member name with its colon. -/
def labelChars (name : String) : List Char :=
  (quoteUnicode name).toList ++ [':']

/-- The text of a flag in a key. -/
theorem compact_flag (flag : Bool) :
    (compact quoteUnicode (.bool flag)).toList = flagChars flag := by
  cases flag <;> simp [compact, flagChars]

/-- The text of a name in a key. -/
theorem compact_name (name : String) :
    (compact quoteUnicode (.text name)).toList = (quoteUnicode name).toList := by
  rw [compact]

/-- The text of a flag that may be unknown. -/
theorem compact_optionalFlag (flag : Option Bool) :
    (compact quoteUnicode (Json.ofOption .bool flag)).toList = optionalFlagChars flag := by
  cases flag with
  | none => simp [compact, Json.ofOption, optionalFlagChars]
  | some flag => simp [Json.ofOption, optionalFlagChars, compact_flag]

/-- The text of a text that may be absent. -/
theorem compact_optionalText (text : Option String) :
    (compact quoteUnicode (Json.ofText? text)).toList = optionalTextChars text := by
  cases text <;> simp [compact, Json.ofText?, optionalTextChars]

/-- The text of type arguments. -/
theorem compact_arguments (arguments : List Source) :
    (compact quoteUnicode (.array (toJsonItems arguments))).toList = argumentChars arguments := by
  cases arguments <;> simp [compact, toJsonItems, argumentChars, itemChars, key]

/-- A key lists every field of a source type under its name. -/
theorem toList_key (source : Source) :
    source.key.toList =
      '\x7b' :: (labelChars "name" ++ (quoteUnicode source.name).toList ++
        ',' :: (labelChars "type_arguments" ++ argumentChars source.arguments ++
        ',' :: (labelChars "is_collection" ++ flagChars source.isCollection ++
        ',' :: (labelChars "is_dictionary" ++ flagChars source.isDictionary ++
        ',' :: (labelChars "is_nullable_wrapper" ++ flagChars source.isNullableWrapper ++
        ',' :: (labelChars "is_value_type" ++ optionalFlagChars source.isValueType ++
        ',' :: (labelChars "non_null" ++ flagChars source.nonNull ++
        ',' :: (labelChars "scalar_override" ++ optionalTextChars source.scalarOverride ++
        ['\x7d'])))))))) := by
  obtain ⟨name, arguments, collection, dictionary, wrapper, valueType, nonNull, override⟩ := source
  -- The members are written in the order of the fields, whatever their values.
  rw [key, toJson, compact, compact.compactMembers, compact.compactMembers,
    compact.compactMembers, compact.compactMembers, compact.compactMembers, compact.compactMembers,
    compact.compactMembers, compact.compactMembers]
  simp [compact_name, compact_flag, compact_optionalFlag, compact_optionalText, compact_arguments,
    labelChars]

/-- Where there are no further type arguments, nothing is written. -/
theorem itemChars_nil : itemChars [] = [] := by
  simp [itemChars, toJsonItems, compact.compactItems]

/-- Further type arguments are written one after the other. -/
theorem itemChars_cons (first : Source) (others : List Source) :
    itemChars (first :: others) = ',' :: (first.key.toList ++ itemChars others) := by
  simp [itemChars, toJsonItems, compact.compactItems, key]

/-- Flags that begin equal texts are the same, and so is what follows them. -/
theorem flagChars_prefix {flag other : Bool} {rest more : List Char}
    (same : flagChars flag ++ rest = flagChars other ++ more) : flag = other ∧ rest = more := by
  -- The two words begin with different letters.
  cases flag <;> cases other <;> simp_all [flagChars]

/-- Flags that may be unknown are told apart in the same way. -/
theorem optionalFlagChars_prefix {flag other : Option Bool} {rest more : List Char}
    (same : optionalFlagChars flag ++ rest = optionalFlagChars other ++ more) :
    flag = other ∧ rest = more := by
  rcases flag with _ | _ | _ <;> rcases other with _ | _ | _ <;>
    simp_all [optionalFlagChars, flagChars]

/-- Texts that may be absent are told apart by the quote that begins them. -/
theorem optionalTextChars_prefix {text other : Option String} {rest more : List Char}
    (same : optionalTextChars text ++ rest = optionalTextChars other ++ more) :
    text = other ∧ rest = more := by
  -- An absent text is written as a word, which has no quote.
  cases text with
  | none =>
    cases other with
    | none => exact ⟨rfl, List.append_cancel_left same⟩
    | some other => simp [optionalTextChars, Json.toList_quoteUnicode] at same
  | some text =>
    cases other with
    | none => simp [optionalTextChars, Json.toList_quoteUnicode] at same
    | some other =>
      obtain ⟨rfl, rest⟩ := Json.quoteUnicode_prefix same
      exact ⟨rfl, rest⟩

/-- The characters of a key begin with a brace. -/
theorem exists_toList_key (source : Source) : ∃ tail, source.key.toList = '\x7b' :: tail :=
  ⟨_, toList_key source⟩

/-- Keys are told apart as soon as the type arguments in them are. -/
theorem key_prefix_of_arguments {source other : Source}
    (told : ∀ rest more : List Char,
      argumentChars source.arguments ++ rest = argumentChars other.arguments ++ more →
        source.arguments = other.arguments ∧ rest = more)
    {rest more : List Char} (same : source.key.toList ++ rest = other.key.toList ++ more) :
    source = other ∧ rest = more := by
  -- The fields are split off one after the other; the names between them cancel.
  obtain ⟨name, arguments, collection, dictionary, wrapper, valueType, nonNull, override⟩ := source
  obtain ⟨name', arguments', collection', dictionary', wrapper', valueType', nonNull',
    override'⟩ := other
  rw [toList_key, toList_key] at same
  simp only [List.cons_append, List.append_assoc, List.cons.injEq, true_and,
    List.append_cancel_left_eq] at same
  obtain ⟨names, same⟩ := Json.quoteUnicode_prefix same
  simp only [List.cons.injEq, true_and, List.append_cancel_left_eq] at same
  obtain ⟨lists, same⟩ := told _ _ same
  simp only [List.cons.injEq, true_and, List.append_cancel_left_eq] at same
  obtain ⟨collections, same⟩ := flagChars_prefix same
  simp only [List.cons.injEq, true_and, List.append_cancel_left_eq] at same
  obtain ⟨dictionaries, same⟩ := flagChars_prefix same
  simp only [List.cons.injEq, true_and, List.append_cancel_left_eq] at same
  obtain ⟨wrappers, same⟩ := flagChars_prefix same
  simp only [List.cons.injEq, true_and, List.append_cancel_left_eq] at same
  obtain ⟨valueTypes, same⟩ := optionalFlagChars_prefix same
  simp only [List.cons.injEq, true_and, List.append_cancel_left_eq] at same
  obtain ⟨nonNulls, same⟩ := flagChars_prefix same
  simp only [List.cons.injEq, true_and, List.append_cancel_left_eq] at same
  obtain ⟨overrides, same⟩ := optionalTextChars_prefix same
  simp only at names lists collections dictionaries wrappers valueTypes nonNulls overrides
  refine ⟨?_, by simpa using same⟩
  rw [names, lists, collections, dictionaries, wrappers, valueTypes, nonNulls, overrides]

/-- What holds of a source type as soon as it holds of its type arguments holds of all. -/
theorem induct {motive : Source → Prop}
    (step : ∀ source : Source, (∀ argument ∈ source.arguments, motive argument) → motive source)
    (source : Source) : motive source :=
  step source fun argument _ => induct step argument
termination_by sizeOf source
decreasing_by
  rename_i member
  have smaller := List.sizeOf_lt_of_mem member
  cases source
  simp only [mk.sizeOf_spec] at smaller ⊢
  omega

/-- Whether a source type is told apart from others by its key, whatever follows. -/
def KeyTells (source : Source) : Prop :=
  ∀ (other : Source) (rest more : List Char),
    source.key.toList ++ rest = other.key.toList ++ more → source = other ∧ rest = more

/-- Further type arguments before a closing bracket are the same in equal texts. -/
theorem itemChars_prefix {arguments : List Source}
    (told : ∀ argument ∈ arguments, KeyTells argument) {others : List Source}
    {rest more : List Char}
    (same : itemChars arguments ++ ']' :: rest = itemChars others ++ ']' :: more) :
    arguments = others ∧ rest = more := by
  -- A comma tells that there is another argument, a bracket that there is none.
  induction arguments generalizing others with
  | nil =>
    cases others with
    | nil => exact ⟨rfl, by simpa [itemChars_nil] using same⟩
    | cons other others => simp [itemChars_nil, itemChars_cons] at same
  | cons source arguments ih =>
    cases others with
    | nil => simp [itemChars_nil, itemChars_cons] at same
    | cons other others =>
      rw [itemChars_cons, itemChars_cons, List.cons_append, List.cons_append, List.append_assoc,
        List.append_assoc] at same
      obtain ⟨heads, same⟩ := told source (by simp) other _ _ (List.cons.inj same).2
      obtain ⟨tails, same⟩ := ih (fun argument member => told argument (by simp [member])) same
      exact ⟨by rw [heads, tails], same⟩

/-- Type arguments in brackets that begin equal texts are the same. -/
theorem argumentChars_prefix {arguments : List Source}
    (told : ∀ argument ∈ arguments, KeyTells argument) {others : List Source}
    {rest more : List Char}
    (same : argumentChars arguments ++ rest = argumentChars others ++ more) :
    arguments = others ∧ rest = more := by
  -- Brackets that hold nothing close at once, and others go on with a brace.
  cases arguments with
  | nil =>
    cases others with
    | nil => exact ⟨rfl, List.append_cancel_left same⟩
    | cons other others =>
      obtain ⟨tail, begins⟩ := exists_toList_key other
      simp [argumentChars, begins] at same
  | cons source arguments =>
    cases others with
    | nil =>
      obtain ⟨tail, begins⟩ := exists_toList_key source
      simp [argumentChars, begins] at same
    | cons other others =>
      simp only [argumentChars, List.cons_append, List.append_assoc, List.cons.injEq, true_and,
        List.nil_append] at same
      obtain ⟨heads, same⟩ := told source (by simp) other _ _ same
      obtain ⟨tails, same⟩ :=
        itemChars_prefix (fun argument member => told argument (by simp [member])) same
      exact ⟨by rw [heads, tails], same⟩

/-- Every source type is told apart from others by its key. -/
theorem keyTells (source : Source) : KeyTells source := by
  -- The induction goes into the type arguments, which are the only nested part of a key.
  induction source using induct with
  | step source told =>
    intro other rest more same
    exact key_prefix_of_arguments (fun _ _ => argumentChars_prefix told) same

/-- Source types with the same key are the same in every field. -/
theorem eq_of_key_eq {source other : Source} (same : source.key = other.key) : source = other :=
  (keyTells source other [] [] (by rw [same])).1

/-- Two source types share a key exactly if they agree on every field, type arguments in order. -/
theorem key_eq_iff (source other : Source) :
    source.key = other.key ↔
      source.name = other.name ∧
      source.arguments = other.arguments ∧
      source.isCollection = other.isCollection ∧
      source.isDictionary = other.isDictionary ∧
      source.isNullableWrapper = other.isNullableWrapper ∧
      source.isValueType = other.isValueType ∧
      source.nonNull = other.nonNull ∧
      source.scalarOverride = other.scalarOverride := by
  constructor
  · intro same
    obtain rfl := eq_of_key_eq same
    exact ⟨rfl, rfl, rfl, rfl, rfl, rfl, rfl, rfl⟩
  · rintro ⟨names, lists, collections, dictionaries, wrappers, valueTypes, nonNulls, overrides⟩
    cases source
    cases other
    simp_all only

end AppSync.Source
