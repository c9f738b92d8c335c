import AppSync.Proofs.Source.Cache

/-!
What readings yield: values with a property, or problems that can be stated. A problem cannot be
stated where the text of a refusal has halves of characters in it; the readings of single values and
the ways to put readings together hand on both.
-/

namespace AppSync.Reading

open Text (hasHalves)

variable {known : Prop} {α β : Type}

/-- A cause that can be put into words: no refusal has halves of characters in its text. -/
def IsStatable (cause : Cause) : Prop :=
  ∀ refusal, cause = .refused refusal → hasHalves refusal.message = false

/-- Problems of which every cause can be stated make no complaint. -/
theorem unstatable?_eq_none {problems : List Problem}
    (statable : ∀ problem ∈ problems, IsStatable problem.cause) :
    Problem.unstatable? problems = none := by
  refine List.findSome?_eq_none_iff.mpr fun problem member => ?_
  unfold Problem.unstated?
  split
  · rename_i refusal refused
    exact Source.unencodableHalves?_eq_none (statable problem member refusal refused)
  · rfl

/-- A value other than null is read as it would be where null is not admitted. -/
theorem nullable_of_ne_null {read : Value → Reading α} {value : Value} (present : value ≠ .null) :
    Reading.nullable read value = (read value).map some := by
  unfold Reading.nullable
  split
  · exact absurd rfl present
  · rfl

/--
What a reading comes to: a value that is read has a property, and as far as it is known that the
texts that matter have no halves of characters, every problem can be stated.
-/
structure Yields (known : Prop) (holds : α → Prop) (reading : Reading α) : Prop where
  found : ∀ value, reading = .ok value → holds value
  stated : known → ∀ problems, reading = .error problems →
    ∀ problem ∈ problems, IsStatable problem.cause

namespace Yields

variable {holds : α → Prop} {reading : Reading α}

/-- A value that is there already is yielded. -/
theorem ok {value : α} (held : holds value) : Yields known holds (.ok value) := by
  refine ⟨?_, ?_⟩
  · rintro same ⟨⟩
    exact held
  · rintro - problems ⟨⟩

/-- A single problem yields no value, and can be stated if its cause can. -/
theorem fail {cause : Cause} (statable : known → IsStatable cause) :
    Yields known holds (Reading.fail cause) := by
  refine ⟨?_, ?_⟩
  · rintro value ⟨⟩
  · rintro given problems ⟨⟩ problem member
    cases List.mem_singleton.mp member
    exact statable given

/-- A problem that is no refusal can be stated. -/
theorem plain {cause : Cause} (other : ∀ refusal, cause ≠ .refused refusal) :
    Yields known holds (Reading.fail cause) :=
  fail fun _ refusal refused => absurd refused (other refusal)

/-- A weaker property is yielded as well. -/
theorem imp {weaker : α → Prop} (yields : Yields known holds reading)
    (weak : ∀ value, holds value → weaker value) : Yields known weaker reading :=
  ⟨fun value found => weak value (yields.found value found), yields.stated⟩

/-- What is made of a value has a property if the value has one that makes sure of it. -/
theorem map {make : α → β} {made : β → Prop}
    (yields : Yields known (fun value => made (make value)) reading) :
    Yields known made (reading.map make) := by
  cases reading with
  | error problems =>
    refine ⟨?_, fun given others same => ?_⟩
    · rintro value ⟨⟩
    · cases same
      exact yields.stated given problems rfl
  | ok value => exact ok (yields.found value rfl)

/-- An argument and a function of it are read one beside the other. -/
theorem give {function : Reading (α → β)} {made : β → Prop}
    (first : Yields known (fun f => ∀ argument, holds argument → made (f argument)) function)
    (second : Yields known holds reading) : Yields known made (reading.give function) := by
  -- A value needs both to be read; otherwise the problems of both are kept.
  cases function with
  | error problems =>
    cases reading with
    | error others =>
      refine ⟨?_, ?_⟩
      · rintro value ⟨⟩
      · rintro given all ⟨⟩ problem member
        rcases List.mem_append.mp member with early | late
        · exact first.stated given problems rfl problem early
        · exact second.stated given others rfl problem late
    | ok argument =>
      refine ⟨?_, ?_⟩
      · rintro value ⟨⟩
      · rintro given all ⟨⟩
        exact first.stated given problems rfl
  | ok f =>
    cases reading with
    | error others =>
      refine ⟨?_, ?_⟩
      · rintro value ⟨⟩
      · rintro given all ⟨⟩
        exact second.stated given others rfl
    | ok argument => exact ok (first.found f rfl argument (second.found argument rfl))

/-- An argument of which nothing is asked. -/
theorem giveAny {function : Reading (α → β)} {made : β → Prop}
    (first : Yields known (fun f => ∀ argument, made (f argument)) function)
    (second : Yields known (fun _ => True) reading) : Yields known made (reading.give function) :=
  (first.imp fun _ each argument _ => each argument).give second

/-- Where a value stands does not matter. -/
theorem below (yields : Yields known holds reading) (step : String) :
    Yields known holds (reading.below step) := by
  cases reading with
  | error problems =>
    refine ⟨?_, ?_⟩
    · rintro value ⟨⟩
    · rintro given others ⟨⟩ problem member
      obtain ⟨inner, inside, rfl⟩ := List.mem_map.mp member
      exact yields.stated given problems rfl inner inside
  | ok value => exact ok (yields.found value rfl)

/-- One reading after another. -/
theorem bind {next : α → Reading β} {made : β → Prop} (first : Yields known holds reading)
    (second : ∀ value, reading = .ok value → holds value → Yields known made (next value)) :
    Yields known made (reading >>= next) := by
  cases reading with
  | error problems =>
    refine ⟨?_, ?_⟩
    · rintro value ⟨⟩
    · rintro given others ⟨⟩
      exact first.stated given problems rfl
  | ok value => exact second value rfl (first.found value rfl)

/-- Items that each have a property are yielded in one list. -/
theorem items {read : Value → Reading α} {values : List Value}
    (each : ∀ value ∈ values, Yields known holds (read value)) (index : Nat) :
    Yields known (fun found => ∀ item ∈ found, holds item) (Reading.items read index values) := by
  -- The items come one after the other, each below its index.
  induction values generalizing index with
  | nil => exact ok fun item member => nomatch member
  | cons value rest ih =>
    have others := ih (fun other member => each other (List.mem_cons_of_mem value member))
      (index + 1)
    refine give (map ?_) others
    refine ((each value List.mem_cons_self).below (toString index)).imp ?_
    intro first held more all item member
    rcases List.mem_cons.mp member with rfl | member
    · exact held
    · exact all item member

/-- A list yields what its items do. -/
theorem list {read : Value → Reading α} {value : Value}
    (each : ∀ values, listed? value = some values → ∀ item ∈ values,
      Yields known holds (read item)) :
    Yields known (fun found => ∀ item ∈ found, holds item) (Reading.list read value) := by
  unfold Reading.list
  split
  · rename_i values listed
    exact items (each values listed) 0
  · exact plain nofun

/-- A sequence yields what its items do. -/
theorem tuple {read : Value → Reading α} {value : Value}
    (each : ∀ values, listed? value = some values → ∀ item ∈ values,
      Yields known holds (read item)) :
    Yields known (fun found => ∀ item ∈ found, holds item) (Reading.tuple read value) := by
  unfold Reading.tuple
  split
  · rename_i values listed
    exact items (each values listed) 0
  · exact plain nofun

/-- A value that obeys a rule is yielded with the evidence; else the refusal is to be stated. -/
theorem obeying {rule : α → Prop} [DecidablePred rule] {refusal : α → Refusal}
    (yields : Yields known holds reading)
    (statable : known → ∀ value, reading = .ok value →
      hasHalves (refusal value).message = false) :
    Yields known (fun found => holds found.1) (Reading.obeying rule refusal reading) := by
  -- The problems are those of the reading, or the one refusal of the rule.
  cases reading with
  | error problems =>
    refine ⟨?_, ?_⟩
    · rintro value ⟨⟩
    · rintro given others ⟨⟩
      exact yields.stated given problems rfl
  | ok value =>
    unfold Reading.obeying
    dsimp only
    split
    · exact ok (yields.found value rfl)
    · refine fail fun given other refused => ?_
      cases refused
      exact statable given value rfl

/-- A text, or bytes that encode one. -/
theorem text (value : Value) : Yields known (fun _ => True) (Reading.text value) := by
  unfold Reading.text
  split
  · exact ok trivial
  · split
    · exact ok trivial
    · exact plain nofun
  · exact plain nofun

/-- A word that is looked into. -/
theorem word {read : String → Reading α} (written : String)
    (yields : Yields known holds (read written)) :
    Yields known holds (Reading.word read written) := by
  unfold Reading.word
  split
  · exact plain nofun
  · exact yields

/-- Null, or a value. -/
theorem nullable {read : Value → Reading α} {value : Value}
    (yields : Yields known (fun _ => True) (read value)) :
    Yields known (fun _ => True) (Reading.nullable read value) := by
  unfold Reading.nullable
  split
  · exact ok trivial
  · exact map (yields.imp fun _ _ => trivial)

/-- The truth value of a word. -/
theorem wordBoolean (word : String) : Yields known (fun _ => True) (Reading.wordBoolean word) := by
  unfold Reading.wordBoolean
  split
  · exact ok trivial
  · exact plain nofun

/-- The truth value of a number. -/
theorem numberBoolean (number : Int) :
    Yields known (fun _ => True) (Reading.numberBoolean number) := by
  unfold Reading.numberBoolean
  split
  · exact ok trivial
  · split
    · exact ok trivial
    · split <;> exact plain nofun

/-- A truth value. -/
theorem boolean (value : Value) : Yields known (fun _ => True) (Reading.boolean value) := by
  unfold Reading.boolean
  -- One branch for each kind of value; what is no truth value is refused without its text.
  split
  · exact ok trivial
  · exact numberBoolean _
  · split
    · split
      · exact plain nofun
      · exact numberBoolean _
    · exact plain nofun
  · exact word _ (wordBoolean _)
  · split
    · exact wordBoolean _
    · exact plain nofun
  · exact plain nofun

/-- The integer that a word spells. -/
theorem wordInteger (written : String) :
    Yields known (fun _ => True) (Reading.wordInteger written) := by
  unfold Reading.wordInteger
  split
  · exact ok trivial
  · exact plain nofun
  · split
    · exact ok trivial
    · exact plain nofun

/-- An integer. -/
theorem integer (value : Value) : Yields known (fun _ => True) (Reading.integer value) := by
  unfold Reading.integer
  -- One branch for each kind of value; what is no integer is refused without its text.
  split
  · exact ok trivial
  · exact ok trivial
  · split
    · exact plain nofun
    · split
      · exact plain nofun
      · split
        · exact ok trivial
        · exact plain nofun
  · exact word _ (wordInteger _)
  · split
    · exact wordInteger _
    · exact plain nofun
  · exact plain nofun

/-- An integer within bounds. -/
theorem integerBetween (least greatest : Int) (value : Value) :
    Yields known (fun _ => True) (Reading.integerBetween least greatest value) := by
  have whole : Yields known (fun _ => True) (Reading.integer value) := integer value
  unfold Reading.integerBetween
  -- A number out of bounds is refused by its bounds, which are known.
  split
  · rename_i problems met
    refine ⟨?_, ?_⟩
    · rintro number ⟨⟩
    · rintro given others ⟨⟩
      exact whole.stated given problems met
  · split
    · split
      · exact ok trivial
      · exact plain nofun
    · exact plain nofun

/-- One of several named choices. -/
theorem chosen (options : List (String × α)) (name : String) :
    Yields known (fun _ => True) (Reading.chosen options name) := by
  unfold Reading.chosen
  split
  · exact ok trivial
  · exact plain nofun

/-- A choice by its name, however it is spelled. -/
theorem choice (options : List (String × α)) (spell : String → String) (value : Value) :
    Yields known (fun _ => True) (Reading.choice options spell value) := by
  unfold Reading.choice
  split
  · exact word _ (chosen _ _)
  · split
    · exact chosen _ _
    · exact plain nofun
  · exact plain nofun

/-- The entries of a mapping. -/
theorem record (name : String) (value : Value) :
    Yields known (fun entries => value.unfolded = .mapping entries)
      (Reading.record name value) := by
  unfold Reading.record
  split
  · rename_i entries form
    exact ok form
  · exact plain nofun

variable {key : String} {read : Value → Reading α} {entries : Entries}

/-- A required value yields what it does by itself. -/
theorem required (each : ∀ value, entries.get? key = some value → Yields known holds (read value)) :
    Yields known holds (Reading.required key read entries) := by
  unfold Reading.required
  split
  · rename_i value held
    exact (each value held).below key
  · refine ⟨?_, ?_⟩
    · rintro value ⟨⟩
    · rintro - problems ⟨⟩ problem member
      cases List.mem_singleton.mp member
      rintro refusal ⟨⟩

/-- An optional value yields what it does by itself, or the default. -/
theorem optional {absent : α} (default : holds absent)
    (each : ∀ value, entries.get? key = some value → Yields known holds (read value)) :
    Yields known holds (Reading.optional key read absent entries) := by
  unfold Reading.optional
  split
  · rename_i value held
    exact (each value held).below key
  · exact ok default

/-- A text that may be absent or null. -/
theorem optionalText (key : String) (entries : Entries) :
    Yields known (fun _ => True)
      (Reading.optional key (Reading.nullable Reading.text) none entries) :=
  optional trivial fun value _ => nullable (text value)

/-- A truth value that may be absent. -/
theorem optionalBoolean (key : String) (absent : Bool) (entries : Entries) :
    Yields known (fun _ => True) (Reading.optional key Reading.boolean absent entries) :=
  optional trivial fun value _ => boolean value

/-- A text that has to be there. -/
theorem requiredText (key : String) (entries : Entries) :
    Yields known (fun _ => True) (Reading.required key Reading.text entries) :=
  required fun value _ => text value

/-- Texts of which there may be none. -/
theorem optionalTexts (key : String) (entries : Entries) :
    Yields known (fun _ => True)
      (Reading.optional key (Reading.list Reading.text) ([] : List String) entries) :=
  optional trivial fun _ _ => (list fun _ _ item _ => text item).imp fun _ _ => trivial

end Yields

end AppSync.Reading
