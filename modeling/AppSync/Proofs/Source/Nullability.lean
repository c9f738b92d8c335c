import AppSync.Proofs.Source.Declared

/-!
Null in output types: one rule reads it off the flags of the outer type, the other is the one by
which types are resolved. They part at a nullable wrapper that is said to hold no null.
-/

namespace AppSync.Source

/-- The mark that rules null out behind a written type, or nothing. -/
def nullMark (isNullable : Bool) : String :=
  if isNullable then "" else "!"

/-- A written type is its name with the mark. -/
theorem text_eq (type : ResolvedType) : type.text = type.name ++ nullMark type.isNullable := by
  unfold ResolvedType.text nullMark
  cases type.isNullable <;> simp

/-- A nullable wrapper whose argument names it, although it is annotated as never null. -/
structure IsContested (source : Source) : Prop where
  nonNull : source.nonNull = true
  followed : source.isFollowed = true
  single : source.isCollection = false

variable {source : Source} {type : ResolvedType}

/-- A type that is followed and is no list is a nullable wrapper, and no dictionary. -/
theorem isNullableWrapper_of_isFollowed (followed : source.isFollowed = true)
    (single : source.isCollection = false) :
    source.isNullableWrapper = true ∧ source.isDictionary = false := by
  unfold isFollowed at followed
  simp only [Bool.and_eq_true, Bool.or_eq_true, Bool.not_eq_true', single, Bool.false_eq_true,
    false_or] at followed
  exact ⟨followed.2, followed.1.2⟩

/-- A wrapper that is followed admits null by its flags unless it is annotated. -/
theorem isNullable_of_isFollowed (followed : source.isFollowed = true)
    (single : source.isCollection = false) : source.isNullable = !source.nonNull := by
  unfold isNullable
  rw [(isNullableWrapper_of_isFollowed followed single).1]
  cases source.nonNull <;> rfl

/-- What admits null by the way it is resolved does so by its flags, unless they contest it. -/
theorem admitsNull_eq_isNullable_iff :
    source.admitsNull = source.isNullable ↔ ¬source.IsContested := by
  unfold admitsNull
  -- Only a wrapper that is followed admits null whatever its flags say.
  by_cases wrapper : source.isFollowed = true ∧ source.isCollection = false
  · obtain ⟨followed, single⟩ := wrapper
    rw [isNullable_of_isFollowed followed single, followed, single]
    cases annotated : source.nonNull with
    | true => exact iff_of_false nofun fun uncontested => uncontested ⟨annotated, followed, single⟩
    | false => exact iff_of_true rfl fun contested => nomatch annotated.symm.trans contested.nonNull
  · refine iff_of_true ?_ fun contested => wrapper ⟨contested.followed, contested.single⟩
    rw [not_and, Bool.not_eq_false] at wrapper
    cases followed : source.isFollowed with
    | true => simp [wrapper followed]
    | false => rfl

/-- A type admits null as the way it is resolved says. -/
theorem isNullable_of_resolve (resolved : source.resolve = .ok type) :
    type.isNullable = source.admitsNull := by
  rw [resolve_eq] at resolved
  split at resolved
  · cases resolved
  · cases resolved
    rfl

/-- A declared text that leaves the mark to the source: neither a list in brackets nor marked. -/
structure LeavesMark (declared : String) : Prop where
  filled : declared ≠ ""
  unlisted : (Text.trim declared).toList.head? ≠ some '['
  unmarked : (Text.trim declared).toList.getLast? ≠ some '!'

/-- The mark behind such a text is that of the flags of the source. -/
theorem applyDeclared_leavesMark {declared : String} (leaves : LeavesMark declared) :
    (source.applyDeclared declared).text =
      bracketed source.shapeLevels (Text.trim declared) ++ nullMark source.isNullable := by
  unfold applyDeclared shapeLevels
  simp only [leaves.unlisted, leaves.unmarked, if_false, decide_false, text_eq]
  cases source.shape.isCollection <;> simp [bracketed]

/--
The two rules agree exactly where the flags of the source do not contest what it is resolved to.

So an annotated type is never null except there, and an inferred type has the mark that a declared
one gets from the same source except there.
-/
theorem resolve_isNullable_iff (resolved : source.resolve = .ok type) :
    (type.isNullable = source.isNullable ↔ ¬source.IsContested) ∧
    (source.nonNull = true → (type.isNullable = false ↔ ¬source.IsContested)) ∧
    ∀ (outer : Source) (declared : String), outer.unwrap = some source → LeavesMark declared →
      outer.returnText none = .ok (type.name ++ nullMark type.isNullable) ∧
      outer.returnText (some declared) =
        .ok (bracketed source.shapeLevels (Text.trim declared) ++ nullMark source.isNullable) := by
  have agree : type.isNullable = source.isNullable ↔ ¬source.IsContested := by
    rw [isNullable_of_resolve resolved, admitsNull_eq_isNullable_iff]
  refine ⟨agree, fun annotated => ?_, fun outer declared awaited leaves => ⟨?_, ?_⟩⟩
  · -- By the flags alone an annotated type is never null.
    have never : source.isNullable = false := by simp [isNullable, annotated]
    rw [← agree, never]
  · simp only [returnText, awaited, declaration?, Option.filter_none, resolved, Except.map, text_eq]
  · have spoken : declaration? (some declared) = some declared := by
      simp [declaration?, Option.filter, leaves.filled]
    simp only [returnText, awaited, spoken, applyDeclared_leavesMark leaves]

/-- A moment in a nullable wrapper, annotated as never null or not. -/
def nullableMoment (nonNull : Bool) (override : Option String) : Source where
  name := "System.Nullable"
  arguments := [{ name := "System.DateTime" }]
  isNullableWrapper := true
  nonNull := nonNull
  scalarOverride := override

/-- With an override the annotation of a wrapper counts, in inferred and in declared types. -/
theorem resolve_isNullable_overridden :
    (nullableMoment true (some "AWSTimestamp")).resolve = .ok ⟨"AWSTimestamp", false⟩ ∧
      (nullableMoment true (some "AWSTimestamp")).isNullable = false ∧
      (taskOf (nullableMoment true (some "AWSTimestamp"))).returnText none = .ok "AWSTimestamp!" ∧
      (taskOf (nullableMoment true (some "AWSTimestamp"))).returnText (some " Item") =
        .ok "Item!" := by
  have resolved : (nullableMoment true (some "AWSTimestamp")).resolve =
      .ok ⟨"AWSTimestamp", false⟩ := by decide +kernel
  have awaited : (taskOf (nullableMoment true (some "AWSTimestamp"))).unwrap =
      some (nullableMoment true (some "AWSTimestamp")) := rfl
  have leaves : LeavesMark " Item" := ⟨by decide, by decide +kernel, by decide +kernel⟩
  have uncontested : ¬(nullableMoment true (some "AWSTimestamp")).IsContested :=
    fun contested => absurd contested.followed (by decide +kernel)
  obtain ⟨agree, -, texts⟩ := resolve_isNullable_iff resolved
  obtain ⟨inferred, declares⟩ := texts _ " Item" awaited leaves
  refine ⟨resolved, (agree.mpr uncontested).symm, inferred.trans ?_, declares.trans ?_⟩
  · decide +kernel
  · decide +kernel

/-- Without one the wrapper is resolved to a type with null, against its annotation. -/
theorem resolve_isNullable_contested :
    (nullableMoment true none).resolve = .ok ⟨"AWSDateTime", true⟩ ∧
      (nullableMoment true none).nonNull = true ∧
      (nullableMoment true none).isNullable = false ∧
      (taskOf (nullableMoment true none)).returnText none = .ok "AWSDateTime" ∧
      (taskOf (nullableMoment true none)).returnText (some "Item") = .ok "Item!" := by
  refine ⟨?_, ?_, ?_, ?_, ?_⟩ <;> decide +kernel

end AppSync.Source
