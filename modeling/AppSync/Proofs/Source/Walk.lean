import AppSync.Proofs.Source.Key
import AppSync.Source.Resolution

/-!
Where the name of an output type comes from: first arguments are followed through lists and nullable
wrappers, and the type at which this ends is named by itself.
-/

namespace AppSync.Source

/-- The override of a type; an empty one is none. -/
def override? (source : Source) : Option String :=
  source.scalarOverride.filter (· ≠ "")

/-- The name of a type by itself: its override, its scalar, that of dictionaries or its own. -/
def ownName (source : Source) : String :=
  match source.override?, Registry.scalarOf? source.name with
  | some override, _ => override
  | none, some scalar => scalar
  | none, none =>
    if source.isDictionary then Registry.CustomScalar.json.name else plainName source.name

/-- Lists and nullable wrappers that have no override and no scalar and are no dictionaries. -/
def isFollowed (source : Source) : Bool :=
  source.override?.isNone && (Registry.scalarOf? source.name).isNone && !source.isDictionary &&
    (source.isCollection || source.isNullableWrapper)

/-- A way into a type: the types that it passes, and the one at which it ends. -/
structure Walk where
  passed : List Source
  last : Source

/-- The way along first arguments, up to a type that is not followed or has no argument. -/
def walk : Source → Walk
  | ⟨name, arguments, collection, dictionary, wrapper, valueType, nonNull, override⟩ =>
    let source : Source :=
      ⟨name, arguments, collection, dictionary, wrapper, valueType, nonNull, override⟩
    match arguments with
    | [] => ⟨[], source⟩
    | first :: _ =>
      if source.isFollowed then ⟨source :: (walk first).passed, (walk first).last⟩ else ⟨[], source⟩

/-- Whether the walk ends at a list or nullable wrapper for want of an argument. -/
def Dangles (source : Source) : Prop :=
  source.walk.last.isFollowed = true ∧ source.walk.last.arguments = []

/-- The number of lists that the walk passes. -/
def listCount (source : Source) : Nat :=
  source.walk.passed.countP isCollection

/-- A name inside a number of pairs of brackets. -/
def bracketed : Nat → String → String
  | 0, name => name
  | count + 1, name => "[" ++ bracketed count name ++ "]"

/-- What is looked at of a type below the outer one. -/
def look (source : Source) : String × Bool × Bool × Bool × Option String :=
  (source.name, source.isCollection, source.isDictionary, source.isNullableWrapper,
    source.scalarOverride)

/-- Types with walks that look alike, whose outer types also agree in the flags about null. -/
structure WalkAlike (source other : Source) : Prop where
  nonNull : source.nonNull = other.nonNull
  isValueType : source.isValueType = other.isValueType
  passed : source.walk.passed.map look = other.walk.passed.map look
  last : source.walk.last.look = other.walk.last.look

variable {source first : Source} {others : List Source}

/-- A walk goes on through the first argument of a type that is followed. -/
theorem walk_of_isFollowed (followed : source.isFollowed = true)
    (given : source.arguments = first :: others) :
    source.walk = ⟨source :: first.walk.passed, first.walk.last⟩ := by
  cases source
  cases given
  rw [walk]
  exact if_pos followed

/-- A walk ends at a type without arguments. -/
theorem walk_of_bare (bare : source.arguments = []) : source.walk = ⟨[], source⟩ := by
  cases source
  cases bare
  rw [walk]

/-- A walk ends at a type that is not followed. -/
theorem walk_of_not_isFollowed (ends : source.isFollowed = false) : source.walk = ⟨[], source⟩ := by
  cases given : source.arguments with
  | nil => exact walk_of_bare given
  | cons first others =>
    cases source
    cases given
    rw [walk]
    exact if_neg (by simp [ends])

/-- The rules that name a type without its shape, in their order. -/
theorem directName?_eq (source : Source) :
    source.directName? = (source.override?.or (Registry.scalarOf? source.name)).or
      (if source.isDictionary then some Registry.CustomScalar.json.name else none) := by
  have registered : directName?.registered? source = (Registry.scalarOf? source.name).or
      (if source.isDictionary then some Registry.CustomScalar.json.name else none) := by
    unfold directName?.registered?
    cases Registry.scalarOf? source.name <;> rfl
  unfold directName? override?
  rw [registered, Option.or_assoc]
  -- An empty override is passed over as if there were none.
  cases source.scalarOverride with
  | none => rfl
  | some override =>
    by_cases empty : override = "" <;> simp [empty, Option.filter]

/-- A type is followed if none of these rules names it and its shape has an argument. -/
theorem isFollowed_eq (source : Source) :
    source.isFollowed =
      (source.directName?.isNone && (source.isCollection || source.isNullableWrapper)) := by
  rw [directName?_eq, isFollowed, Option.isNone_or, Option.isNone_or]
  cases source.isDictionary <;> rfl

/-- A type that none of these rules names has its plain name. -/
theorem ownName_eq (source : Source) :
    source.ownName = source.directName?.getD (plainName source.name) := by
  rw [directName?_eq, ownName]
  cases source.override? with
  | some override => rfl
  | none =>
    cases Registry.scalarOf? source.name with
    | some scalar => rfl
    | none => cases source.isDictionary <;> rfl

/-- A type that is not followed is named by itself. -/
theorem resolve_of_not_isFollowed (ends : source.isFollowed = false) :
    source.resolve = .ok ⟨source.ownName, source.isNullable⟩ := by
  rw [isFollowed_eq, Bool.and_eq_false_iff, Bool.or_eq_false_iff] at ends
  rw [ownName_eq]
  cases source with
  | mk name arguments collection dictionary wrapper valueType nonNull override =>
    rw [resolve.eq_def]
    -- Either a rule names the type, or its shape has no argument.
    cases named : directName? ⟨name, arguments, collection, dictionary, wrapper, valueType, nonNull,
        override⟩ with
    | some direct =>
      dsimp only
      rw [named]
      rfl
    | none =>
      obtain ⟨list, wrapped⟩ := ends.resolve_left (by simp [named])
      dsimp only
      rw [named]
      cases list
      cases wrapped
      rfl

/-- A type that is followed is named by its first argument, inside brackets if it is a list. -/
theorem resolve_of_isFollowed (followed : source.isFollowed = true)
    (given : source.arguments = first :: others) :
    source.resolve = first.resolve.map fun found =>
      if source.isCollection then ⟨"[" ++ found.name ++ "]", source.isNullable⟩
      else ⟨found.name, true⟩ := by
  rw [isFollowed_eq, Bool.and_eq_true, Option.isNone_iff_eq_none, Bool.or_eq_true] at followed
  obtain ⟨unnamed, shaped⟩ := followed
  cases source
  cases given
  rw [resolve, unnamed]
  dsimp only at shaped ⊢
  -- A list comes before a wrapper, and one of the two it is.
  split
  · rfl
  · rename_i single
    rw [if_pos (shaped.resolve_left single)]

/-- A type that is followed has no name without an argument. -/
theorem resolve_of_bare (followed : source.isFollowed = true) (bare : source.arguments = []) :
    source.resolve = .error ⟨source.name⟩ := by
  rw [isFollowed_eq, Bool.and_eq_true, Option.isNone_iff_eq_none, Bool.or_eq_true] at followed
  obtain ⟨unnamed, shaped⟩ := followed
  cases source
  cases bare
  rw [resolve, unnamed]
  dsimp only at shaped ⊢
  -- Whatever made the walk go on, resolving misses the argument as well.
  split
  · rfl
  · rename_i single
    rw [if_pos (shaped.resolve_left single)]

/-- A walk either ends at once, with or without an argument to go on with, or goes on. -/
theorem induct_walk {motive : Source → Prop}
    (ends : ∀ source : Source, source.isFollowed = false → motive source)
    (bare : ∀ source : Source, source.isFollowed = true → source.arguments = [] → motive source)
    (goes : ∀ (source first : Source) (others : List Source), source.isFollowed = true →
      source.arguments = first :: others → motive first → motive source)
    (source : Source) : motive source := by
  -- The induction on the source gives the motive for all arguments; the walk takes the first.
  induction source using induct with
  | step source ih =>
    cases followed : source.isFollowed with
    | false => exact ends source followed
    | true =>
      cases given : source.arguments with
      | nil => exact bare source followed given
      | cons first others =>
        exact goes source first others followed given (ih first (by simp [given]))

/-- Whether the outer type admits null: a wrapper that is followed does whatever is said of it. -/
def admitsNull (source : Source) : Bool :=
  source.isFollowed && !source.isCollection || source.isNullable

/-- The output type of a source is read off its walk. -/
theorem resolve_eq (source : Source) :
    source.resolve =
      if source.walk.last.isFollowed then .error ⟨source.walk.last.name⟩
      else .ok ⟨bracketed source.listCount source.walk.last.ownName, source.admitsNull⟩ := by
  -- Each list that is passed adds a pair of brackets to what its first argument is named.
  induction source using induct_walk with
  | ends source ends =>
    rw [resolve_of_not_isFollowed ends, listCount, walk_of_not_isFollowed ends, admitsNull, ends]
    rfl
  | bare source followed bare =>
    rw [resolve_of_bare followed bare, walk_of_bare bare, if_pos followed]
  | goes source first others followed given ih =>
    have counted : source.listCount = first.listCount + if source.isCollection then 1 else 0 := by
      rw [listCount, walk_of_isFollowed followed given, List.countP_cons]
      rfl
    rw [resolve_of_isFollowed followed given, ih, counted, walk_of_isFollowed followed given]
    dsimp only
    cases first.walk.last.isFollowed with
    | true => rfl
    | false =>
      cases list : source.isCollection <;>
        simp [Except.map, admitsNull, followed, list, bracketed]

/-- A walk that ends at a type which is followed ends there for want of an argument. -/
theorem arguments_of_isFollowed_last (followed : source.walk.last.isFollowed = true) :
    source.walk.last.arguments = [] := by
  induction source using induct_walk with
  | ends source ends =>
    rw [walk_of_not_isFollowed ends, ends] at followed
    cases followed
  | bare source _ bare => rwa [walk_of_bare bare]
  | goes source first others step given ih =>
    rw [walk_of_isFollowed step given] at followed ⊢
    exact ih followed

/-- Types that look alike are followed alike, and have the same name by themselves. -/
theorem same_of_look {other : Source} (same : source.look = other.look) :
    source.isFollowed = other.isFollowed ∧ source.ownName = other.ownName := by
  simp only [look, Prod.mk.injEq] at same
  simp [isFollowed, ownName, override?, same]

/-- The outer type is the first that is passed, or the one at which the walk ends at once. -/
theorem look_eq (source : Source) :
    source.look = (source.walk.passed.map look).headD source.walk.last.look := by
  -- What is passed first is the source itself if the walk goes on.
  cases source using induct_walk with
  | ends source ends =>
    rw [walk_of_not_isFollowed ends]
    rfl
  | bare source _ bare =>
    rw [walk_of_bare bare]
    rfl
  | goes source first others followed given _ =>
    rw [walk_of_isFollowed followed given]
    rfl

namespace WalkAlike

variable {other : Source}

/-- The outer types admit null alike. -/
theorem admitsNull_eq (alike : WalkAlike source other) : source.admitsNull = other.admitsNull := by
  have outer : source.look = other.look := by
    rw [look_eq, look_eq other, alike.passed, alike.last]
  have followed := (same_of_look outer).1
  simp only [look, Prod.mk.injEq] at outer
  simp [admitsNull, isNullable, isValueLike, followed, outer, alike.nonNull, alike.isValueType]

/-- The walks pass as many lists. -/
theorem listCount_eq (alike : WalkAlike source other) : source.listCount = other.listCount := by
  have counted (source : Source) :
      source.listCount = (source.walk.passed.map look).countP fun seen => seen.2.1 := by
    rw [List.countP_map]
    rfl
  rw [counted, counted other, alike.passed]

/-- The walks end at types of the same name. -/
theorem name_eq (alike : WalkAlike source other) : source.walk.last.name = other.walk.last.name :=
  congrArg Prod.fst alike.last

end WalkAlike

/-- A nullable list of lists of identifiers, with an argument off the walk. -/
def nestedSource (nonNull : Bool) (offWalk : List Source) : Source where
  name := "typing.Optional"
  isNullableWrapper := true
  arguments := [{
    name := "builtins.list"
    isCollection := true
    nonNull := nonNull
    arguments := [{
      name := "builtins.tuple"
      isCollection := true
      isNullableWrapper := true
      arguments := [{ name := "uuid.UUID", isCollection := true }] }] ++ offWalk }]

end AppSync.Source
