import AppSync.Proofs.Sdl.Edges
import AppSync.Proofs.Source.Walk
import AppSync.Source.Returned

/-!
Declared return types: the name replaces the inferred one, but of the lists around it only one is
looked for, below one nullable wrapper.
-/

namespace AppSync.Source

/-- The number of lists that a written type opens with. -/
def listLevels (type : String) : Nat :=
  (type.toList.takeWhile (· = '[')).length

/-- What begins with no bracket opens no list behind a name. -/
theorem listLevels_append (name : String) {behind : String}
    (other : ∀ c ∈ behind.toList.head?, c ≠ '[') :
    listLevels (name ++ behind) = listLevels name := by
  have stops : ∀ c ∈ behind.toList.head?, decide (c = '[') = false :=
    fun c first => decide_eq_false (other c first)
  rw [listLevels, String.toList_append, (Text.takeWhile_append_of_stops _ stops).1, listLevels]

/-- Each pair of brackets opens a list. -/
theorem listLevels_bracketed (count : Nat) (name : String) :
    listLevels (bracketed count name) = count + listLevels name := by
  induction count with
  | zero => simp [bracketed]
  | succ count ih =>
    have opened : listLevels ("[" ++ bracketed count name) =
        listLevels (bracketed count name) + 1 := by
      simp [listLevels]
    rw [bracketed, listLevels_append _ (by simp), opened, ih]
    omega

/-- The mark that rules null out opens no list. -/
theorem listLevels_text (type : ResolvedType) : listLevels type.text = listLevels type.name := by
  unfold ResolvedType.text
  split
  · rfl
  · exact listLevels_append _ (by simp)

/-- The lists that the shape of a type shows: one, or none. -/
def shapeLevels (actual : Source) : Nat :=
  if actual.shape.isCollection then 1 else 0

section Plain

variable {name : String}

/-- A name of the language begins with a part of names, and ends with one. -/
theorem ends_of_isName (named : Sdl.isName name = true) :
    (∀ c ∈ name.toList.head?, Sdl.isNamePart c = true) ∧
      ∀ c ∈ name.toList.getLast?, Sdl.isNamePart c = true := by
  obtain ⟨c, rest, letters, -, parts⟩ := Sdl.exists_of_isName named
  rw [letters]
  exact ⟨fun d first => parts d (List.mem_of_mem_head? first),
    fun d last => parts d (List.mem_of_mem_getLast? last)⟩

/-- A name of the language opens no list, whatever is behind it. -/
theorem listLevels_name (named : Sdl.isName name = true) : listLevels name = 0 := by
  have first := (ends_of_isName named).1
  unfold listLevels
  cases letters : name.toList with
  | nil => rfl
  | cons c rest =>
    have other : c ≠ '[' := by
      rintro rfl
      exact absurd (first '[' (by simp [letters])) (by decide)
    simp [other]

/-- A name is declared as it stands, with or without its mark. -/
theorem trim_declared (named : Sdl.isName name = true) :
    Text.trim name = name ∧ Text.trim (name ++ "!") = name ++ "!" := by
  obtain ⟨opens, closes⟩ := Sdl.edges_name named
  have marked : Sdl.Closes (name ++ "!").toList := ⟨name.toList, '!', by simp, by decide⟩
  have opensMarked : Sdl.Opens (name ++ "!").toList := by
    rw [String.toList_append]
    exact opens.append _
  unfold Text.trim
  rw [Sdl.trimBy_eq_self opens closes, Sdl.trimBy_eq_self opensMarked marked]
  simp

/-- The type that a declared name stands for: with the lists of the shape, and null as admitted. -/
def declaredType (actual : Source) (name : String) (isMarked : Bool) : ResolvedType :=
  ⟨bracketed actual.shapeLevels name, actual.isNullable && !isMarked⟩

/-- A declared name takes the place of the inferred one. -/
theorem applyDeclared_text (actual : Source) (named : Sdl.isName name = true) :
    (actual.applyDeclared name).text = (actual.declaredType name false).text ∧
      (actual.applyDeclared (name ++ "!")).text = (actual.declaredType name true).text := by
  obtain ⟨first, last⟩ := ends_of_isName named
  obtain ⟨trimmed, trimmedMarked⟩ := trim_declared named
  obtain ⟨c, rest, letters, -⟩ := (Sdl.edges_name named).1
  have shaped (base : String) : (if actual.shape.isCollection = true then "[" ++ base ++ "]"
      else base) = bracketed actual.shapeLevels base := by
    unfold shapeLevels
    split <;> rfl
  -- No name begins as a list does, and none ends as a type that rules null out.
  have unlisted : name.toList.head? ≠ some '[' := fun opened =>
    absurd (first '[' opened) (by decide)
  have unmarked : name.toList.getLast? ≠ some '!' := fun bang =>
    absurd (last '!' bang) (by decide)
  constructor
  · simp only [applyDeclared, trimmed, shaped, unlisted, unmarked, if_false, decide_false,
      declaredType]
  · have unlistedMarked : (name ++ "!").toList.head? ≠ some '[' := by
      simpa [letters] using unlisted
    have marked : (name ++ "!").toList.getLast? = some '!' := by simp
    have base : String.ofList (name ++ "!").toList.dropLast = name := by simp
    simp only [applyDeclared, trimmedMarked, shaped, unlistedMarked, marked, base, if_false,
      if_true, decide_true, declaredType]

end Plain

/-- Whether the lists that a type is inferred to be are those that its shape shows. -/
def IsShownWhole (actual : Source) : Prop :=
  actual.listCount + listLevels actual.walk.last.ownName = actual.shapeLevels

variable {source actual : Source} {type : ResolvedType}

/-- An inferred type opens the lists that are passed, and those that the last name opens itself. -/
theorem listLevels_of_resolve (inferred : actual.resolve = .ok type) :
    listLevels type.text = actual.listCount + listLevels actual.walk.last.ownName := by
  rw [resolve_eq] at inferred
  split at inferred
  · cases inferred
  · cases inferred
    rw [listLevels_text, listLevels_bracketed]

/-- A declared type opens the lists that the shape shows. -/
theorem listLevels_declaredType {name : String} (named : Sdl.isName name = true)
    (isMarked : Bool) :
    listLevels (actual.declaredType name isMarked).text = actual.shapeLevels := by
  rw [listLevels_text, declaredType, listLevels_bracketed, listLevels_name named, Nat.add_zero]

/-- A declared name stands inside as many lists as the inferred one if the shape shows all. -/
theorem declared_levels (awaited : source.unwrap = some actual)
    (inferred : actual.resolve = .ok type) {name declared : String}
    (named : Sdl.isName name = true) (plain : declared = name ∨ declared = name ++ "!") :
    ∃ written undeclared, source.returnText (some declared) = .ok written ∧
      source.returnText none = .ok undeclared ∧
      (listLevels written = listLevels undeclared ↔ actual.IsShownWhole) := by
  have some_name : name ≠ "" := by
    rintro rfl
    cases named
  have given : declared ≠ "" := by
    rcases plain with rfl | rfl
    · exact some_name
    · simp
  -- With its mark or without, the declared name opens what the shape shows.
  have levels : listLevels (actual.applyDeclared declared).text = actual.shapeLevels := by
    obtain ⟨bare, marked⟩ := applyDeclared_text actual named
    rcases plain with rfl | rfl
    · rw [bare, listLevels_declaredType named]
    · rw [marked, listLevels_declaredType named]
  refine ⟨(actual.applyDeclared declared).text, type.text, ?_, ?_, ?_⟩
  · have spoken : declaration? (some declared) = some declared := by
      simp [declaration?, Option.filter, given]
    simp only [returnText, awaited, spoken]
  · simp only [returnText, awaited, declaration?, inferred]
    rfl
  · rw [levels, listLevels_of_resolve inferred, IsShownWhole, eq_comm]

/-- A type whose values arrive later. -/
def taskOf (source : Source) : Source where
  name := "System.Threading.Tasks.Task"
  arguments := [source]

/-- A list. -/
def listOf (source : Source) : Source where
  name := "System.Collections.Generic.List"
  isCollection := true
  arguments := [source]

/-- A type in a nullable wrapper. -/
def nullableOf (source : Source) : Source where
  name := "typing.Optional"
  isNullableWrapper := true
  arguments := [source]

/-- The list in a nullable wrapper is shown, and a declared name stands inside it. -/
theorem declared_levels_optional :
    let actual := nullableOf (listOf { name := "App.Product" })
    (taskOf actual).unwrap = some actual ∧ actual.resolve = .ok ⟨"[Product]", true⟩ ∧
      Sdl.isName "Item" = true ∧
      ∃ written undeclared, (taskOf actual).returnText (some "Item!") = .ok written ∧
        (taskOf actual).returnText none = .ok undeclared ∧
        listLevels written = listLevels undeclared := by
  have awaited : (taskOf (nullableOf (listOf { name := "App.Product" }))).unwrap =
      some (nullableOf (listOf { name := "App.Product" })) := rfl
  have inferred : (nullableOf (listOf { name := "App.Product" })).resolve =
      .ok ⟨"[Product]", true⟩ := by decide +kernel
  have shown : (nullableOf (listOf { name := "App.Product" })).IsShownWhole := by
    unfold IsShownWhole
    decide +kernel
  have named : Sdl.isName "Item" = true := rfl
  obtain ⟨written, undeclared, declares, infers, same⟩ :=
    declared_levels awaited inferred named (.inr rfl)
  exact ⟨awaited, inferred, named, written, undeclared, declares, infers, same.mpr shown⟩

/-- A list in a list is not shown, and the list that a dictionary is shaped as is shown for none. -/
theorem declared_levels_nested :
    ((listOf (listOf { name := "App.Product" })).returnText none = .ok "[[Product]]" ∧
      (listOf (listOf { name := "App.Product" })).returnText (some "Item") = .ok "[Item]") ∧
    (({ name := "Map", isCollection := true, isDictionary := true } : Source).returnText none =
        .ok "AWSJSON" ∧
      ({ name := "Map", isCollection := true, isDictionary := true } : Source).returnText
        (some "Item") = .ok "[Item]") ∧
    listLevels "[Item]" = 1 ∧ listLevels "[[Product]]" = 2 ∧ listLevels "AWSJSON" = 0 := by
  refine ⟨⟨?_, ?_⟩, ⟨?_, ?_⟩, ?_, ?_, ?_⟩ <;> decide +kernel

end AppSync.Source
