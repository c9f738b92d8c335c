import AppSync.Source.Cache
import AppSync.Text.Blank

/-! Return types of operations: awaited results, absent results and declared names. -/

namespace AppSync.Source

/-- The value type behind one async wrapper; `none` where nothing is returned. -/
def unwrap (source : Source) : Option Source :=
  let awaited : Option Source :=
    if Registry.asyncWrapperNames.contains source.name then
      -- A coroutine's result is its last argument.
      source.arguments.getLast?
    else some source
  match awaited with
  | none => none
  | some found => if Registry.voidNames.contains found.name then none else some found

/-- What is returned where there is no value. -/
def voidText : String := "Boolean!"

/-- The type whose shape a declared name follows: below one nullable wrapper. -/
def shape (actual : Source) : Source :=
  match actual.isNullableWrapper, actual.arguments with
  | true, first :: _ => first
  | _, _ => actual

/-- How a declared type is applied to the actual one. -/
structure Declared where
  text : String
  /-- The declared name and its list form, where the actual shape made it a list. -/
  wrapped : Option (String × String)
deriving DecidableEq, Repr

/-- A declared name replaces the inferred one; list shape and nullability follow the actual type. -/
def applyDeclared (actual : Source) (declared : String) : Declared :=
  let declared := Text.trim declared
  if declared.toList.head? = some '[' then ⟨declared, none⟩
  else
    let nonNull := declared.toList.getLast? = some '!'
    let base := if nonNull then String.ofList declared.toList.dropLast else declared
    let listed := actual.shape.isCollection
    let name := if listed then "[" ++ base ++ "]" else base
    ⟨(ResolvedType.mk name (actual.isNullable && !nonNull)).text,
      if listed then some (declared, name) else none⟩

/-- A declared type that counts: an empty text declares nothing. -/
def declaration? (declared : Option String) : Option String :=
  declared.filter (· ≠ "")

/-- The written return type of a source type, resolved through a cache. -/
def returned (cache : TypeCache) (source : Source) (declared : Option String) :
    Except LookupFault String × TypeCache :=
  match source.unwrap with
  | none => (.ok voidText, cache)
  | some actual =>
    match declaration? declared with
    | some name => (.ok (actual.applyDeclared name).text, cache)
    | none =>
      let found := cache.resolve actual
      (found.1.map ResolvedType.text, found.2)

/-- The written return type of a source type on its own. -/
def returnText (source : Source) (declared : Option String) : Except NoArguments String :=
  match source.unwrap with
  | none => .ok voidText
  | some actual =>
    match declaration? declared with
    | some name => .ok (actual.applyDeclared name).text
    | none => actual.resolve.map ResolvedType.text

/-- The declared name and the list that it became, where a declaration follows a list shape. -/
def wrapping? (source : Source) (declared : Option String) : Option (String × String) :=
  match source.unwrap, declaration? declared with
  | some actual, some name => (actual.applyDeclared name).wrapped
  | _, _ => none

end AppSync.Source
