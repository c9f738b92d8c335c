import AppSync.Source.Basic
import AppSync.Source.Registry

/-! From source types to output types: a name, and whether the value may be null. -/

namespace AppSync

/-- An output type name and its nullability. -/
structure ResolvedType where
  name : String
  isNullable : Bool
deriving DecidableEq, Repr, Inhabited

/-- The type as it is written, with an exclamation mark where null is ruled out. -/
def ResolvedType.text (type : ResolvedType) : String :=
  if type.isNullable then type.name else type.name ++ "!"

namespace Source

/-- Whether values of a type are there unless wrapped; an explicit flag overrides the table. -/
def isValueLike (source : Source) : Bool :=
  source.isValueType.getD (Registry.valueTypeNames.contains source.name)

/-- Whether the outer type may be null; an annotation wins over wrappers, and these over tables. -/
def isNullable (source : Source) : Bool :=
  if source.nonNull then false
  else if source.isNullableWrapper || source.isDictionary then true
  else !source.isValueLike

/-- The name of a type that neither an override, the registry nor its shape decides. -/
def plainName (name : String) : String :=
  match Registry.primitiveOf? name with
  | some primitive => primitive
  | none => (Registry.primitiveOf? (simpleNameOf name)).getD (simpleNameOf name)

/-- The name that an override, the registry or a dictionary shape gives before any other rule. -/
def directName? (source : Source) : Option String :=
  match source.scalarOverride with
  | some override =>
    -- An empty override is none.
    if override ≠ "" then some override else registered?
  | none => registered?
where
  /-- The registered scalar, or the opaque one for dictionaries. -/
  registered? : Option String :=
    match Registry.scalarOf? source.name with
    | some scalar => some scalar
    | none => if source.isDictionary then some Registry.CustomScalar.json.name else none

/-- The output type of a source type; collections and wrappers follow their first argument. -/
def resolve : Source → Except NoArguments ResolvedType
  | ⟨name, arguments, collection, dictionary, wrapper, valueType, nonNull, override⟩ =>
    let source : Source :=
      ⟨name, arguments, collection, dictionary, wrapper, valueType, nonNull, override⟩
    match source.directName? with
    | some direct => .ok ⟨direct, source.isNullable⟩
    | none =>
      -- A type with both shapes is followed as a collection.
      if collection then
        match arguments with
        | [] => .error ⟨name⟩
        | element :: _ =>
          (resolve element).map fun found => ⟨"[" ++ found.name ++ "]", source.isNullable⟩
      else if wrapper then
        match arguments with
        | [] => .error ⟨name⟩
        | underlying :: _ => (resolve underlying).map fun found => ⟨found.name, true⟩
      else .ok ⟨plainName name, source.isNullable⟩

end Source

end AppSync
