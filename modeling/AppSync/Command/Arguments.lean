/-! Arguments of a command: options under long and short names, and operands. -/

namespace AppSync.Command

/-- How an option is written, and whether a value belongs to it. -/
structure OptionForm (κ : Type) where
  option : κ
  long : String
  short : Option Char
  takesValue : Bool

/-- Options with their values, in order, and operands; an option without a value has an empty one. -/
structure Given (κ : Type) where
  options : List (κ × String)
  operands : List String

/-- Options with their values, and an option whose value is the next argument. -/
structure Said (κ : Type) where
  options : List (κ × String)
  awaiting : Option κ

variable {κ : Type}

/-- A long name, with a value behind an equals sign if there is one. -/
def readLong (forms : List (OptionForm κ)) (chars : List Char) : Option (Said κ) := do
  let name := chars.takeWhile (· ≠ '=')
  let form ← forms.find? fun form => form.long.toList = name
  match chars.dropWhile (· ≠ '='), form.takesValue with
  | _ :: value, true => some ⟨[(form.option, String.ofList value)], none⟩
  | [], true => some ⟨[], some form.option⟩
  | [], false => some ⟨[(form.option, "")], none⟩
  | _ :: _, false => none

/-- Short names in a row; what stands behind one that takes a value is its value. -/
def readShort (forms : List (OptionForm κ)) : List Char → Option (Said κ)
  | [] => some ⟨[], none⟩
  | c :: rest => do
    let form ← forms.find? fun form => form.short = some c
    if form.takesValue then
      if rest.isEmpty then some ⟨[], some form.option⟩
      else some ⟨[(form.option, String.ofList rest)], none⟩
    else
      let said ← readShort forms rest
      some { said with options := (form.option, "") :: said.options }

/-- What an argument says that begins with a hyphen. -/
def readOption (forms : List (OptionForm κ)) : List Char → Option (Said κ)
  | '-' :: '-' :: name => readLong forms ('-' :: '-' :: name)
  | '-' :: names => readShort forms names
  | _ => none

/-- Whether an argument is an option; a single hyphen is none. -/
def isOption (argument : String) : Bool :=
  match argument.toList with
  | '-' :: _ :: _ => true
  | _ => false

/-- The argument behind which all others are operands. -/
def endOfOptions : String := "--"

/-- Options in front of others. -/
def Given.prepend (options : List (κ × String)) (given : Given κ) : Given κ :=
  { given with options := options ++ given.options }

/-- Reads arguments. Where `isLeading` holds, no options follow the first operand. -/
def readArguments (forms : List (OptionForm κ)) (isLeading : Bool) :
    List String → Option (Given κ)
  | [] => some ⟨[], []⟩
  | argument :: rest =>
    if argument = endOfOptions then some ⟨[], rest⟩
    else if isOption argument then do
      let said ← readOption forms argument.toList
      match said.awaiting with
      | none => (readArguments forms isLeading rest).map (Given.prepend said.options)
      | some option =>
        match rest with
        | [] => none
        | value :: others =>
          (readArguments forms isLeading others).map
            (Given.prepend (said.options ++ [(option, value)]))
    else if isLeading then some ⟨[], argument :: rest⟩
    else
      (readArguments forms isLeading rest).map fun given =>
        { given with operands := argument :: given.operands }

/-- The value of an option; the last one counts. -/
def Given.value? [DecidableEq κ] (option : κ) (given : Given κ) : Option String :=
  (given.options.reverse.find? fun entry => entry.1 = option).map (·.2)

/-- Whether an option is given. -/
def Given.has [DecidableEq κ] (option : κ) (given : Given κ) : Bool :=
  given.options.any fun entry => entry.1 = option

end AppSync.Command
