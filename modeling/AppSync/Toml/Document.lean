import AppSync.Text.Line
import AppSync.Toml.Scalar
import AppSync.Toml.Word

/-! Tables of TOML texts, and which of them may still be added to. -/

namespace AppSync.Toml

open Scanning

/-! ## Tables that may not be added to -/

/-- Keys that are closed to some statements. -/
structure Closed where
  /-- Tables that cannot be declared again. -/
  declared : List Key := []
  /-- Keys below which nothing can be added: values that are whole. -/
  frozen : List Key := []
  /-- Tables that become declared at the next header. -/
  pending : List Key := []

namespace Closed

/-- Whether a table has been declared. -/
def isDeclared (key : Key) (closed : Closed) : Bool :=
  closed.declared.contains key

/-- Whether a key or one above it is frozen. -/
def isFrozen (key : Key) (closed : Closed) : Bool :=
  closed.frozen.any fun frozen => frozen.isPrefixOf key

/-- Declares a table. -/
def declare (key : Key) (closed : Closed) : Closed :=
  { closed with declared := key :: closed.declared }

/-- Freezes a key. -/
def freeze (key : Key) (closed : Closed) : Closed :=
  { closed with frozen := key :: closed.frozen }

/-- Declares the tables that wait for a header. -/
def settle (closed : Closed) : Closed :=
  { closed with declared := closed.pending ++ closed.declared, pending := [] }

/-- Forgets a key and all below it. -/
def reopen (key : Key) (closed : Closed) : Closed :=
  { closed with
    declared := closed.declared.filter fun other => !key.isPrefixOf other
    frozen := closed.frozen.filter fun other => !key.isPrefixOf other }

end Closed

/-! ## Changing nested tables -/

/-- Changes the table behind a key, which is created as far as it is not there. -/
def changeTable (entersArrays : Bool) (change : Entries → Except Problem Entries) :
    Key → Entries → Except Problem Entries
  | [], entries => change entries
  | part :: key, entries => do
    let keep (value : Value) : Entries := Entries.set (.text part) value entries
    match Entries.get? part entries with
    | none => return keep (.mapping (← changeTable entersArrays change key []))
    | some (.mapping inner) =>
      return keep (.mapping (← changeTable entersArrays change key inner))
    | some (.list items) =>
      -- In an array of tables the last one is meant.
      match entersArrays, items.getLast? with
      | true, some (.mapping inner) =>
        let last := Value.mapping (← changeTable entersArrays change key inner)
        return keep (.list (items.dropLast ++ [last]))
      | _, _ => throw .overwritten
    | some _ => throw .overwritten

/-- Adds a value that is not there. -/
def addValue (name : String) (value : Value) (problem : Problem) (entries : Entries) :
    Except Problem Entries :=
  match Entries.get? name entries with
  | some _ => .error problem
  | none => .ok (Entries.set (.text name) value entries)

/-- Adds a table to an array of tables, which is created if it is not there. -/
def appendTable (name : String) (entries : Entries) : Except Problem Entries :=
  match Entries.get? name entries with
  | none => .ok (Entries.set (.text name) (.list [.mapping []]) entries)
  | some (.list items) => .ok (Entries.set (.text name) (.list (items ++ [.mapping []])) entries)
  | some _ => .error .overwritten

/-- A result, or its problem at the place that has been reached. -/
def orFail {α : Type} (result : Except Problem α) : Scanning α :=
  match result with
  | .ok value => pure value
  | .error problem => fail problem

/-- Arrays and tables. -/
def isCollection : Value → Bool
  | .mapping _ => true
  | .list _ => true
  | _ => false

/-! ## Values -/

/-- Moves behind blanks, line breaks and comments; the fuel bounds the number of comments. -/
def skipBetween : Nat → Scanning Unit
  | 0 => pure ()
  | fuel + 1 => do
    skip isBlankOrBreak
    if ← comes ['#'] then
      skipComment
      skipBetween fuel

/-- Moves behind blanks, line breaks and comments. -/
def skipGaps : Scanning Unit := do
  skipBetween ((← get).length + 1)

/-- A number, date or time. -/
def takeScalar : Scanning Value := do
  let chars ← get
  match moment? chars with
  | some (value, rest) =>
    if !isInCalendar value then fail .invalidDate
    set rest
    return .scalar value
  | none =>
    -- A time is tried before a number, since both begin with digits.
    match time? chars, number? chars, specialNumber? chars with
    | some (clock, rest), _, _ =>
      set rest
      return .scalar (.time clock)
    | none, some (.ok value, rest), _ =>
      set rest
      return .scalar value
    | none, some (.error accident, _), _ => throw (.accident accident)
    | none, none, some (value, rest) =>
      set rest
      return .scalar value
    | none, none, none => fail .invalidValue

mutual
/-- A value; the fuel bounds nesting and lengths. -/
def takeValue : Nat → Scanning Value
  | 0 => fail .invalidValue
  | fuel + 1 => do
    match ← get with
    | '"' :: '"' :: '"' :: _ => return .text (← takeLines '"')
    | '"' :: _ => return .text (← takeBasicLine)
    | '\'' :: '\'' :: '\'' :: _ => return .text (← takeLines '\'')
    | '\'' :: _ => return .text (← takeLiteralLine)
    | 't' :: 'r' :: 'u' :: 'e' :: _ =>
      advance 4
      return .bool true
    | 'f' :: 'a' :: 'l' :: 's' :: 'e' :: _ =>
      advance 5
      return .bool false
    | '[' :: _ =>
      advance 1
      skipGaps
      return .list (← takeItems fuel)
    | '\x7b' :: _ =>
      advance 1
      skip isBlank
      if ← comes ['\x7d'] then
        advance 1
        return .mapping []
      return .mapping (← takeMembers [] {} fuel)
    | _ => takeScalar

/-- The items of an array up to its closing bracket, which is passed. -/
def takeItems : Nat → Scanning (List Value)
  | 0 => fail .unclosedArray
  | fuel + 1 => do
    if ← comes [']'] then
      advance 1
      return []
    let item ← takeValue fuel
    skipGaps
    if ← comes [']'] then
      advance 1
      return [item]
    if !(← comes [',']) then fail .unclosedArray
    advance 1
    skipGaps
    return item :: (← takeItems fuel)

/-- A key with its value. -/
def takePair : Nat → Scanning (Key × Value)
  | 0 => fail .invalidValue
  | fuel + 1 => do
    let key ← takeKey
    if !(← comes ['=']) then fail .missingEquals
    advance 1
    skip isBlank
    return (key, ← takeValue fuel)

/-- Further members of an inline table up to its closing brace, which is passed. -/
def takeMembers (entries : Entries) (closed : Closed) : Nat → Scanning Entries
  | 0 => fail .unclosedInlineTable
  | fuel + 1 => do
    let (key, value) ← takePair fuel
    if closed.isFrozen key then fail (.frozen key)
    let name := key.getLast?.getD ""
    let entries ← orFail
      (changeTable false (addValue name value (.repeatedInlineKey name)) key.dropLast entries)
    skip isBlank
    if ← comes ['\x7d'] then
      advance 1
      return entries
    if !(← comes [',']) then fail .unclosedInlineTable
    -- What a member holds is complete, so that no later member adds to it.
    let closed := if isCollection value then closed.freeze key else closed
    advance 1
    skip isBlank
    takeMembers entries closed fuel
end

/-! ## Statements -/

/-- What statements have made so far. -/
structure Tables where
  entries : Entries := []
  closed : Closed := {}
  /-- The table that keys belong to. -/
  header : Key := []

/-- The tables that a key passes through, from the outermost on, itself left out. -/
def passedTables (header : Key) (key : Key) : List Key :=
  (List.range (key.length - 1)).map fun count => header ++ key.take (count + 1)

/-- A key with its value: it can neither reopen a declared table nor add to a frozen one. -/
def takeAssignment (tables : Tables) : Scanning Tables := do
  let (key, value) ← takePair ((← get).length + 2)
  let passed := passedTables tables.header key
  match passed.find? fun key => tables.closed.isDeclared key with
  | some declared => fail (.redefined declared)
  | none => pure ()
  let closed := { tables.closed with pending := tables.closed.pending ++ passed }
  let parent := tables.header ++ key.dropLast
  if closed.isFrozen parent then fail (.frozen parent)
  let name := key.getLast?.getD ""
  let entries ← orFail (changeTable true (addValue name value .overwritten) parent tables.entries)
  let closed := if isCollection value then closed.freeze (tables.header ++ key) else closed
  return { tables with entries, closed }

/-- The header of a table. -/
def takeTableHeader (tables : Tables) : Scanning Tables := do
  advance 1
  skip isBlank
  let key ← takeKey
  if tables.closed.isDeclared key ∨ tables.closed.isFrozen key then fail (.declaredTwice key)
  let entries ← orFail (changeTable true .ok key tables.entries)
  if !(← comes [']']) then fail .unclosedTableHeader
  advance 1
  return ⟨entries, tables.closed.declare key, key⟩

/-- The header of a table in an array of tables. -/
def takeArrayHeader (tables : Tables) : Scanning Tables := do
  advance 2
  skip isBlank
  let key ← takeKey
  if tables.closed.isFrozen key then fail (.frozen key)
  let closed := (tables.closed.reopen key).declare key
  let entries ← orFail
    (changeTable true (appendTable (key.getLast?.getD "")) key.dropLast tables.entries)
  if !(← comes [']', ']']) then fail .unclosedArrayHeader
  advance 2
  return ⟨entries, closed, key⟩

/-- One statement, or nothing before a comment. -/
def takeStatement (first : Char) (tables : Tables) : Scanning Tables := do
  if startsKey first then
    let tables ← takeAssignment tables
    skip isBlank
    return tables
  else if first = '[' then
    let settled := { tables with closed := tables.closed.settle }
    let tables ←
      if ← comes ['[', '['] then takeArrayHeader settled else takeTableHeader settled
    skip isBlank
    return tables
  else if first = '#' then return tables
  else fail .strayStatement

/-- Statements up to the end of the text, one a line; the fuel bounds their number. -/
def takeStatements (tables : Tables) : Nat → Scanning Tables
  | 0 => return tables
  | fuel + 1 => do
    skip isBlank
    match ← next? with
    | none => return tables
    | some '\n' =>
      advance 1
      takeStatements tables fuel
    | some first =>
      let tables ← takeStatement first tables
      -- Behind a statement a comment may stand, and then a line break or the end.
      skipComment
      match ← next? with
      | none => return tables
      | some '\n' =>
        advance 1
        takeStatements tables fuel
      | some _ => fail .trailingText

/-- The outermost table of a text whose line breaks are single characters. -/
def tablesOf (text : List Char) : Except Failure Entries :=
  ((takeStatements {} (text.length + 1)).run' text).map Tables.entries

/-- What is said of a failure, for the text that it was met in. -/
def faultMessage (text : String) (fault : Fault) : String :=
  fault.message (Text.foldPairedReturns text.toList)

/-- The outermost table of a text; a carriage return before a line feed does not count. -/
def read (text : String) : Except Failure Entries :=
  tablesOf (Text.foldPairedReturns text.toList)

end AppSync.Toml
