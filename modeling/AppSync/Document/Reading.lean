import AppSync.Document.Problem
import AppSync.Text.Blank
import AppSync.Text.Keyword
import AppSync.Text.Utf8

/-! Reading records out of values, with every problem of a value collected in order. -/

namespace AppSync

/-- Integers between two bounds, both included. -/
abbrev Within (least greatest : Int) := { number : Int // least ≤ number ∧ number ≤ greatest }

/-- Either a value read or all problems met. -/
abbrev Reading (α : Type) := Except (List Problem) α

namespace Reading

variable {α β : Type}

/-- A single problem of the value itself. -/
def fail (cause : Cause) : Reading α := .error [⟨[], cause⟩]

/-- Gives an argument that is read to a function that is read, keeping the problems of both. -/
def give (argument : Reading α) (function : Reading (α → β)) : Reading β :=
  match function, argument with
  | .ok f, .ok x => .ok (f x)
  | .ok _, .error problems => .error problems
  | .error problems, .ok _ => .error problems
  | .error problems, .error others => .error (problems ++ others)

/-- The same reading, its problems located below one more step. -/
def below (step : String) (reading : Reading α) : Reading α :=
  reading.mapError fun problems => problems.map fun p => { p with path := step :: p.path }

/-- Reads every item of a list, counting from an index. -/
def items (read : Value → Reading α) : Nat → List Value → Reading (List α)
  | _, [] => .ok []
  | index, item :: rest =>
    (below (toString index) (read item)).map List.cons |> give (items read (index + 1) rest)

/-- Keeps a value that obeys a rule, together with the evidence that it does. -/
def obeying (rule : α → Prop) [DecidablePred rule] (refusal : α → Refusal)
    (reading : Reading α) : Reading { value : α // rule value } :=
  match reading with
  | .error problems => .error problems
  | .ok value => if held : rule value then .ok ⟨value, held⟩ else fail (.refused (refusal value))

/-- A text; bytes count as the text that they encode. -/
def text : Value → Reading String
  | .scalar (.text value) => .ok value
  | .scalar (.bytes bytes) =>
    match Utf8.decode bytes with
    | .ok value => .ok value
    | .error _ => fail .undecodableText
  | _ => fail .notText

/-- A word that is looked into, which takes whole characters. -/
def word (read : String → Reading α) (written : String) : Reading α :=
  if Text.hasHalves written then fail .undecodableText else read written

/-- Null or a value. -/
def nullable (read : Value → Reading α) : Value → Reading (Option α)
  | .scalar .null => .ok none
  | value => (read value).map some

/-- The truth value that a word spells, in letters of either case. -/
def wordTruth? (word : String) : Option Bool :=
  let word := Text.lowerCase word
  if ["0", "off", "f", "false", "n", "no"].contains word then some false
  else if ["1", "on", "t", "true", "y", "yes"].contains word then some true
  else none

/-- The truth value of a word, or the complaint that it is none. -/
def wordBoolean (word : String) : Reading Bool :=
  match wordTruth? word with
  | some value => .ok value
  | none => fail .obscureBoolean

/-- The truth value of a number: one and zero have one, and no number of more than 64 bits has. -/
def numberBoolean (number : Int) : Reading Bool :=
  if number = 0 then .ok false
  else if number = 1 then .ok true
  else if -Nat.pow 2 63 ≤ number ∧ number < Nat.pow 2 63 then fail .obscureBoolean
  else fail .notBoolean

/-- A truth value, one of the numbers zero and one, or a word for either. -/
def boolean : Value → Reading Bool
  | .scalar (.bool value) => .ok value
  | .scalar (.int value) => numberBoolean value
  | .scalar (.float value) =>
    match value.integer? with
    | some whole => if whole = -Nat.pow 2 63 then fail .notBoolean else numberBoolean whole
    | none => fail .notBoolean
  | .scalar (.text written) => word wordBoolean written
  | .scalar (.bytes bytes) =>
    match Utf8.decode bytes with
    | .ok written => wordBoolean written
    | .error _ => fail .obscureBoolean
  | _ => fail .notBoolean

/-- What a text says of an integer. -/
inductive Numeral where
  | number (value : Int)
  | oversized
  | none
deriving DecidableEq

/-- The longest numeral that is read as an integer, its sign included. -/
def longestNumeral : Nat := 4300

/-- An optional minus, and digits of which a zero is the only one that may come first. -/
def numeral (chars : List Char) : Numeral :=
  let isNegative := chars.head? = some '-'
  let unsigned := if isNegative then chars.drop 1 else chars
  let digits := unsigned.takeWhile Char.isDigit
  let rest := unsigned.dropWhile Char.isDigit
  let size : Int := Text.decimalNumber digits
  if digits.isEmpty || (digits.head? = some '0' && digits.length ≠ 1) then .none
  -- Too many digits are too many, whatever follows them.
  else if longestNumeral < digits.length + (if isNegative then 1 else 0) then .oversized
  else if rest.isEmpty then .number (if isNegative then -size else size)
  else .none

/-- What follows zeros and single underscores behind a zero: a number, or the last of them. -/
def behindZeros? (last : Char) : List Char → Option (List Char)
  | [] => some [last]
  | c :: rest =>
    if c = '0' then behindZeros? c rest
    else if c = '_' then if last = '_' then none else behindZeros? c rest
    else if c.isDigit || c = '-' then some (c :: rest)
    else if c = '.' then some (last :: c :: rest)
    else none

/-- A number without leading zeros, of which one stays before a point or at the end. -/
def withoutLeadingZeros? : List Char → Option (List Char)
  | [] => none
  | c :: rest =>
    if c = '0' then behindZeros? c rest
    else if c.isDigit || c = '-' then some (c :: rest)
    else none

/-- A number without a point and zeros at its end. -/
def withoutZeroFraction (chars : List Char) : List Char :=
  let zeros := chars.reverse.takeWhile (· == '0')
  match chars.reverse.dropWhile (· == '0') with
  | '.' :: whole => if zeros.isEmpty then chars else whole.reverse
  | _ => chars

/-- A number without underscores, if each of them stands alone between two other characters. -/
def withoutGroups (chars : List Char) : List Char :=
  if chars.head? = some '_' || chars.getLast? = some '_' ||
      (chars.zip (chars.drop 1)).contains ('_', '_') then chars
  else chars.filter (· ≠ '_')

/-- A numeral without what may be written beside it: blanks, a plus, zeros and underscores. -/
def plainNumeral? (chars : List Char) : Option (List Char) :=
  let trimmed := Text.trimBy Text.isWhiteSpace chars
  let unsigned? := match trimmed with
    | '+' :: '-' :: _ => none
    | '+' :: rest => some rest
    | _ => some trimmed
  (unsigned?.bind withoutLeadingZeros?).map (withoutGroups ∘ withoutZeroFraction)

/-- The integer that a word spells, by itself or without what may be written beside it. -/
def wordInteger (written : String) : Reading Int :=
  match numeral written.toList with
  | .number value => .ok value
  | .oversized => fail .oversizedInteger
  | .none =>
    match (plainNumeral? written.toList).map numeral with
    | some (.number value) => .ok value
    | _ => fail .obscureInteger

/-- An integer, a truth value, a number without fraction, or a numeral. -/
def integer : Value → Reading Int
  | .scalar (.int value) => .ok value
  | .scalar (.bool value) => .ok (if value then 1 else 0)
  | .scalar (.float value) =>
    if !value.isFinite then fail .notFinite
    else
      match value.integer? with
      | none => fail .fractionalInteger
      | some whole =>
        -- A whole number that is not written as an integer has to fit into 64 bits.
        if whole.natAbs < Nat.pow 2 63 then .ok whole else fail .oversizedInteger
  | .scalar (.text written) => word wordInteger written
  | .scalar (.bytes bytes) =>
    match Utf8.decode bytes with
    | .ok written => wordInteger written
    | .error _ => fail .obscureInteger
  | _ => fail .notInteger

/-- An integer within bounds. -/
def integerBetween (least greatest : Int) (value : Value) : Reading (Within least greatest) :=
  match integer value with
  | .error problems => .error problems
  | .ok number =>
    if low : least ≤ number then
      if high : number ≤ greatest then .ok ⟨number, low, high⟩
      else fail (.aboveGreatest greatest)
    else fail (.belowLeast least)

/-- The parts of a value that lists items. -/
def listed? (value : Value) : Option (List Value) :=
  match value.unfolded with
  | .list values => some values
  | .set members => some (members.map Value.scalar)
  | .pair key value => some [key, value]
  | _ => none

/-- A list whose items are all read. -/
def list (read : Value → Reading α) (value : Value) : Reading (List α) :=
  match listed? value with
  | some values => items read 0 values
  | none => fail .notList

/-- A sequence whose items are all read. -/
def tuple (read : Value → Reading α) (value : Value) : Reading (List α) :=
  match listed? value with
  | some values => items read 0 values
  | none => fail .notTuple

/-- One of several named choices. -/
def chosen (options : List (String × α)) (name : String) : Reading α :=
  match options.find? fun option => option.1 = name with
  | some option => .ok option.2
  | none => fail (.notChoice (options.map (·.1)))

/-- One of several named choices, after a spelling rule was applied to a text; bytes have none. -/
def choice (options : List (String × α)) (spell : String → String) : Value → Reading α
  | .scalar (.text written) => word (fun written => chosen options (spell written)) written
  | .scalar (.bytes bytes) =>
    match Utf8.decode bytes with
    | .ok written => chosen options written
    | .error _ => fail (.notChoice (options.map (·.1)))
  | _ => fail (.notChoice (options.map (·.1)))

/-- The entries of a mapping that is read as a named record. -/
def record (name : String) (value : Value) : Reading Entries :=
  match value.unfolded with
  | .mapping entries => .ok entries
  | _ => fail (.notRecord name)

/-- The value at a key that has to be there. -/
def required (key : String) (read : Value → Reading α) (entries : Entries) : Reading α :=
  match entries.get? key with
  | some value => below key (read value)
  | none => .error [⟨[key], .missing⟩]

/-- The value at a key, or the default where the key is absent. -/
def optional (key : String) (read : Value → Reading α) (absent : α) (entries : Entries) :
    Reading α :=
  match entries.get? key with
  | some value => below key (read value)
  | none => .ok absent

end Reading

end AppSync
