import AppSync.Text.Half
import AppSync.Yaml.Scanning
import AppSync.Yaml.Token

/-! Scalars: plain, quoted and block ones, their lines folded. -/

namespace AppSync.Yaml

open Scanning

/-! ## Quoted scalars -/

/-- The code that a short escape stands for. -/
def shortEscape? (c : Char) : Option Nat :=
  (([('0', 0x00), ('a', 0x07), ('b', 0x08), ('t', 0x09), ('\t', 0x09), ('n', 0x0a), ('v', 0x0b),
    ('f', 0x0c), ('r', 0x0d), ('e', 0x1b), (' ', 0x20), ('"', 0x22), ('\\', 0x5c), ('/', 0x2f),
    ('N', 0x85), ('_', 0xa0), ('L', 0x2028), ('P', 0x2029)] : List (Char × Nat)).find?
      fun entry => entry.1 = c).map (·.2)

/-- The number of hexadecimal digits after a long escape. -/
def escapeDigits? (c : Char) : Option Nat :=
  if c = 'x' then some 2 else if c = 'u' then some 4 else if c = 'U' then some 8 else none

/-- Empty lines inside a quoted scalar, and the indentation after them. -/
def scanQuotedBreaks (start : Mark) : Nat → Scanning (List Char)
  | 0 => return []
  | fuel + 1 => do
    if (← get).isSeparator then fail .quotedScalar start .unexpectedSeparator
    modify (Cursor.skip fun c => c == ' ' || c == '\t')
    match (← get).lineBreak? with
    | none => return []
    | some (c, behind) =>
      set behind
      return c :: (← scanQuotedBreaks start fuel)

/-- Blanks inside a quoted scalar; one line break becomes a blank, and further ones stay. -/
def scanQuotedSpaces (start : Mark) (fuel : Nat) : Scanning (List Char) := do
  let blanks ← takeWhile fun c => c == ' ' || c == '\t'
  if (← next) = ending then fail .quotedScalar start .unexpectedEnd
  match (← get).lineBreak? with
  | none => return blanks
  | some (c, behind) =>
    set behind
    let breaks ← scanQuotedBreaks start fuel
    return (if c ≠ '\n' then [c] else if breaks.isEmpty then [' '] else []) ++ breaks

/-- The characters of an escape, whose backslash has been passed. -/
def scanEscape (start : Mark) (fuel : Nat) : Scanning (List Char) := do
  let cursor ← get
  let c := cursor.next
  match shortEscape? c, escapeDigits? c with
  | some code, _ =>
    advance 1
    return [Text.ofCode code]
  | none, some digits =>
    advance 1
    let given := ((← get).rest.take digits).takeWhile fun c => (Text.hexValue? c).isSome
    -- The first character that is no digit is the one to blame.
    if given.length < digits then
      fail .doubleQuotedScalar start
        (.unexpected (.escape digits) ((← get).ahead given.length))
    let code := (Text.hexNumber? given).getD 0
    if 0x10ffff < code then throw (.accident (.character code))
    advance digits
    return [Text.ofCode code]
  | none, none =>
    match cursor.lineBreak? with
    | some (_, behind) =>
      set behind
      scanQuotedBreaks start fuel
    | none => fail .doubleQuotedScalar start (.unknownEscape c)

/-- The characters of a quoted scalar up to its closing quote, which is passed. -/
def scanQuotedChars (quote : Char) (start : Mark) : Nat → Scanning (List Char)
  | 0 => return []
  | fuel + 1 => do
    let isDouble := quote = '"'
    let cursor ← get
    let c := cursor.next
    if c = quote then
      -- Two single quotes stand for one.
      if !isDouble ∧ cursor.ahead 1 = quote then
        advance 2
        return quote :: (← scanQuotedChars quote start fuel)
      advance 1
      return []
    else if isDouble ∧ c = '\\' then
      advance 1
      let written ← scanEscape start fuel
      return written ++ (← scanQuotedChars quote start fuel)
    else if isGap c then
      let spaces ← scanQuotedSpaces start fuel
      return spaces ++ (← scanQuotedChars quote start fuel)
    else
      advance 1
      return c :: (← scanQuotedChars quote start fuel)

/-- A quoted scalar, whose quote comes next. -/
def scanQuoted : Scanning Lexeme := do
  let cursor ← get
  advance 1
  let chars ← scanQuotedChars cursor.next cursor.mark (2 * cursor.rest.length + 2)
  return .scalar (String.ofList chars) false

/-! ## Plain scalars -/

/-- Characters that end a plain scalar inside brackets. -/
def isFlowMark (c : Char) : Bool :=
  c == ',' || c == '[' || c == ']' || c == '\x7b' || c == '\x7d'

/-- The characters of a plain scalar that come before the next gap or mark. -/
def plainRun (inFlow : Bool) : List Char → List Char
  | [] => []
  | c :: rest =>
    let after := rest.headD ending
    if isGap c || (c == ':' && (isGap after || (inFlow && isFlowMark after))) ||
        (inFlow && (isFlowMark c || c == '?')) then []
    else c :: plainRun inFlow rest

/-- Line breaks and blanks inside a plain scalar; `none` where a document ends. -/
def scanPlainBreaks : Nat → Scanning (Option (List Char))
  | 0 => return some []
  | fuel + 1 => do
    let cursor ← get
    if cursor.next = ' ' then
      advance 1
      scanPlainBreaks fuel
    else
      match cursor.lineBreak? with
      | none => return some []
      | some (c, behind) =>
        set behind
        -- A mark between documents ends the scalar in front of its breaks.
        if behind.isSeparator then return none
        return (← scanPlainBreaks fuel).map (c :: ·)

/-- What separates parts of a plain scalar, folded, and whether a line ended in it. -/
def scanPlainSpaces (fuel : Nat) : Scanning (List Char × Bool) := do
  let blanks ← takeWhile (· == ' ')
  match (← get).lineBreak? with
  | none => return (blanks, false)
  | some (c, behind) =>
    set behind
    if behind.isSeparator then return ([], true)
    match ← scanPlainBreaks fuel with
    | none => return ([], true)
    | some breaks =>
      return ((if c ≠ '\n' then [c] else if breaks.isEmpty then [' '] else []) ++ breaks, true)

/-- A plain scalar under construction. -/
structure PlainPart where
  chars : List Char
  stop : Mark
  /-- Whether a line has ended since the last character. -/
  lineEnded : Bool

/-- Further parts of a plain scalar, each after its separating blanks. -/
def scanPlainParts (inFlow : Bool) (indent : Int) (spaces : List Char) (sofar : PlainPart) :
    Nat → Scanning PlainPart
  | 0 => return sofar
  | fuel + 1 => do
    let cursor ← get
    let found := plainRun inFlow cursor.rest
    if cursor.next = '#' ∨ found.isEmpty then return sofar
    advance found.length
    let stop ← place
    let (following, lineEnded) ← scanPlainSpaces fuel
    let sofar : PlainPart := ⟨sofar.chars ++ spaces ++ found, stop, lineEnded⟩
    if following.isEmpty || (!inFlow && ((← get).column : Int) < indent) then return sofar
    scanPlainParts inFlow indent following sofar fuel

/-- A plain scalar, with the place behind it and whether a line ended after it. -/
def scanPlain (inFlow : Bool) (indent : Int) : Scanning (Lexeme × Mark × Bool) := do
  let cursor ← get
  let part ← scanPlainParts inFlow indent [] ⟨[], cursor.mark, false⟩ (cursor.rest.length + 1)
  return (.scalar (String.ofList part.chars) true, part.stop, part.lineEnded)

/-! ## Block scalars -/

/-- What becomes of the line breaks at the end of a block scalar. -/
inductive Chomping where
  | strip
  | clip
  | keep
deriving DecidableEq

/-- The chomping that a sign asks for. -/
def chomping? (c : Char) : Option Chomping :=
  if c = '+' then some .keep else if c = '-' then some .strip else none

/-- An indentation indicator, which cannot be zero. -/
def scanIndentation (start : Mark) : Scanning (Option Nat) := do
  let c ← next
  if !c.isDigit then return none
  if c = '0' then fail .blockScalar start .zeroIndentation
  advance 1
  return some (c.toNat - '0'.toNat)

/-- A chomping indicator. -/
def scanChomping : Scanning (Option Chomping) := do
  match chomping? (← next) with
  | none => return none
  | some chomping =>
    advance 1
    return some chomping

/-- The indicators of a block scalar, in either order. -/
def scanIndicators (start : Mark) : Scanning (Chomping × Option Nat) := do
  let first ← scanChomping
  let indentation ← scanIndentation start
  let chomping ← match first, indentation with
    | none, some _ => scanChomping
    | _, _ => pure first
  require .blockScalar start .blockIndicators isSpaceOrEnd
  return (chomping.getD .clip, indentation)

/-- Empty lines before a block scalar, and the deepest indentation among them and its first line. -/
def scanLeadingLines (deepest : Nat) : Nat → Scanning (List Char × Nat)
  | 0 => return ([], deepest)
  | fuel + 1 => do
    let cursor ← get
    if cursor.next = ' ' then
      advance 1
      scanLeadingLines (max deepest (← get).column) fuel
    else
      match cursor.lineBreak? with
      | none => return ([], deepest)
      | some (c, behind) =>
        set behind
        let (breaks, deepest) ← scanLeadingLines deepest fuel
        return (c :: breaks, deepest)

/-- Moves behind blanks, up to a column. -/
def skipIndentation (indent : Nat) : Scanning Unit := do
  let cursor ← get
  let blanks := ((cursor.rest.take (indent - cursor.column)).takeWhile (· == ' ')).length
  advance blanks

/-- Empty lines inside a block scalar. -/
def scanBlockBreaks (indent : Nat) : Nat → Scanning (List Char)
  | 0 => return []
  | fuel + 1 => do
    skipIndentation indent
    match (← get).lineBreak? with
    | none => return []
    | some (c, behind) =>
      set behind
      return c :: (← scanBlockBreaks indent fuel)

/-- Lines of a block scalar after breaks that precede them, chomped at their end. -/
def scanBlockLines (folded : Bool) (chomping : Chomping) (indent : Nat) (breaks : List Char) :
    Nat → Scanning (List Char)
  | 0 => return []
  | fuel + 1 => do
    let cursor ← get
    if cursor.column ≠ indent ∨ cursor.next = ending then
      -- Only a scalar without lines gets here; there is no last line to keep a break of.
      return if chomping = .keep then breaks else []
    let flush := cursor.next ≠ ' ' ∧ cursor.next ≠ '\t'
    let line ← takeWhile fun c => !isEnd c
    let lineBreak : List Char := match (← get).lineBreak? with
      | some (c, _) => [c]
      | none => []
    modify Cursor.skipBreak
    let following ← scanBlockBreaks indent fuel
    let after ← get
    if after.column = indent ∧ after.next ≠ ending then
      let joint :=
        if folded ∧ lineBreak = ['\n'] ∧ flush ∧ after.next ≠ ' ' ∧ after.next ≠ '\t' then
          (if following.isEmpty then [' '] else [])
        else lineBreak
      return breaks ++ line ++ joint ++ (← scanBlockLines folded chomping indent following fuel)
    return breaks ++ line ++ (if chomping = .strip then [] else lineBreak) ++
      (if chomping = .keep then following else [])

/-- A block scalar, whose sign comes next; its lines stand deeper than `outer`. -/
def scanBlock (outer : Int) : Scanning Lexeme := do
  let cursor ← get
  let start := cursor.mark
  let fuel := cursor.rest.length + 1
  let folded := cursor.next = '>'
  advance 1
  let (chomping, indentation) ← scanIndicators start
  finishLine .blockScalar start
  -- The lines are indented by one blank at least, even where nothing is around them.
  let least := (max 1 (outer + 1)).toNat
  let (breaks, indent) ← match indentation with
    | none => do
      let (breaks, deepest) ← scanLeadingLines 0 fuel
      pure (breaks, max least deepest)
    | some indentation => do
      let indent := least + indentation - 1
      pure (← scanBlockBreaks indent fuel, indent)
  let chars ← scanBlockLines folded chomping indent breaks fuel
  return .scalar (String.ofList chars) false

end AppSync.Yaml
