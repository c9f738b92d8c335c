import AppSync.Text.Half

/-! String literals of JSON, with all but printable ASCII escaped or with control characters only. -/

namespace AppSync.Json

/-- The two-character escape of a quote, a backslash or a common control character. -/
def shortEscape? (c : Char) : Option Char :=
  if c = '"' then some '"'
  else if c = '\\' then some '\\'
  else if c = '\n' then some 'n'
  else if c = '\r' then some 'r'
  else if c = '\t' then some 't'
  else if c = '\x0c' then some 'f'
  else if c = '\x08' then some 'b'
  else none

/-- One UTF-16 unit as a four-digit escape. -/
def unitEscape (unit : Nat) : List Char :=
  '\\' :: 'u' :: Text.hexFixed 4 unit

/-- The UTF-16 units of a character; a half of one is a unit by itself. -/
def units16 (c : Char) : List Nat :=
  let code := Text.codeOf c
  if code < 0x10000 then [code]
  else [0xd800 + (code - 0x10000) / 0x400, 0xdc00 + (code - 0x10000) % 0x400]

/-- A character inside an ASCII literal: printable ASCII stands for itself. -/
def escapeAscii (c : Char) : List Char :=
  match shortEscape? c with
  | some short => ['\\', short]
  | none =>
    if ' ' ≤ c ∧ c ≤ '~' then [c] else (units16 c).flatMap unitEscape

/-- A character inside a literal that keeps every character but quotes, backslashes and controls. -/
def escapeControl (c : Char) : List Char :=
  match shortEscape? c with
  | some short => ['\\', short]
  | none => if c < ' ' then unitEscape c.toNat else [c]

/-- A text as a literal of printable ASCII. -/
def quote (text : String) : String :=
  String.ofList ('"' :: text.toList.flatMap escapeAscii ++ ['"'])

/-- A text as a literal in which only quotes, backslashes and controls are escaped. -/
def quoteUnicode (text : String) : String :=
  String.ofList ('"' :: text.toList.flatMap escapeControl ++ ['"'])

end AppSync.Json
