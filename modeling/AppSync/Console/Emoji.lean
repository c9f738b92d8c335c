import AppSync.Console.EmojiNames
import AppSync.Text.Lower
import AppSync.Text.Split

/-! Emoji by name: a name between two colons stands for its emoji. -/

namespace AppSync.Console

/-- A name and the emoji that it stands for. -/
abbrev NamedEmoji := List Char × List Char

/-- The skin tones by the words that stand in names, each with its character. -/
def skinTones : List (String × Char) :=
  [("light", '🏻'), ("medium-light", '🏼'), ("medium", '🏽'), ("medium-dark", '🏾'), ("dark", '🏿')]

/-- An emoji in a skin tone, which takes the place of a sign for coloured presentation. -/
def toned (tone : Char) : List Char → List Char
  | first :: '\ufe0f' :: rest => first :: tone :: rest
  | first :: rest => first :: tone :: rest
  | [] => []

/-- The names that are written as one, after what stands in front of it. -/
def writtenNames (emoji : List Char) : List Char → List NamedEmoji
  | '*' :: name =>
    (name, emoji) :: skinTones.map fun tone =>
      (name ++ ("_" ++ tone.1 ++ "_skin_tone").toList, toned tone.2 emoji)
  | '&' :: name => [(name, emoji), ("flag_for_".toList ++ name, emoji)]
  | name => [(name, emoji)]

/-- The names of the emoji in a word. -/
def namesInWord (word : List Char) : List NamedEmoji :=
  match Text.split (· = ':') word with
  | emoji :: names => names.flatMap (writtenNames emoji)
  | [] => []

/-- All emoji by their names. -/
def namedEmoji : List NamedEmoji :=
  emojiLines.flatMap fun line => (Text.words line.toList).flatMap namesInWord

/-- The emoji of a name in small letters. -/
def emojiOf? (name : List Char) : Option (List Char) :=
  (namedEmoji.find? fun named => named.1 == name).map (·.2)

/-- Endings of names that ask for a way of presentation, each with its sign. -/
def presentations : List (String × Char) :=
  [("-emoji", '\ufe0f'), ("-text", '\ufe0e')]

/-- A name without an ending for presentation, and the sign that this asks for. -/
def splitPresentation (name : List Char) : List Char × List Char :=
  match presentations.find? fun presentation => presentation.1.toList.isSuffixOf name with
  | some (ending, sign) => (name.take (name.length - ending.length), [sign])
  | none => (name, [])

/-- What is shown for a name between colons; one without an emoji is shown with its colons. -/
def shownName (name : List Char) : List Char :=
  let (plain, sign) := splitPresentation name
  match emojiOf? (Text.lower plain) with
  | some emoji => emoji ++ sign
  | none => ':' :: name ++ [':']

/-- The name in front of the next colon, unless a blank stands before that, and what is behind. -/
def nameBeforeColon? : List Char → Option (List Char × List Char)
  | [] => none
  | c :: rest =>
    if c = ':' then some ([], rest)
    else if Text.isBlank c then none
    else (nameBeforeColon? rest).map fun found => (c :: found.1, found.2)

/-- A text with emoji in place of their names; the fuel bounds its length. -/
def showEmoji : Nat → List Char → List Char
  | 0, chars => chars
  | _, [] => []
  | fuel + 1, c :: rest =>
    if c = ':' then
      match nameBeforeColon? rest with
      | some (name, behind) => shownName name ++ showEmoji fuel behind
      | none => c :: showEmoji fuel rest
    else c :: showEmoji fuel rest

/-- A text with emoji in place of their names between colons. -/
def withEmoji (text : List Char) : List Char :=
  showEmoji text.length text

end AppSync.Console
