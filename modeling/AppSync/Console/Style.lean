import AppSync.Accident
import AppSync.Text.Digit
import AppSync.Text.Lower
import AppSync.Text.Split

/-! Styles of console texts, by the words that describe them. -/

namespace AppSync.Console

/-! ## Colours -/

/-- The names of colours that are no grey. -/
def colourNames : List String := [
  "black", "red", "green", "yellow", "blue", "magenta", "cyan", "white", "bright_black",
  "bright_red", "bright_green", "bright_yellow", "bright_blue", "bright_magenta", "bright_cyan",
  "bright_white", "navy_blue", "dark_blue", "blue3", "blue1", "dark_green", "deep_sky_blue4",
  "dodger_blue3", "dodger_blue2", "green4", "spring_green4", "turquoise4", "deep_sky_blue3",
  "dodger_blue1", "green3", "spring_green3", "dark_cyan", "light_sea_green", "deep_sky_blue2",
  "deep_sky_blue1", "spring_green2", "cyan3", "dark_turquoise", "turquoise2", "green1",
  "spring_green1", "medium_spring_green", "cyan2", "cyan1", "dark_red", "deep_pink4", "purple4",
  "purple3", "blue_violet", "orange4", "medium_purple4", "slate_blue3", "royal_blue1",
  "chartreuse4", "dark_sea_green4", "pale_turquoise4", "steel_blue", "steel_blue3",
  "cornflower_blue", "chartreuse3", "cadet_blue", "sky_blue3", "steel_blue1", "pale_green3",
  "sea_green3", "aquamarine3", "medium_turquoise", "chartreuse2", "sea_green2", "sea_green1",
  "aquamarine1", "dark_slate_gray2", "dark_magenta", "dark_violet", "purple", "light_pink4",
  "plum4", "medium_purple3", "slate_blue1", "yellow4", "wheat4", "light_slate_grey",
  "light_slate_gray", "medium_purple", "light_slate_blue", "dark_olive_green3", "dark_sea_green",
  "light_sky_blue3", "sky_blue2", "dark_sea_green3", "dark_slate_gray3", "sky_blue1",
  "chartreuse1", "light_green", "pale_green1", "dark_slate_gray1", "red3", "medium_violet_red",
  "magenta3", "dark_orange3", "indian_red", "hot_pink3", "medium_orchid3", "medium_orchid",
  "medium_purple2", "dark_goldenrod", "light_salmon3", "rosy_brown", "medium_purple1", "gold3",
  "dark_khaki", "navajo_white3", "light_steel_blue3", "light_steel_blue", "yellow3",
  "dark_sea_green2", "light_cyan3", "light_sky_blue1", "green_yellow", "dark_olive_green2",
  "dark_sea_green1", "pale_turquoise1", "deep_pink3", "magenta2", "hot_pink2", "orchid",
  "medium_orchid1", "orange3", "light_pink3", "pink3", "plum3", "violet", "light_goldenrod3",
  "tan", "misty_rose3", "thistle3", "plum2", "khaki3", "light_goldenrod2", "light_yellow3",
  "light_steel_blue1", "yellow2", "dark_olive_green1", "honeydew2", "light_cyan1", "red1",
  "deep_pink2", "deep_pink1", "magenta1", "orange_red1", "indian_red1", "hot_pink", "dark_orange",
  "salmon1", "light_coral", "pale_violet_red1", "orchid2", "orchid1", "orange1", "sandy_brown",
  "light_salmon1", "light_pink1", "pink1", "plum1", "gold1", "navajo_white1", "misty_rose1",
  "thistle1", "yellow1", "light_goldenrod1", "khaki1", "wheat1", "cornsilk1"]

/-- The levels of grey that have names. -/
def greyLevels : List Nat := [
  0, 3, 7, 11, 15, 19, 23, 27, 30, 35, 37, 39, 42, 46, 50, 53, 54, 58,
  62, 63, 66, 69, 70, 74, 78, 82, 84, 85, 89, 93, 100]

/-- The names of all colours. -/
def namedColours : List (List Char) :=
  "default".toList :: colourNames.map String.toList ++
    greyLevels.flatMap fun level => [s!"grey{level}".toList, s!"gray{level}".toList]

/-- The greatest part of a colour. -/
def fullPart : Nat := 255

/-- What stands in parentheses behind a word, if a text is nothing else. -/
def inParentheses? (word : String) (text : List Char) : Option (List Char) :=
  let opening := word.toList ++ ['(']
  if opening.isPrefixOf text && text.getLast? == some ')' then
    some (text.drop opening.length).dropLast
  else none

/-- Whether a text is the number of a colour, in at most three digits. -/
def isColourNumber (digits : List Char) : Bool :=
  !digits.isEmpty && digits.all Char.isDigit && digits.length ≤ 3 &&
    Text.decimalNumber digits ≤ fullPart

/-- A part of a colour; one without digits is an accident. -/
def colourPart (digits : List Char) : Except Accident Nat :=
  if digits.isEmpty then .error (.numeral 10 "")
  else if Number.digitLimit < digits.length then .error (.longNumeral digits.length)
  else .ok (digits.foldl (fun value c => 10 * value + (Text.digit? c).getD 0) 0)

/-- Whether a text is a mixture of three parts. -/
def isMixture (text : List Char) : Except Accident Bool :=
  if text.any fun c => (Text.digit? c).isNone && c != ',' then .ok false
  else
    match Text.split (· = ',') text with
    | [red, green, blue] => do
      let parts ← [red, green, blue].mapM colourPart
      return parts.all (· ≤ fullPart)
    | _ => .ok false

/-- Whether a text is a colour in six hexadecimal digits. -/
def isHexColour : List Char → Bool
  | '#' :: digits => digits.length == 6 && digits.all fun c => (Text.hexValue? c).isSome
  | _ => false

/-- Whether a word in small letters is a colour. -/
def isColour (word : List Char) : Except Accident Bool :=
  if namedColours.contains word || isHexColour word then .ok true
  else
    match inParentheses? "color" word, inParentheses? "rgb" word with
    | some digits, _ => .ok (isColourNumber digits)
    | none, some parts => isMixture parts
    | none, none => .ok false

/-! ## Styles -/

/-- What a style switches on or off. -/
inductive Attribute where
  | bold
  | dim
  | italic
  | underline
  | blink
  | fastBlink
  | reverse
  | conceal
  | strike
  | doubleUnderline
  | frame
  | encircle
  | overline
deriving DecidableEq, Repr

/-- All attributes, in the order in which a style lists them, each with its words. -/
def attributeWords : List (Attribute × List String) := [
  (.bold, ["bold", "b"]), (.dim, ["dim", "d"]), (.italic, ["italic", "i"]),
  (.underline, ["underline", "u"]), (.blink, ["blink"]), (.fastBlink, ["blink2"]),
  (.reverse, ["reverse", "r"]), (.conceal, ["conceal", "c"]), (.strike, ["strike", "s"]),
  (.doubleUnderline, ["underline2", "uu"]), (.frame, ["frame"]), (.encircle, ["encircle"]),
  (.overline, ["overline", "o"])]

/-- The attribute of a word. -/
def attributeOf? (word : List Char) : Option Attribute :=
  (attributeWords.find? fun entry => entry.2.contains (String.ofList word)).map (·.1)

/-- A style: attributes with whether they are on, the latest first, colours, and a link. -/
structure Style where
  attributes : List (Attribute × Bool) := []
  colour : Option (List Char) := none
  background : Option (List Char) := none
  link : Option (List Char) := none
deriving DecidableEq, Repr

namespace Style

/-- The words of an attribute as a style sets it. -/
def attributeText (style : Style) (entry : Attribute × List String) : List String :=
  let word := entry.2.headD ""
  match style.attributes.find? fun given => given.1 = entry.1 with
  | some (_, true) => [word]
  | some (_, false) => ["not", word]
  | none => []

/-- The words of a style in a fixed order, in which styles of one effect agree. -/
def words (style : Style) : List (List Char) :=
  (attributeWords.flatMap style.attributeText).map String.toList ++ style.colour.toList ++
    (style.background.map fun colour => ["on".toList, colour]).getD [] ++
    (style.link.map fun target => ["link".toList, target]).getD []

/-- The text of a style. -/
def text (style : Style) : List Char :=
  if style.words.isEmpty then "none".toList else [' '].intercalate style.words

/-- Adds what words say to a style, if they say anything that a style is made of. -/
def withWords (style : Style) : List (List Char) → Except Accident (Option Style)
  | [] => .ok (some style)
  | word :: rest => do
    let small := Text.lower word
    match String.ofList small, rest with
    | "on", [] => return none
    | "on", colour :: others =>
      if ← isColour (Text.lower colour) then
        withWords { style with background := some (Text.lower colour) } others
      else return none
    | "not", [] => return none
    | "not", name :: others =>
      match attributeOf? name with
      | some feature =>
        withWords { style with attributes := (feature, false) :: style.attributes } others
      | none => return none
    | "link", [] => return none
    | "link", target :: others => withWords { style with link := some target } others
    | _, others =>
      match attributeOf? small with
      | some feature =>
        withWords { style with attributes := (feature, true) :: style.attributes } others
      | none =>
        if ← isColour small then withWords { style with colour := some small } others
        else return none

/-- The style that a text describes. -/
def read (description : List Char) : Except Accident (Option Style) :=
  if Text.trimBy Text.isBlank description = "none".toList then .ok (some {})
  else withWords {} (Text.words description)

end Style

/-- A text by which styles are compared: that of the style it describes, or else its own letters. -/
def styleName (description : List Char) : Except Accident (List Char) := do
  match ← Style.read description with
  | some style => return style.text
  | none => return Text.lower (Text.trimBy Text.isBlank description)

end AppSync.Console
