import PrefixDelegation.Decimal.Notation
import PrefixDelegation.Text.Blank
import PrefixDelegation.Text.Pieces
import PrefixDelegation.Text.SmallLetter

/-!
# Styles

A style is described in words: attributes such as `bold`, which `not` takes back, a colour for the
letters, `on` and a colour for the background, and `link` with the target of a link. A console
without colours shows nothing of a style, but styles are compared: two descriptions are the same
when they describe the same style, and `Style.write` is what they have in common.

A colour has a name, or a number from a palette of 256, or is mixed from three components. What
names no style stays a word of its own.
-/

namespace PrefixDelegation.Console

open Text (inSmallLetters)

/-- What is wrong with a description that looks like a colour: a component that is no number. -/
inductive StyleError where
  | badComponent
deriving Repr, DecidableEq

/-! ### Colours -/

/-- The names of colours. -/
def colourNames : List String :=
  [
   "black", "white", "bright_black", "bright_red", "bright_green", "bright_yellow", "bright_blue",
   "bright_magenta", "bright_cyan", "bright_white", "navy_blue", "dark_blue", "dark_green",
   "dark_cyan", "light_sea_green", "dark_turquoise", "medium_spring_green", "dark_red",
   "blue_violet", "cornflower_blue", "cadet_blue", "medium_turquoise", "dark_magenta",
   "dark_violet", "light_slate_grey", "light_slate_gray", "light_slate_blue", "light_green",
   "medium_violet_red", "dark_goldenrod", "rosy_brown", "dark_khaki", "green_yellow", "violet",
   "tan", "light_coral", "sandy_brown", "red", "green", "yellow", "blue", "magenta", "cyan",
   "purple", "medium_purple", "dark_sea_green", "steel_blue", "dark_orange", "indian_red",
   "hot_pink", "medium_orchid", "light_steel_blue", "orchid"
  ]

/-- The numbers of the shades of grey. -/
def greyShades : String :=
  "0 3 7 11 15 19 23 27 30 35 37 39 42 46 50 53 54 58 62 63 66 69 70 74 78 82 84 85 89 93 100"

/-- The names of colours that have numbered shades, with the numbers. -/
def colourShades : List (String × String) :=
  [
   ("red", "1 3"), ("green", "1 3 4"), ("yellow", "1 2 3 4"), ("blue", "1 3"),
   ("magenta", "1 2 3"), ("cyan", "1 2 3"), ("purple", "3 4"), ("medium_purple", "1 2 3 4"),
   ("dark_sea_green", "1 2 3 4"), ("steel_blue", "1 3"), ("dark_orange", "3"),
   ("indian_red", "1"), ("hot_pink", "2 3"), ("medium_orchid", "1 3"),
   ("light_steel_blue", "1 3"), ("orchid", "1 2"),
   ("grey", greyShades), ("gray", greyShades),
   ("deep_sky_blue", "1 2 3 4"), ("dodger_blue", "1 2 3"), ("spring_green", "1 2 3 4"),
   ("turquoise", "2 4"), ("deep_pink", "1 2 3 4"), ("orange", "1 3 4"), ("slate_blue", "1 3"),
   ("royal_blue", "1"), ("chartreuse", "1 2 3 4"), ("pale_turquoise", "1 4"),
   ("sky_blue", "1 2 3"), ("pale_green", "1 3"), ("sea_green", "1 2 3"), ("aquamarine", "1 3"),
   ("dark_slate_gray", "1 2 3"), ("light_pink", "1 3 4"), ("plum", "1 2 3 4"), ("wheat", "1 4"),
   ("dark_olive_green", "1 2 3"), ("light_sky_blue", "1 3"), ("light_salmon", "1 3"),
   ("gold", "1 3"), ("navajo_white", "1 3"), ("light_cyan", "1 3"), ("pink", "1 3"),
   ("light_goldenrod", "1 2 3"), ("misty_rose", "1 3"), ("thistle", "1 3"), ("khaki", "1 3"),
   ("light_yellow", "3"), ("honeydew", "2"), ("orange_red", "1"), ("salmon", "1"),
   ("pale_violet_red", "1"), ("cornsilk", "1")
  ]

/-- Whether a colour has a name. -/
def isNamedColour (name : String) : Bool :=
  name = "default" || colourNames.contains name ||
    colourShades.any fun (base, shades) =>
      (shades.splitOn " ").any fun shade => base ++ shade = name

/-- What stands between the front and the end of a text. -/
def between? (front back : String) (s : List Char) : Option (List Char) :=
  if front.toList.isPrefixOf s && back.toList.isSuffixOf s && front.length + back.length ≤ s.length
  then some ((s.drop front.length).take (s.length - front.length - back.length))
  else none

/-- Whether a text is six hexadecimal digits after a hash sign. -/
def isHexColour (s : List Char) : Bool :=
  match s with
  | '#' :: digits => digits.length = 6 && digits.all fun c => (Text.hexDigit? c).isSome
  | _ => false

/-- Whether a text is a number from the palette. -/
def isPaletteColour (s : List Char) : Bool :=
  match between? "color(" ")" s with
  | none => false
  | some digits => !digits.isEmpty && digits.length ≤ 3 && (Text.decimalValue? digits).any (· < 256)

/-- Whether a text mixes three components, each below 256. -/
def isMixedColour (s : List Char) : Except StyleError Bool :=
  match between? "rgb(" ")" s with
  | none => .ok false
  | some inner =>
    if inner.isEmpty || !inner.all fun c => c = ',' || (Text.digitOfAnyScript? c).isSome then
      .ok false
    else
      let components := Text.splitAt ',' inner
      if components.length ≠ 3 then .ok false
      else match components.mapM Decimal.readInt? with
        | some values => .ok (values.all (· < 256))
        | none => .error .badComponent

/-- Whether a word in small letters is a colour. -/
def isColour (word : String) : Except StyleError Bool :=
  let s := word.toList
  if isNamedColour word || isHexColour s || isPaletteColour s then .ok true else isMixedColour s

/-! ### Descriptions -/

/-- The attributes of a style, in order, each with the words for it. -/
def attributeWords : List (String × List String) :=
  [("bold", ["b"]), ("dim", ["d"]), ("italic", ["i"]), ("underline", ["u"]), ("blink", []),
    ("blink2", []), ("reverse", ["r"]), ("conceal", ["c"]), ("strike", ["s"]),
    ("underline2", ["uu"]), ("frame", []), ("encircle", []), ("overline", ["o"])]

/-- The attribute that a word stands for. -/
def attribute? (word : String) : Option String :=
  (attributeWords.find? fun (name, short) => name = word || short.contains word).map (·.1)

/-- What a description says. -/
structure Style where
  /-- The attributes that are given or taken back, the latest first. -/
  attributes : List (String × Bool) := []
  colour : Option String := none
  background : Option String := none
  link : Option String := none
deriving Repr, DecidableEq

namespace Style

/-- Adds what words say; the inner `none` means that they describe no style. -/
def add (s : Style) : List String → Except StyleError (Option Style)
  | [] => .ok (some s)
  | original :: rest =>
    let word := inSmallLetters original
    if word = "on" then
      match rest with
      | [] => .ok none
      | colour :: rest => do
        let colour := inSmallLetters colour
        if ← isColour colour then add { s with background := some colour } rest else return none
    else if word = "not" then
      match rest with
      | [] => .ok none
      | name :: rest =>
        match attribute? name with
        | some name => add { s with attributes := (name, false) :: s.attributes } rest
        | none => .ok none
    else if word = "link" then
      match rest with
      | [] => .ok none
      | target :: rest => add { s with link := some target } rest
    else match attribute? word with
      | some name => add { s with attributes := (name, true) :: s.attributes } rest
      | none => do
        if ← isColour word then add { s with colour := some word } rest else return none

/-- The words of a style in their order. -/
def words (s : Style) : List String :=
  (attributeWords.filterMap fun (name, _) =>
      (s.attributes.lookup name).map fun given => if given then name else "not " ++ name)
    ++ s.colour.toList ++ (s.background.toList.map ("on " ++ ·))
    ++ (s.link.toList.map ("link " ++ ·))

/-- The description of a style. -/
def write (s : Style) : String :=
  if s.words.isEmpty then "none" else String.intercalate " " s.words

/-- What a description has in common with all others of the same style. What describes no style is
only brought into small letters. -/
def normalise (description : List Char) : Except StyleError String := do
  let trimmed := Text.trim description
  if trimmed = "none".toList then return "none"
  match ← ({} : Style).add ((Text.words description).map String.ofList) with
  | some style => return style.write
  | none => return inSmallLetters (String.ofList trimmed)

end Style

end PrefixDelegation.Console
