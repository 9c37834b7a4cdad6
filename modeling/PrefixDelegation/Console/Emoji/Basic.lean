import PrefixDelegation.Console.Emoji.Animals
import PrefixDelegation.Console.Emoji.Faces
import PrefixDelegation.Console.Emoji.Flags
import PrefixDelegation.Console.Emoji.People
import PrefixDelegation.Console.Emoji.Places
import PrefixDelegation.Console.Emoji.Sequences
import PrefixDelegation.Console.Emoji.Symbols
import PrefixDelegation.Console.Emoji.Travel
import PrefixDelegation.Text.Blank
import PrefixDelegation.Text.SmallLetter

/-!
# Emoji by name

A name between two colons stands for an emoji: `:bee:` shows a bee. The name may be written in
capital letters. Behind it, `-emoji` asks for the picture and `-text` for the plain symbol. What
stands between two colons and names no emoji is left alone, together with both of the colons; and
no name holds a blank.
-/

namespace PrefixDelegation.Console.Emoji

/-! ### Emoji and their names -/

/-- The tones of skin, each with its character. -/
def tones : List (String × Char) :=
  [("_light_skin_tone", '🏻'), ("_medium-light_skin_tone", '🏼'), ("_medium_skin_tone", '🏽'),
    ("_medium-dark_skin_tone", '🏾'), ("_dark_skin_tone", '🏿')]

/-- The emoji that have no tone of skin, or none that their name speaks of. -/
def untoned : List (String × String) :=
  symbols ++ places ++ animals ++ faces ++ travel ++ sequences ++ people

/-- The emoji with a name in a table. -/
def inTable? (table : List (String × String)) (name : String) : Option String :=
  (table.find? fun (_, names) => (names.splitOn " ").contains name).map (·.1)

/-- The emoji of people whose first name is given. -/
def person? (name : String) : Option String :=
  (people.find? fun (_, names) => (names.splitOn " ").head? = some name).map (·.1)

/-- An emoji with a tone of skin: the tone follows the first character, in the place of the
selector that asks for the picture. -/
def withTone (tone : Char) (emoji : String) : String :=
  match emoji.toList with
  | c :: '\ufe0f' :: rest | c :: rest => String.ofList (c :: tone :: rest)
  | [] => ""

/-- The emoji whose name ends in a tone of skin. -/
def toned? (name : String) : Option String :=
  tones.findSome? fun (ending, tone) =>
    if name.endsWith ending then
      (person? (name.dropEnd ending.length).toString).map (withTone tone)
    else none

/-- The emoji with a name. -/
def named? (name : String) : Option String :=
  ((inTable? untoned name).or (flagNamed? name)).or (toned? name)

/-! ### Names in a text -/

/-- The ways of asking for one form of an emoji, each with the selector of that form. -/
def forms : List (String × Char) := [("-emoji", '\ufe0f'), ("-text", '\ufe0e')]

/-- What a code between colons stands for, if it names an emoji. -/
def ofCode? (code : List Char) : Option (List Char) :=
  let form := forms.find? fun (ending, _) => ending.toList.isSuffixOf code
  let length := code.length - ((form.map (·.1.length)).getD 0)
  let name := String.ofList ((code.take length).map Text.smallLetter)
  (named? name).map fun emoji => emoji.toList ++ (form.map (·.2)).toList

/-- Replaces codes by emoji, in at most as many characters as given. -/
def replaceFrom : (limit : Nat) → List Char → List Char
  | 0, s => s
  | _ + 1, [] => []
  | limit + 1, ':' :: rest =>
    let code := rest.takeWhile fun c => c ≠ ':' && !Text.isBlank c
    match rest.drop code.length with
    | ':' :: rest => ((ofCode? code).getD (':' :: code ++ [':'])) ++ replaceFrom limit rest
    | _ => ':' :: replaceFrom limit rest
  | limit + 1, c :: rest => c :: replaceFrom limit rest

/-- Replaces the codes in a text by the emoji that they name. -/
def replace (s : List Char) : List Char := replaceFrom s.length s

end PrefixDelegation.Console.Emoji
