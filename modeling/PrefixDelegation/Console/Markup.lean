import PrefixDelegation.Console.Emoji.Basic
import PrefixDelegation.Console.Style

/-!
# Markup

A text can say how it is to be shown: `[bold]` opens a style and `[/bold]` closes it, and `[/]`
closes the style that was opened last. A tag starts with a small letter, `#`, `@` or, to close a
style, a slash; any other bracket is text. A backslash before a tag makes the tag text, and two of
them stand for one.

A tag may have parameters after an equals sign. Those of a tag that starts with `@` name what is to
be done, with values, and have to be readable when the tag is closed.

`Markup.plain` gives the text that is left, with the names of emoji replaced and without the
characters that only move the cursor. A style that is closed must have been opened.
-/

namespace PrefixDelegation.Console

/-- What is wrong with markup. -/
inductive MarkupError where
  /-- A tag closes a style that is not open. -/
  | notOpen (tag : String)
  /-- The parameters of a tag cannot be read. -/
  | badParameters (tag : String)
  | style (e : StyleError)
deriving Repr, DecidableEq

/-- The wording of an error. -/
def MarkupError.message : MarkupError → String
  | .notOpen tag => "closing tag '[" ++ tag ++ "]' does not match any open tag"
  | .badParameters tag => "error parsing the parameters of '[" ++ tag ++ "]'"
  | .style .badComponent => "invalid component of a color"

namespace Markup

/-! ### Tags and text -/

/-- A part of a text with markup. -/
inductive Part where
  | text (s : List Char)
  /-- A tag, without its brackets. -/
  | tag (s : List Char)
deriving Repr, DecidableEq

/-- Whether a character can start a tag. -/
def startsTag (c : Char) : Bool := ('a' ≤ c && c ≤ 'z') || c = '#' || c = '/' || c = '@'

/-- A tag at the start of a text, and what follows it. -/
def readTag? : List Char → Option (List Char × List Char)
  | '[' :: c :: s =>
    let inner := s.takeWhile fun d => d ≠ '[' && d ≠ ']'
    match s.drop inner.length with
    | ']' :: rest => if startsTag c then some (c :: inner, rest) else none
    | _ => none
  | _ => none

/-- Backslashes and a tag at the start of a text: how many backslashes, the tag, and what
follows. -/
def readEscapedTag? (s : List Char) : Option (Nat × List Char × List Char) :=
  let backslashes := s.takeWhile (· = '\\')
  (readTag? (s.drop backslashes.length)).map fun (tag, rest) => (backslashes.length, tag, rest)

/-- Text that is not empty, as a part. -/
def textPart (s : List Char) : List Part := if s.isEmpty then [] else [.text s]

/-- What a tag after some backslashes is. -/
def escapedParts (backslashes : Nat) (tag : List Char) : List Part :=
  textPart (List.replicate (backslashes / 2) '\\')
    ++ [if backslashes % 2 = 1 then .text ('[' :: tag ++ [']']) else .tag tag]

/-- The parts of a text, with the text being read in front, in reverse. The limit is the length of
the text. -/
def partsFrom : (limit : Nat) → (read : List Char) → List Char → List Part
  | 0, read, _ => textPart read.reverse
  | _, read, [] => textPart read.reverse
  | limit + 1, read, c :: s =>
    match readEscapedTag? (c :: s) with
    | some (backslashes, tag, rest) =>
      textPart read.reverse ++ escapedParts backslashes tag ++ partsFrom limit [] rest
    | none => partsFrom limit (c :: read) s

/-- The parts of a text with markup. -/
def partsOf (s : List Char) : List Part := partsFrom s.length [] s

/-! ### Parameters -/

/-- Drops a quoted text up to its closing quote. -/
def skipQuoted? (quote : Char) : List Char → Option (List Char)
  | [] => none
  | '\\' :: _ :: rest => skipQuoted? quote rest
  | c :: rest => if c = quote then some rest else skipQuoted? quote rest

/-- Whether a word is a number. -/
def isNumber (word : List Char) : Bool :=
  let digits := (Decimal.takeSign word).2
  digits.head?.any (fun c => c.isDigit || c = '.') &&
    (Decimal.readFloat? (String.ofList digits)).isSome

/-- Drops a value: a quoted text, a number, or one of three names. -/
def skipValue? : List Char → Option (List Char)
  | '\'' :: rest => skipQuoted? '\'' rest
  | '"' :: rest => skipQuoted? '"' rest
  | s =>
    let word := s.takeWhile fun c => c ≠ ',' && c ≠ ' '
    if isNumber word || ["True", "False", "None"].contains (String.ofList word) then
      some (s.drop word.length)
    else none

/-- Whether a text is made of values with commas behind them, at most as many as given. -/
def areValues : (limit : Nat) → List Char → Bool
  | 0, s => s.isEmpty
  | limit + 1, s =>
    match s.dropWhile (· = ' ') with
    | [] => true
    | s =>
      match (skipValue? s).map (·.dropWhile (· = ' ')) with
      | some [] => true
      | some (',' :: rest) => areValues limit rest
      | _ => false

/-- Whether parameters can be read: they are a name, which may have values in round brackets behind
it, or values alone. -/
def areParameters (s : List Char) : Bool :=
  let s := Text.trim s
  let rest := s.dropWhile fun c => c.isAlphanum || c = '_' || c = '.'
  rest.isEmpty || (between? "(" ")" rest).any (fun values => areValues values.length values) ||
    areValues s.length s

/-! ### Showing -/

/-- A style that is open. -/
structure OpenTag where
  /-- The description of the style, normalised. -/
  style : String
  parameters : List Char
deriving Repr, DecidableEq

namespace OpenTag

/-- The style that a tag opens. -/
def ofTag (tag : List Char) : Except MarkupError OpenTag := do
  let name := tag.takeWhile (· ≠ '=')
  return ⟨← (Style.normalise name).mapError .style, (tag.drop name.length).drop 1⟩

/-- Whether a style can be closed. -/
def isReadable (o : OpenTag) : Bool := !o.style.startsWith "@" || areParameters o.parameters

end OpenTag

/-- The style that a tag without its slash closes, of those that are open, the latest first; and
those that stay open. -/
def closeTag (tag : List Char) (opened : List OpenTag) :
    Except MarkupError (List OpenTag) := do
  let name := Text.trim (tag.takeWhile (· ≠ '='))
  let style ← if name.isEmpty then pure none
    else ((Style.normalise name).mapError .style).map some
  match opened.find? fun o => style.all (· = o.style) with
  | none => throw (.notOpen (String.ofList ('/' :: tag)))
  | some o => if o.isReadable then return opened.erase o else throw (.badParameters o.style)

/-- Whether a character shows on a console. The others ring a bell or move the cursor. -/
def isShown (c : Char) : Bool :=
  !(c = '\x07' || c = '\x08' || c = '\x0b' || c = '\x0c' || c = '\r')

/-- Text without markup, as it is shown. -/
def showText (s : List Char) : List Char := (Emoji.replace s).filter isShown

/-- A backslash before a bracket is left out, whether or not the bracket starts a tag. -/
def unescape : List Char → List Char
  | '\\' :: '[' :: rest => '[' :: unescape rest
  | c :: rest => c :: unescape rest
  | [] => []

/-- The text of parts, given the styles that are open, the latest first. -/
def showParts : (opened : List OpenTag) → List Part → Except MarkupError (List Char)
  | _, [] => .ok []
  | opened, .text s :: rest => return showText (unescape s) ++ (← showParts opened rest)
  | opened, .tag ('/' :: tag) :: rest => do showParts (← closeTag tag opened) rest
  | opened, .tag tag :: rest => do showParts ((← OpenTag.ofTag tag) :: opened) rest

/-- What a text with markup shows. -/
def plain (s : List Char) : Except MarkupError (List Char) := showParts [] (partsOf s)

end Markup

end PrefixDelegation.Console
