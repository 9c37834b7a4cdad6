import PrefixDelegation.Fault
import PrefixDelegation.Settings.Environment
import PrefixDelegation.Text.Blank

/-!
# Files of assignments

Variables can be kept in a file, one assignment `NAME=value` a line. The word `export` may stand
before the name, blanks around the equals sign mean nothing, and a comment starts with `#`.

* The name may stand between single quotes; otherwise it ends at a blank, at `=` or at `#`. A name
  without an equals sign gives the variable no value.
* A value in single quotes keeps everything but the escapes `\\` and `\'`. In double quotes there
  are the escapes of the common controls as well. Either kind can go over several lines, and only
  a comment may follow it. A quote after a backslash does not end the value, unless that backslash
  is itself after a backslash.
* Any other value is the rest of the line without the blanks around it. A `#` with a blank before
  it starts a comment; the blanks after the equals sign count for that.

What is not of this form is passed over up to the end of the line where reading stopped.

Values may name other variables, `${NAME}` or `${NAME:-default}`, also between quotes. They get
the value that the variable has in the environment, or else earlier in the file.
-/

namespace PrefixDelegation

open Text

/-- A name, with the value it is given, if any. -/
structure Assignment where
  name : String
  value : Option String
deriving Repr, DecidableEq

namespace Assignment

/-! ### Lines -/

/-- Whether a character separates words on one line. -/
def isInnerBlank (c : Char) : Bool := isBlank c && c ≠ '\n' && c ≠ '\r'

/-- Drops the blanks up to the next word on the line. -/
def skipInner (s : List Char) : List Char := s.dropWhile isInnerBlank

/-- Drops the rest of a line, its end included. -/
def skipLine (s : List Char) : List Char := (s.dropWhile (· ≠ '\n')).drop 1

/-- What follows a line that may only hold a comment. -/
def endLine? (s : List Char) : Option (List Char) :=
  match skipInner s with
  | [] => some []
  | '\n' :: rest => some rest
  | '#' :: rest => some (skipLine rest)
  | _ => none

/-! ### Names -/

/-- Drops the word `export` before a name. -/
def skipExport (s : List Char) : List Char :=
  if "export".toList.isPrefixOf s && (s.drop 6).head?.any isInnerBlank then skipInner (s.drop 6)
  else s

/-- Whether a character can stand in a name without quotes. -/
def isNameChar (c : Char) : Bool := c ≠ '=' && c ≠ '#' && !isBlank c

/-- Reads a name. -/
def readName? : List Char → Option (List Char × List Char)
  | '\'' :: s =>
    let (name, rest) := s.span (· ≠ '\'')
    if name.isEmpty then none
    else match rest with
      | '\'' :: rest => some (name, rest)
      | _ => none
  | s =>
    let (name, rest) := s.span isNameChar
    if name.isEmpty then none else some (name, rest)

/-! ### Values -/

/-- Reads a value after its opening quote, up to the quote that closes it. A character after a
backslash does not close it. -/
def readQuoted? (quote : Char) : List Char → Option (List Char × List Char)
  | [] => none
  | '\\' :: c :: rest => (readQuoted? quote rest).map fun (v, r) => ('\\' :: c :: v, r)
  | c :: rest =>
    if c = quote then some ([], rest)
    else (readQuoted? quote rest).map fun (v, r) => (c :: v, r)

/-- The character that an escape in double quotes stands for. -/
def escaped? : Char → Option Char
  | '\\' => some '\\'
  | '\'' => some '\''
  | '"' => some '"'
  | 'a' => some '\x07'
  | 'b' => some '\x08'
  | 'f' => some '\x0c'
  | 'n' => some '\n'
  | 'r' => some '\r'
  | 't' => some '\t'
  | 'v' => some '\x0b'
  | _ => none

/-- The escapes of single quotes. -/
def plainEscaped? (c : Char) : Option Char := if c = '\\' ∨ c = '\'' then some c else none

/-- Replaces escapes by what they stand for. -/
def unescape (meaning? : Char → Option Char) : List Char → List Char
  | [] => []
  | '\\' :: c :: rest =>
    match meaning? c with
    | some d => d :: unescape meaning? rest
    | none => '\\' :: unescape meaning? (c :: rest)
  | c :: rest => c :: unescape meaning? rest

/-- Cuts a value where a comment starts, with the blanks before the comment. -/
def cutComment : List Char → List Char
  | [] => []
  | c :: rest =>
    if isBlank c && (rest.dropWhile isBlank).head? = some '#' then []
    else c :: cutComment rest

/-- Reads the value that follows an equals sign. -/
def readValue? (s : List Char) : Option (List Char × List Char) :=
  match skipInner s with
  | '\'' :: rest => (readQuoted? '\'' rest).map fun (v, r) => (unescape plainEscaped? v, r)
  | '"' :: rest => (readQuoted? '"' rest).map fun (v, r) => (unescape escaped? v, r)
  | _ =>
    let (line, rest) := s.span (· ≠ '\n')
    some (trim (cutComment line), rest)

/-! ### The whole file -/

/-- What was read where a line starts, and where reading stopped. -/
structure Step where
  assignment : Option Assignment
  rest : List Char

/-- The rest of a line that is not of the right form. -/
def Step.failed (s : List Char) : Step := ⟨none, skipLine s⟩

/-- Ends a line that gives a name a value. -/
def Step.finish (name : List Char) (value : Option (List Char)) (s : List Char) : Step :=
  match endLine? s with
  | some rest => ⟨some ⟨String.ofList name, value.map String.ofList⟩, rest⟩
  | none => .failed (skipInner s)

/-- Reads one line, which starts with a character that is no blank. -/
def readLine (s : List Char) : Step :=
  let s := skipExport s
  match s with
  | '#' :: rest => ⟨none, skipLine rest⟩
  | _ =>
    match readName? s with
    | none => .failed s
    | some (name, rest) =>
      match skipInner rest with
      | '=' :: rest =>
        match readValue? rest with
        | none => .failed rest
        | some (value, rest) => .finish name (some value) rest
      | rest => .finish name none rest

/-- Reads lines, at most as many as given. -/
def readLines : (limit : Nat) → List Char → List Assignment
  | 0, _ => []
  | limit + 1, s =>
    match s.dropWhile isBlank with
    | [] => []
    | s =>
      let step := readLine s
      step.assignment.toList ++ readLines limit step.rest

/-- The assignments of a file. There are no more lines than characters. -/
def readAll (text : String) : List Assignment :=
  let s := text.toList
  let s := if s.head? = some '\ufeff' then s.drop 1 else s
  readLines (s.length + 1) s

/-! ### Variables in values -/

/-- Reads the name of a variable and what stands for it if it has no value, after `${`. -/
def readReference? (s : List Char) : Option (String × Option String × List Char) :=
  let (name, rest) := s.span fun c => c ≠ '}' && c ≠ ':'
  match rest with
  | '}' :: rest => some (String.ofList name, none, rest)
  | ':' :: '-' :: rest =>
    let (default, rest) := rest.span (· ≠ '}')
    match rest with
    | '}' :: rest => some (String.ofList name, some (String.ofList default), rest)
    | _ => none
  | _ => none

/-- Replaces the variables in a value; at most as many characters are read as given. -/
def expandFrom (valueOf : String → Option String) : (limit : Nat) → List Char → List Char
  | 0, s => s
  | _ + 1, [] => []
  | limit + 1, '$' :: '\x7b' :: s =>
    match readReference? s with
    | some (name, default, rest) =>
      ((valueOf name).getD (default.getD "")).toList ++ expandFrom valueOf limit rest
    | none => '$' :: expandFrom valueOf limit ('\x7b' :: s)
  | limit + 1, c :: s => c :: expandFrom valueOf limit s

/-- Replaces the variables in a value. -/
def expand (valueOf : String → Option String) (value : String) : String :=
  String.ofList (expandFrom valueOf value.length value.toList)

/-- The value of a variable that a value names: the one of the environment, or else the one that
was given earlier, which is empty if none was given. -/
def valueOf (e : Environment) (earlier : List Assignment) (name : String) : Option String :=
  (e.get? name).or ((earlier.find? (·.name = name)).map fun a => a.value.getD "")

/-- Replaces the variables in the values of assignments. The earlier ones come last first. -/
def expandAll (e : Environment) : (earlier : List Assignment) → List Assignment → List Assignment
  | earlier, [] => earlier
  | earlier, a :: rest =>
    expandAll e ({ a with value := a.value.map (expand (valueOf e earlier)) } :: earlier) rest

end Assignment

namespace Environment

/-- The last assignment to each name, in the order in which the names first appear. -/
def distinct (assignments : List Assignment) : List Assignment :=
  assignments.foldl (fun found a =>
    if found.any (·.name = a.name) then
      found.map fun b => if b.name = a.name then a else b
    else found ++ [a]) []

/-- Whether an environment can hold a variable: no name holds an equals sign, and neither name nor
value holds the character zero. -/
def canHold (name value : String) : Bool :=
  !name.contains '=' && !name.contains '\x00' && !value.contains '\x00'

/-- Gives variables that have no value the one they are assigned, up to the first that the
environment cannot hold. -/
def assign (e : Environment) : List Assignment → Except Fault Unit × Environment
  | [] => (.ok (), e)
  | a :: rest =>
    match a.value, e.get? a.name with
    | none, _ | some _, some _ => e.assign rest
    | some value, none =>
      if canHold a.name value then (e.set a.name value).assign rest else (.error .badValue, e)

/-- Adds the variables of a file to an environment. Variables that are there keep their values,
and of several assignments to one name the last counts. -/
def load (e : Environment) (text : String) : Except Fault Unit × Environment :=
  e.assign (distinct (Assignment.expandAll e [] (Assignment.readAll text)).reverse)

/-- The variable that keeps files of assignments from being read. -/
def switchName : String := "PYTHON_DOTENV_DISABLED"

/-- Whether no file of assignments is to be read: the variable for that says yes, in letters of any
case. -/
def ignoresFiles (e : Environment) : Bool :=
  match e.get? switchName with
  | none => false
  | some answer => ["1", "true", "t", "yes", "y"].contains
      (String.ofList (answer.toList.map fun c => if c = 'ſ' then 's' else c.toLower))

end Environment

end PrefixDelegation
