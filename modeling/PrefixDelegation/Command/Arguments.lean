import PrefixDelegation.Decimal.Notation
import PrefixDelegation.Files.Basic
import PrefixDelegation.Text.Similarity

/-!
# Arguments

The arguments of a command are options and operands. An option starts with a hyphen. A long name
follows two hyphens, and its value follows an equals sign or is the next argument. Names of one
letter follow one hyphen and can be put together; the value of such an option is what follows its
letter, or the next argument. The argument `--` ends the options. Where options may not follow
operands, the first operand ends them too.

`scan` takes the arguments apart and finds what is wrong with their form. After that the values
are looked at, in the order in which their options were first given; of several values the last
counts.
-/

namespace PrefixDelegation.Command

/-- What the value of an option has to be. -/
inductive ValueKind where
  /-- The option has no value. -/
  | flag
  | text
  | number
  /-- The path of a file that can be written. -/
  | file
deriving Repr, DecidableEq

/-- An option: its names, in the order in which messages show them, its value, and what it is
for. -/
structure OptionForm where
  names : List String
  value : ValueKind
  purpose : String
deriving Repr, DecidableEq

/-- What is wrong with a command line. -/
inductive UsageError where
  /-- There is no such command, but there may be similar ones. -/
  | noSuchCommand (name : String) (similar : List String)
  | missingCommand
  /-- There is no such option, but there may be similar ones. -/
  | noSuchOption (name : String) (similar : List String)
  | takesNoValue (name : String)
  | needsValue (name : String)
  | notANumber (names : List String) (value : String)
  | notAFile (names : List String) (path : String)
  | noSuchFile (operand : String) (path : String)
  | unexpected (operands : List String)
  | noIdentitySource
  | noLeaseFile
deriving Repr, DecidableEq

/-- The names of an option as messages show them. -/
def showNames (names : List String) : String :=
  String.intercalate " / " (names.map fun name => "'" ++ name ++ "'")

/-- A hint at names that may have been meant. -/
def hint : List String → String
  | [] => ""
  | [name] => " Did you mean " ++ Text.quoted name ++ "?"
  | names =>
    " (Did you mean one of: " ++ String.intercalate ", " (names.map Text.quoted) ++ "?)"

/-- The wording of a usage error. -/
def UsageError.message : UsageError → String
  | .noSuchCommand name similar => "No such command " ++ Text.quoted name ++ "." ++ hint similar
  | .missingCommand => "Missing command."
  | .noSuchOption name similar => "No such option " ++ Text.quoted name ++ "." ++ hint similar
  | .takesNoValue name => "Option " ++ Text.quoted name ++ " does not take a value."
  | .needsValue name => "Option " ++ Text.quoted name ++ " requires an argument."
  | .notANumber names value =>
    "Invalid value for " ++ showNames names ++ ": " ++ Text.quoted value
      ++ " is not a valid float."
  | .notAFile names path =>
    "Invalid value for " ++ showNames names ++ ": File " ++ Text.quoted path
      ++ " is a directory."
  | .noSuchFile operand path =>
    "Invalid value for " ++ showNames [operand] ++ ": File " ++ Text.quoted path
      ++ " does not exist."
  | .unexpected operands =>
    "Got unexpected extra argument" ++ (if operands.length = 1 then "" else "s") ++ " ("
      ++ String.intercalate " " operands ++ ")"
  | .noIdentitySource => "one of --duid, --mac or --interface is required"
  | .noLeaseFile => "no lease file given and DHCP6PD_LEASE_FILE is not set"

/-! ### Taking arguments apart -/

/-- An option that was given, with its value. -/
structure GivenOption where
  form : OptionForm
  value : String
deriving Repr, DecidableEq

/-- Arguments that were taken apart. -/
structure Scanned where
  given : List GivenOption
  operands : List String
deriving Repr, DecidableEq

namespace Scanned

/-- Adds an option in front. -/
def addOption (o : GivenOption) (s : Scanned) : Scanned := { s with given := o :: s.given }

/-- Adds an operand in front. -/
def addOperand (operand : String) (s : Scanned) : Scanned :=
  { s with operands := operand :: s.operands }

end Scanned

/-- The option with a name. -/
def formNamed? (forms : List OptionForm) (name : String) : Option OptionForm :=
  forms.find? (·.names.contains name)

/-- What an argument says: options, and perhaps one more that waits for its value, with the name
that it was given by. -/
structure OptionArgument where
  given : List GivenOption
  waiting : Option (OptionForm × String)

/-- Reads letters that follow one hyphen. -/
def readLetters (forms : List OptionForm) : List Char → Except UsageError OptionArgument
  | [] => .ok ⟨[], none⟩
  | letter :: rest => do
    let name := String.ofList ['-', letter]
    match formNamed? forms name with
    | none => .error (.noSuchOption name [])
    | some form =>
      if form.value = .flag then
        let more ← readLetters forms rest
        return { more with given := ⟨form, ""⟩ :: more.given }
      else if rest.isEmpty then return ⟨[], some (form, name)⟩
      else return ⟨[⟨form, String.ofList rest⟩], none⟩

/-- The long names of options. -/
def longNames (forms : List OptionForm) : List String :=
  (forms.flatMap (·.names)).filter (·.startsWith "--")

/-- Reads an argument that starts with two hyphens. -/
def readLong (forms : List OptionForm) (argument : List Char) :
    Except UsageError OptionArgument :=
  let name := String.ofList (argument.takeWhile (· ≠ '='))
  let value := (argument.dropWhile (· ≠ '=')).drop 1
  let hasValue := argument.contains '='
  match formNamed? forms name with
  | none => .error (.noSuchOption name (Text.similar (longNames forms) name))
  | some form =>
    if form.value = .flag then
      if hasValue then .error (.takesNoValue name) else .ok ⟨[⟨form, ""⟩], none⟩
    else if hasValue then .ok ⟨[⟨form, String.ofList value⟩], none⟩
    else .ok ⟨[], some (form, name)⟩

/-- Reads an argument that starts with a hyphen. -/
def readOption (forms : List OptionForm) (argument : String) : Except UsageError OptionArgument :=
  match argument.toList with
  | '-' :: '-' :: rest => readLong forms ('-' :: '-' :: rest)
  | letters => readLetters forms (letters.drop 1)

/-- Whether an argument is an option. -/
def isOption (argument : String) : Bool :=
  argument.toList.head? = some '-' && 1 < argument.length

/-- Takes arguments apart. -/
def scan (forms : List OptionForm) (operandsEnd : Bool) :
    List String → Except UsageError Scanned
  | [] => .ok ⟨[], []⟩
  | argument :: rest =>
    if argument = "--" then .ok ⟨[], rest⟩
    else if isOption argument then
      match readOption forms argument with
      | .error e => .error e
      | .ok ⟨given, none⟩ =>
        (scan forms operandsEnd rest).map fun s => given.foldr Scanned.addOption s
      | .ok ⟨given, some (form, name)⟩ =>
        match rest with
        | [] => .error (.needsValue name)
        | value :: rest => (scan forms operandsEnd rest).map fun s =>
          given.foldr Scanned.addOption (s.addOption ⟨form, value⟩)
    else if operandsEnd then .ok ⟨[], argument :: rest⟩
    else (scan forms operandsEnd rest).map (Scanned.addOperand argument)

/-! ### Values -/

/-- What keeps a value from being used: it is wrong, or it cannot even be looked at. -/
inductive Objection where
  | usage (e : UsageError)
  | fault (f : Fault)
deriving Repr, DecidableEq

namespace Scanned

/-- The value that counts for the option with a name. -/
def value? (s : Scanned) (name : String) : Option String :=
  (s.given.reverse.find? (·.form.names.contains name)).map (·.value)

/-- Whether the option with a name was given. -/
def has (s : Scanned) (name : String) : Bool := (s.value? name).isSome

/-- The number that counts for the option with a name. -/
def number? (s : Scanned) (name : String) : Option Float :=
  (s.value? name).bind Decimal.readFloat?

/-- What keeps a value from being of its kind. -/
def objection? (files : Files) (form : OptionForm) (value : String) : Option Objection :=
  match form.value with
  | .flag | .text => none
  | .number =>
    if (Decimal.readFloat? value).isNone then some (.usage (.notANumber form.names value)) else none
  | .file =>
    match files.kindOf value with
    | .ok (some .directory) => some (.usage (.notAFile form.names value))
    | .ok _ => none
    | .error fault => some (.fault fault)

/-- What is wrong with the values that count, in the order in which their options were given. -/
def objections (s : Scanned) (files : Files) : List Objection :=
  s.given.filterMap fun o =>
    objection? files o.form ((o.form.names.head?.bind s.value?).getD o.value)

end Scanned

end PrefixDelegation.Command
