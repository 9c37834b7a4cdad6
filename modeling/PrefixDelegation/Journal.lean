import PrefixDelegation.Text.Numeral

/-!
# The journal

What a part of the program has to say about its work goes into a journal, as records with a level,
the name of the part, and a text. Nothing is written anywhere while work is going on: an operation
returns its records, in order, beside its result, and whoever runs the operation decides which of
them reach a console or a file.

The names of parts are made of words with dots between them, and a part belongs to another when
its name goes on after a dot.
-/

namespace PrefixDelegation

/-- How urgent a record is; a higher number is more urgent. -/
structure Level where
  number : Int
deriving Repr, DecidableEq

namespace Level

/-- No urgency of its own. -/
def unset : Level := ⟨0⟩

/-- What helps to find a fault. -/
def debug : Level := ⟨10⟩

/-- What goes as it should. -/
def info : Level := ⟨20⟩

/-- What goes wrong and can be mended by trying again. -/
def warning : Level := ⟨30⟩

/-- What goes wrong. -/
def error : Level := ⟨40⟩

/-- What ends the program. -/
def critical : Level := ⟨50⟩

/-- The levels that have names. -/
def named : List (String × Level) :=
  [("NOTSET", unset), ("DEBUG", debug), ("INFO", info), ("WARNING", warning), ("ERROR", error),
    ("CRITICAL", critical), ("WARN", warning), ("FATAL", critical)]

/-- The name of a level; one without a name is named by its number. -/
def name (l : Level) : String :=
  match named.find? (·.2 == l) with
  | some (name, _) => name
  | none => "Level " ++ String.ofList (Text.decimalInt l.number)

/-- The capital of a letter, as far as level names are concerned: besides the small letters of
ASCII, the dotless `ı` and the long `ſ` have capitals among their letters. -/
def capital (c : Char) : Char :=
  if c = 'ı' then 'I' else if c = 'ſ' then 'S' else c.toUpper

/-- The level with a name, which may be written in letters of any case. -/
def ofName? (name : String) : Option Level :=
  named.lookup (String.ofList (name.toList.map capital))

end Level

/-- The name under which the whole program keeps its journal. -/
def programName : String := "dhcp6pd"

/-- The names of the parts of the program that keep a journal. -/
structure Part where
  name : String
deriving Repr, DecidableEq

namespace Part

/-- The program as a whole. -/
def program : Part := ⟨programName⟩

/-- A part of the program proper. -/
def core (name : String) : Part := ⟨programName ++ ".dhcp6." ++ name⟩

/-- Sessions. -/
def client : Part := core "client"

/-- Exchanges. -/
def exchange : Part := core "exchange"

/-- Transports. -/
def transport : Part := core "transport"

/-- Commands. -/
def command : Part := core "cli"

/-- Whether a part is another one or belongs to it. -/
def isWithin (p whole : Part) : Bool :=
  p == whole || (whole.name ++ ".").toList.isPrefixOf p.name.toList

end Part

/-- One entry of the journal. -/
structure Record where
  part : Part
  level : Level
  text : String
deriving Repr, DecidableEq

/-- Entries in the order in which they were made. -/
abbrev Journal := List Record

end PrefixDelegation
