import PrefixDelegation.Files.Basic

/-!
# The log

The log decides which records of the journal are shown. Only records of the program and of its
parts are considered, and of these the ones that reach the threshold; a threshold of level zero
counts as that of warnings. A record that is let through goes to the console, which applies the
same threshold, and to a file, which takes everything.

The file is the one that was asked for, or `dhcp6pd.log` in the directory that was asked for, or
that name among the logs of the home directory.
-/

namespace PrefixDelegation

open Text (nonempty?)

/-- Where records go. -/
structure Log where
  threshold : Level
  /-- The least urgent records that the console takes, if there is a console. -/
  console : Option Level
  /-- The place of the file, if there is one. -/
  file : Option Place

/-- What is asked of a log. -/
structure LogRequest where
  level : String := "INFO"
  path : Option String := none
  directory : Option String := none
  toConsole : Bool := true
  toFile : Bool := false

namespace LogRequest

/-- The log of a command: on the console, in full detail or from some level on, and in a file if
that is asked for. -/
def brief (detailed toFile : Bool) (level : String) (path : Option String) : LogRequest where
  level := if detailed then Level.debug.name else level
  path := path
  toFile := toFile

/-- The path of the file. -/
def filePath (r : LogRequest) (f : Files) : Path :=
  match nonempty? r.path, nonempty? r.directory with
  | some path, _ => .read path
  | none, some directory => (Path.read directory).below [programName ++ ".log"]
  | none, none => ⟨1, f.home ++ ["." ++ programName, "logs", programName ++ ".log"]⟩

end LogRequest

namespace Log

/-- The log that shows nothing below warnings and goes nowhere. -/
def none : Log := ⟨.unset, .none, .none⟩

/-- The levels that a log file takes. -/
def fileLevel : Level := .debug

/-- Sets up a log. -/
def setUp (r : LogRequest) (f : Files) : Except Fault Log × Files :=
  match Level.ofName? r.level with
  | .none => (.error (.misuse (.unknownLevel r.level)), f)
  | some threshold =>
    let console := if r.toConsole then some threshold else .none
    if r.toFile then
      match f.openLog (r.filePath f) with
      | (.error fault, f) => (.error fault, f)
      | (.ok place, f) => (.ok ⟨threshold, console, some place⟩, f)
    else (.ok ⟨threshold, console, .none⟩, f)

/-- The level from which on records are let through. -/
def effective (l : Log) : Level := if l.threshold = .unset then .warning else l.threshold

/-- Whether a record is let through. -/
def admits (l : Log) (r : Record) : Bool :=
  r.part.isWithin .program && l.effective.number ≤ r.level.number

/-- Whether a record is shown on the console. -/
def shows (l : Log) (r : Record) : Bool :=
  l.admits r && l.console.any (·.number ≤ r.level.number)

/-- Writes a record into the file. -/
def write (l : Log) (f : Files) (r : Record) : Files :=
  match l.file with
  | .none => f
  | some place => if l.admits r && fileLevel.number ≤ r.level.number then f.append place r else f

end Log

/-- A record as the console shows it, after the time. -/
def Record.consoleText (r : Record) : String :=
  "[" ++ r.level.name ++ "] " ++ r.part.name ++ ": " ++ r.text

/-- The columns of a record in a log file, after the time. -/
def Record.columns (r : Record) : List String :=
  [String.ofList (Text.padRight 8 ' ' r.level.name.toList),
    String.ofList (Text.padRight 24 ' ' r.part.name.toList), r.text]

end PrefixDelegation
