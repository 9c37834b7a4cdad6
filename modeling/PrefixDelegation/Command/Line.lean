import PrefixDelegation.Command.Identity
import PrefixDelegation.Command.Obtain
import PrefixDelegation.Command.Run
import PrefixDelegation.Command.Show

/-!
# The command line

A command line names a command after the options of the program itself. The command is looked up
first; then the settings are read and the log is set up; only then are the arguments of the command
looked at, so that a wrong setting is reported before a wrong argument.
-/

namespace PrefixDelegation.Command

/-- The version of the program. -/
def version : String := "0.1.0"

/-- The commands. -/
inductive CommandName where
  | duid
  | obtain
  | release
  | run
  | show
deriving Repr, DecidableEq

namespace CommandName

/-- All commands, in the order of the alphabet. -/
def all : List CommandName := [.duid, .obtain, .release, .run, .show]

/-- The name of a command on the command line. -/
def text : CommandName → String
  | .duid => "duid"
  | .obtain => "obtain"
  | .release => "release"
  | .run => "run"
  | .show => "show"

/-- What a command does. -/
def purpose : CommandName → String
  | .duid => "Print the DUID the client would identify with."
  | .obtain => "Obtain a delegated prefix (Solicit, Advertise, Request, Reply)."
  | .release => "Release the delegated prefix."
  | .run => "Obtain a prefix and keep renewing it before it is due."
  | .show => "Show a lease file written by obtain or run."

end CommandName

/-! ### Options -/

/-- The option that asks for guidance. -/
def helpForm : OptionForm := ⟨["--help"], .flag, "Show this message and exit."⟩

/-- The options of the program itself. -/
def programForms : List OptionForm :=
  [⟨["--version"], .flag, "Show the version and exit."⟩, helpForm]

/-- The options of commands that talk to a server. -/
def connectionForms : List OptionForm :=
  [⟨["--interface", "-i"], .text, "Network interface to use"⟩,
    ⟨["--duid"], .text, "Client DUID as hex (including the DUID type)"⟩,
    ⟨["--mac", "-m"], .text, "Override MAC address (xx:xx:xx:xx:xx:xx)"⟩,
    ⟨["--server", "-s"], .text, "Unicast server address (default: ff02::1:2)"⟩,
    ⟨["--timeout", "-t"], .number, "Read/write timeout in seconds"⟩,
    ⟨["--verbose", "-v"], .flag, "Verbose debug output"⟩]

/-- The option for the file that a lease is written to. -/
def outputForm : OptionForm := ⟨["--output", "-o"], .file, "Write the lease as JSON"⟩

/-- The option for output as JSON. -/
def jsonForm : OptionForm := ⟨["--json-output"], .flag, "Output as JSON"⟩

/-- The options of a command. -/
def CommandName.forms : CommandName → List OptionForm
  | .obtain => connectionForms ++ [outputForm, jsonForm, helpForm]
  | .release => connectionForms ++ [helpForm]
  | .run => connectionForms ++ [outputForm,
      ⟨["--retry-interval"], .number,
        "Seconds to wait after a failure or when no deadline is known"⟩,
      ⟨["--once"], .flag, "Run a single iteration and exit"⟩,
      ⟨["--log-file"], .file,
        "Also log to this rotating file (default: DHCP6PD_LOG_FILE)"⟩, helpForm]
  | .duid => [⟨["--interface", "-i"], .text, "Network interface to derive the DUID from"⟩,
      ⟨["--duid"], .text, "Validate and normalise a DUID given as hex"⟩,
      ⟨["--mac", "-m"], .text, "Derive the DUID from this MAC address"⟩, helpForm]
  | .show => [jsonForm, helpForm]

/-- The operand of the command `show`, as messages show it. -/
def leaseOperand : String := "[LEASE_FILE]"

/-- How many operands a command takes. -/
def CommandName.operands : CommandName → Nat
  | .show => 1
  | _ => 0

/-! ### Guidance -/

/-- Two columns, the first as wide as its widest entry. -/
def columns (rows : List (String × String)) : String :=
  let width := (rows.map (·.1.length)).foldl max 0
  String.join (rows.map fun (left, right) =>
    "  " ++ String.ofList (Text.padRight width ' ' left.toList) ++ "  " ++ right ++ "\n")

/-- How options are described. -/
def describeForms (forms : List OptionForm) : String :=
  "Options:\n" ++ columns (forms.map fun f => (String.intercalate ", " f.names, f.purpose))

/-- How to call the program. -/
def programGuidance : String :=
  "Usage: " ++ programName ++ " [OPTIONS] COMMAND [ARGS]...\n\n"
    ++ "  DHCPv6 prefix delegation client.\n\n" ++ describeForms programForms ++ "\nCommands:\n"
    ++ columns (CommandName.all.map fun c => (c.text, c.purpose))

/-- How to call a command. -/
def CommandName.guidance (c : CommandName) : String :=
  "Usage: " ++ programName ++ " " ++ c.text ++ " [OPTIONS]"
    ++ (if c.operands = 0 then "" else " " ++ leaseOperand) ++ "\n\n  " ++ c.purpose ++ "\n\n"
    ++ describeForms c.forms

/-! ### From arguments to commands -/

/-- What can be given to commands that talk to a server. -/
def connectionOf (s : Scanned) : Connection where
  interface := s.value? "--interface"
  duid := s.value? "--duid"
  hardwareAddress := s.value? "--mac"
  server := s.value? "--server"
  timeout := s.number? "--timeout"
  verbose := s.has "--verbose"

/-- The retry interval that is used if none is given. -/
def defaultRetryInterval : Float := 60.0

/-- Carries out a command with arguments in which there is nothing wrong. The command `run` is only
begun. -/
def CommandName.perform (c : CommandName) (s : Scanned) : Act Network (Option Running) :=
  match c with
  | .duid => do
    showIdentity ⟨s.value? "--interface", s.value? "--duid", s.value? "--mac"⟩
    return none
  | .obtain => do
    Command.obtain ⟨connectionOf s, s.value? "--output", s.has "--json-output"⟩
    return none
  | .release => do
    Command.release (connectionOf s)
    return none
  | .run => do
    let o : RunOptions := {
      connection := connectionOf s
      output := s.value? "--output"
      retryInterval := (s.number? "--retry-interval").getD defaultRetryInterval
      once := s.has "--once"
      logFile := s.value? "--log-file" }
    return some (← Command.run o)
  | .show => do
    showLease ⟨s.operands.head?, s.has "--json-output"⟩
    return none

/-- What is wrong with the operands of a command: the path of a lease file must lead to a file, and
there must not be more operands than the command takes. -/
def operandObjections (c : CommandName) (files : Files) (operands : List String) :
    List Objection :=
  let paths := operands.take c.operands
  let rest := operands.drop c.operands
  paths.filterMap (fun path =>
    match files.kindOf path with
    | .ok (some .file) => none
    | .ok (some .directory) => some (.usage (.notAFile [leaseOperand] path))
    | .ok none => some (.usage (.noSuchFile leaseOperand path))
    | .error fault => some (.fault fault))
    ++ if rest.isEmpty then [] else [.usage (.unexpected rest)]

/-- Goes on when nothing is wrong. -/
def orFirst : List Objection → Act σ Unit
  | [] => pure ()
  | .usage e :: _ => throw (.usage e)
  | .fault f :: _ => throw (.crash f)

/-- Carries out a command with its arguments. -/
def CommandName.start (c : CommandName) (arguments : List String) :
    Act Network (Option Running) := do
  let s ← orUsage (scan c.forms false arguments)
  if s.has "--help" then
    say c.guidance
    exit 0
  let files := (← get).shell.files
  orFirst (s.objections files ++ operandObjections c files s.operands)
  c.perform s

/-- Looks at the options of the program itself. The first of them that was given decides. -/
def readProgramOptions (arguments : List String) : Act σ (List String) := do
  let s ← orUsage (scan programForms true arguments)
  match s.given with
  | [] => return s.operands
  | first :: _ =>
    if first.form = helpForm then say programGuidance
    else say (programName ++ ", version " ++ version ++ "\n")
    exit 0

/-- Finds the command. What is no command may still be options, after `--`. -/
def readCommand : List String → Act σ (CommandName × List String)
  | [] => throw (.usage .missingCommand)
  | name :: arguments => do
    match CommandName.all.find? (·.text = name) with
    | some c => return (c, arguments)
    | none =>
      if isOption name then let _ ← readProgramOptions (name :: arguments)
      throw (.usage (.noSuchCommand name (Text.similar (CommandName.all.map (·.text)) name)))

/-- Reads the settings and sets up the log. -/
def prepare : Act σ Unit := do
  match ← setUpLog (.brief false false (← settings).logLevel none) with
  | .ok () => pure ()
  | .error fault =>
    if fault.isInValue then
      complain ("Error: " ++ settingName "LOG_LEVEL" ++ ": " ++ fault.message)
      exit 1
    else throw (.crash fault)

/-- Carries out a command line. -/
def perform (arguments : List String) : Act Network (Option Running) := do
  if arguments.isEmpty then throw (.guidance programGuidance)
  let (c, arguments) ← readCommand (← readProgramOptions arguments)
  prepare
  c.start arguments

/-- The shell that a command line starts with. -/
def Shell.initial (environment : Environment) (files : Files) (nesting : Json.Nesting) :
    Shell where
  preferences := ⟨environment, none⟩
  files
  log := .none
  output := []
  notices := []
  sleeps := []
  nesting

/-- What came of a command line: a run that was begun, or the end. -/
inductive Progress where
  | ended (ending : Ending) (work : Work Network)
  | running (r : Running)

/-- Carries out a command line up to its end, or up to the first round of a run. -/
def begin (arguments : List String) (w : Work Network) : Progress :=
  match (perform arguments).run w with
  | (.error ending, w) => .ended ending w
  | (.ok none, w) => .ended (.exit 0) w
  | (.ok (some r), _) => .running r

/-- Carries out a command line up to its end; a run sleeps a number of times at most, and its next
sleep is interrupted. -/
def outcome (arguments : List String) (w : Work Network) (sleeper : Sleeper) (sleeps : Nat) :
    Ending × Work Network :=
  match begin arguments w with
  | .ended ending w => (ending, w)
  | .running r =>
    let (ending, r) := r.rounds sleeper sleeps
    (ending, r.work.closed)

end PrefixDelegation.Command
