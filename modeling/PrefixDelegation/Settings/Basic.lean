import PrefixDelegation.Client.Config
import PrefixDelegation.Decimal.Notation
import PrefixDelegation.Files.Basic
import PrefixDelegation.Settings.Assignment

/-!
# Settings

What a user settles once, in variables of the environment, and need not give again with every
command. A variable that is missing or empty leaves its setting open.

Before the variables are read, the first file of assignments that is found adds what the
environment does not have: in the home directory under `.dhcp6pd` or under `.config/dhcp6pd`, or in
the working directory.

`Settings.clientConfig` makes the configuration of a client. A command may override settings, and
what it leaves open comes from the settings. An overriding server counts only if it is not empty,
every other override counts as it is, the empty text included.
-/

namespace PrefixDelegation

open Text (nonempty?)

/-- What a user settled. -/
structure Settings where
  interface : Option String := none
  duid : Option String := none
  hardwareAddress : Option String := none
  /-- The server to talk to; all servers of the link if there is none. -/
  server : Option String := none
  readTimeout : Seconds := defaultTimeout
  writeTimeout : Seconds := defaultTimeout
  leaseFile : Option String := none
  logLevel : String := "INFO"
  logFile : Option String := none

/-! ### From the environment -/

/-- The name of the variable that holds a setting. -/
def settingName (setting : String) : String := "DHCP6PD_" ++ setting

namespace Environment

/-- The value of a setting, if it is not empty. -/
def setting? (e : Environment) (setting : String) : Option String :=
  nonempty? (e.get? (settingName setting))

/-- The number of seconds that a setting holds. -/
def secondsSetting (e : Environment) (setting : String) (default : Seconds) :
    Except Misuse Seconds :=
  match e.setting? setting with
  | none => .ok default
  | some value =>
    match Decimal.readFloat? value with
    | some x => .ok (.real x)
    | none => .error (.notANumber (settingName setting) value)

end Environment

namespace Settings

/-- The settings in an environment. -/
def ofEnvironment (e : Environment) : Except Misuse Settings := do
  let readTimeout ← e.secondsSetting "READ_TIMEOUT" defaultTimeout
  let writeTimeout ← e.secondsSetting "WRITE_TIMEOUT" defaultTimeout
  return {
    interface := e.setting? "INTERFACE"
    duid := e.setting? "DUID"
    hardwareAddress := e.setting? "HARDWARE_ADDRESS"
    server := e.setting? "SERVER"
    readTimeout
    writeTimeout
    leaseFile := e.setting? "LEASE_FILE"
    logLevel := (e.setting? "LOG_LEVEL").getD "INFO"
    logFile := e.setting? "LOG_FILE" }

/-- Where files of assignments are looked for, in order. -/
def assignmentFiles (f : Files) : List Place :=
  [f.home ++ ["." ++ programName, ".env"], f.home ++ [".config", programName, ".env"],
    f.workingDirectory ++ [".env"]]

/-- The file of assignments that counts. -/
def assignmentFile? (f : Files) : Option Place :=
  (assignmentFiles f).find? fun place => (f.kindAt place).isSome

/-- The environment with the variables of the file of assignments, unless no file is to be read. If
the environment cannot hold one of them, it has those before it. -/
def loadAssignments (f : Files) (e : Environment) : Except Fault Unit × Environment :=
  if e.ignoresFiles then (.ok (), e)
  else match (assignmentFile? f).bind f.at? with
    | some content => e.load (String.ofList (Text.unifyNewlines content.text.toList))
    | none => (.ok (), e)

/-! ### The configuration of a client -/

/-- What overrides settings. -/
structure Overrides where
  interface : Option String := none
  localAddress : Option SocketAddress := none
  remoteAddress : Option SocketAddress := none
  server : Option String := none
  duid : Option Given := none
  hardwareAddress : Option Given := none
  readTimeout : Option Seconds := none
  writeTimeout : Option Seconds := none
  transactionIds : Option (List Int) := none

/-- The server to talk to, if one is settled. -/
def remoteAddress (s : Settings) (o : Overrides) : Option SocketAddress :=
  o.remoteAddress.or (((nonempty? o.server).or (nonempty? s.server)).map .server)

/-- The configuration of a client with these settings. -/
def clientConfig (s : Settings) (o : Overrides) : ClientConfig where
  interface := o.interface.or s.interface
  localAddress := o.localAddress
  remoteAddress := s.remoteAddress o
  duid := o.duid.or (s.duid.map .text)
  hardwareAddress := o.hardwareAddress.or (s.hardwareAddress.map .text)
  readTimeout := o.readTimeout.getD s.readTimeout
  writeTimeout := o.writeTimeout.getD s.writeTimeout
  transactionIds := o.transactionIds.getD []

end Settings

/-! ### Settings that are kept -/

/-- An environment, and the settings that were taken from it when they were first needed. -/
structure Preferences where
  environment : Environment
  settings : Option Settings

/-- The settings that count. They are taken once; later changes of the environment do not show. -/
def Preferences.settle (p : Preferences) (f : Files) : Except Fault Settings × Preferences :=
  match p.settings with
  | some settings => (.ok settings, p)
  | none =>
    match Settings.loadAssignments f p.environment with
    | (.error fault, environment) => (.error fault, ⟨environment, none⟩)
    | (.ok (), environment) =>
      match Settings.ofEnvironment environment with
      | .ok settings => (.ok settings, ⟨environment, some settings⟩)
      | .error e => (.error (.misuse e), ⟨environment, none⟩)

end PrefixDelegation
