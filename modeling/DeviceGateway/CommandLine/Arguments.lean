import DeviceGateway.Decimal.Numeral

/-! The arguments of the command line. Every argument is an option with a value, in the
next argument or after an equals sign, or asks for help or for the version. -/

namespace DeviceGateway

structure Arguments where
  /-- The directory of the configuration. -/
  directory : Option String := none
  metadata : Option String := none
  host : Option String := none
  port : Option UInt16 := none
  device : Option String := none
  command : Option String := none
  parameters : List String := []
  deriving DecidableEq, Repr

/-- The options. -/
inductive Flag where
  | directory
  | metadata
  | host
  | port
  | device
  | command
  | parameter
  deriving DecidableEq, Repr

namespace Flag

def all : List Flag := [.directory, .metadata, .host, .port, .device, .command, .parameter]

def name : Flag → String
  | .directory => "config-dir"
  | .metadata => "metadata"
  | .host => "mqtt-host"
  | .port => "mqtt-port"
  | .device => "device"
  | .command => "command"
  | .parameter => "param"

def summary : Flag → String
  | .directory => "Path to config directory"
  | .metadata => "Override the metadata file"
  | .host => "Override MQTT Host"
  | .port => "Override MQTT Port"
  | .device => "Run one command against this device (id or name) and exit"
  | .command => "Command to run with --device"
  | .parameter => "NAME=VALUE parameter; turns the one-shot command into a write"

/-- The option as it is written. -/
def usage (f : Flag) : String := "--" ++ f.name

def ofName? (name : String) : Option Flag := all.find? (·.name = name)

end Flag

inductive ArgumentError where
  | unexpected (argument : String)
  | noValue (flag : Flag)
  | repeated (flag : Flag)
  | invalid (value : String) (flag : Flag) (detail : String)
  /-- Another option is there that needs this one. -/
  | missing (flag : Flag)
  deriving DecidableEq, Repr

def ArgumentError.message : ArgumentError → String
  | .unexpected argument => "unexpected argument '" ++ argument ++ "' found"
  | .noValue f => "a value is required for '" ++ f.usage ++ "' but none was supplied"
  | .repeated f => "the argument '" ++ f.usage ++ "' cannot be used multiple times"
  | .invalid value f detail => "invalid value '" ++ value ++ "' for '" ++ f.usage ++ "': " ++ detail
  | .missing f => "the following required arguments were not provided:\n  " ++ f.usage

/-- What the arguments ask for. -/
inductive Invocation where
  | help
  | version
  | refused (error : ArgumentError)
  | run (arguments : Arguments)
  deriving DecidableEq, Repr

namespace Arguments

/-! ### Values -/

/-- The value of an option that is given at most once. -/
def once {α : Type} (f : Flag) (old : Option α) (v : α) : Except ArgumentError (Option α) :=
  match old with
  | none => .ok (some v)
  | some _ => .error (.repeated f)

def portOf (value : String) : Except ArgumentError UInt16 :=
  match integerOfText (-(2 ^ 63)) (2 ^ 63 - 1) value.toList with
  | .error e => .error (.invalid value .port e.message)
  | .ok n =>
    if 0 ≤ n ∧ n < 2 ^ 16 then .ok (UInt16.ofNat n.toNat)
    else .error (.invalid value .port (value ++ " is not in 0..=65535"))

/-- The arguments with one more option. -/
def give (a : Arguments) (f : Flag) (value : String) : Except ArgumentError Arguments :=
  match f with
  | .directory => (once f a.directory value).map fun directory => { a with directory }
  | .metadata => (once f a.metadata value).map fun metadata => { a with metadata }
  | .host => (once f a.host value).map fun host => { a with host }
  | .port => do
    let _ ← once f a.port (0 : UInt16)
    let port ← portOf value
    return { a with port := some port }
  | .device => (once f a.device value).map fun device => { a with device }
  | .command => (once f a.command value).map fun command => { a with command }
  | .parameter => .ok { a with parameters := a.parameters ++ [value] }

/-! ### Reading -/

/-- True of an argument that can be the value of an option before it: one that is no
option itself. A single hyphen is none. -/
def isValue (argument : String) : Bool :=
  match argument.toList with
  | '-' :: _ :: _ => false
  | _ => true

/-- What a single argument is by itself. -/
inductive Form where
  | help
  | version
  /-- Two hyphens, after which there are no more options. -/
  | rest
  | option (flag : Flag) (value : Option String)
  | other
  deriving DecidableEq, Repr

def form (argument : String) : Form :=
  match argument.toList with
  | ['-', '-'] => .rest
  | '-' :: '-' :: r =>
    let name := String.ofList (r.takeWhile (· != '='))
    let value := match r.dropWhile (· != '=') with
      | [] => none
      | _ :: value => some (String.ofList value)
    if name = "help" ∧ value = none then .help
    else if name = "version" ∧ value = none then .version
    else match Flag.ofName? name with
      | some f => .option f value
      | none => .other
  | '-' :: 'h' :: _ => .help
  | '-' :: 'V' :: _ => .version
  | _ => .other

/-- The arguments if no option lacks one that it needs: a device and a command go
together, and parameters need a command. -/
def check (a : Arguments) : Invocation :=
  if a.device.isSome ∧ a.command.isNone then .refused (.missing .command)
  else if a.command.isSome ∧ a.device.isNone then .refused (.missing .device)
  else if a.parameters ≠ [] ∧ a.command.isNone then .refused (.missing .command)
  else .run a

/-- Reads arguments after those read already; `pending` still waits for its value. The
first fault counts, and a request for help or the version before it. -/
def parseFrom (a : Arguments) (pending : Option Flag) : List String → Invocation
  | [] => pending.elim a.check fun f => .refused (.noValue f)
  | s :: r =>
    match pending with
    | some f =>
      if isValue s then
        match a.give f s with
        | .ok a => parseFrom a none r
        | .error e => .refused e
      else .refused (.noValue f)
    | none =>
      match form s with
      | .help => .help
      | .version => .version
      | .rest => r.head?.elim a.check fun s => .refused (.unexpected s)
      | .option f none => parseFrom a (some f) r
      | .option f (some value) =>
        match a.give f value with
        | .ok a => parseFrom a none r
        | .error e => .refused e
      | .other => .refused (.unexpected s)

def parse (arguments : List String) : Invocation := parseFrom {} none arguments

end Arguments

/-! ### Help -/

/-- The name of the program. -/
def programName : String := "device-service"

def versionText : String := programName ++ " 0.1.0\n"

def usageLine : String := "Usage: " ++ programName ++ " [OPTIONS]\n"

/-- A line of the help, of which `option` is filled up to the column of the summaries. -/
def helpLine (option summary : String) : String :=
  option ++ String.ofList (List.replicate (33 - option.length) ' ') ++ summary ++ "\n"

def helpText : String :=
  usageLine ++ "\nOptions:\n" ++
    String.join (Flag.all.map fun f => helpLine ("      " ++ f.usage) f.summary) ++
    helpLine "  -h, --help" "Print help" ++ helpLine "  -V, --version" "Print version"

def ArgumentError.report (e : ArgumentError) : String :=
  "error: " ++ e.message ++ "\n\n" ++ usageLine ++ "\nFor more information, try '--help'.\n"

end DeviceGateway
