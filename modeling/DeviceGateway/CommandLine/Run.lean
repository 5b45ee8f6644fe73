import DeviceGateway.CommandLine.Arguments
import DeviceGateway.CommandLine.Parameters
import DeviceGateway.Configuration.Load
import DeviceGateway.Driver.Simulator
import DeviceGateway.Gateway.Command
import DeviceGateway.Gateway.Lifecycle
import DeviceGateway.Metadata.Store

/-! What the program does with its arguments: it makes a gateway over the simulator and
the metadata file, and has it carry out one command. -/

namespace DeviceGateway

/-- Why the program fails: what it did, and the cause if that is something else. -/
structure Failure where
  message : String
  cause : Option String := none
  deriving DecidableEq, Repr

/-- The failure as it is told; the lines of the cause are indented. -/
def Failure.report (f : Failure) : String :=
  let cause := f.cause.elim "" fun cause =>
    "\n\nCaused by:\n    " ++ String.intercalate "\n    " (cause.splitToList (· == '\n'))
  "Fatal error: " ++ f.message ++ cause ++ "\n"

/-- The gateway of the program. -/
abbrev SimulatedGateway := Gateway Simulator MetadataStore

/-- The publisher that hands events to a sink. -/
def Sink.publisher (s : Sink) : Publisher where
  publish e := { outcome := (s.publish e).outcome.mapError .server }

namespace Arguments

/-- The directory of the configuration. -/
def configurationDirectory (a : Arguments) : String := a.directory.getD "config"

/-- The configuration with what the arguments override. -/
def override (a : Arguments) (c : Configuration) : Configuration :=
  { c.withBroker a.host a.port with metadata := a.metadata.getD c.metadata }

/-- The configuration that the arguments name, where `text?` gives the text of each file
that there is. -/
def configuration (a : Arguments) (workingDirectory : String) (text? : String → Option String)
    (env : Environment) : Except Failure Configuration :=
  let directory := a.configurationDirectory
  match Configuration.load workingDirectory text? env directory with
  | .ok c => .ok (a.override c)
  | .error e => .error ⟨"Failed to load configuration from " ++ directory, some e.message⟩

end Arguments

namespace SimulatedGateway

/-- The gateway of a configuration at `now`, started, with all objects watched that are
to be pushed. `content` is what reading the metadata file gave. -/
def launch (c : Configuration) (content : Except String String) (now : Int64) :
    Except Failure SimulatedGateway := do
  let store ← (MetadataStore.load c.metadata content).mapError fun e =>
    ⟨e.message, some e.detail⟩
  let g : SimulatedGateway := {
    settings := c.settings
    driver := { interval := c.pushInterval, wave := Simulator.sineWave now }
    source := store
    publisher := c.sink.publisher
    epoch := now }
  match g.start with
  | (.error e, _) => .error ⟨"Failed to start device service", some e.message⟩
  | (.ok (), g) =>
    let (driver, _) := g.driver.watchAll g.registry.devices g.registry.profiles
    return { g with driver }

/-- What a single command gives: the event that was read, if it was no write. -/
def oneShot (g : SimulatedGateway) (device command : String) (arguments : List String) :
    Except Failure (Option Event) :=
  if arguments.isEmpty then
    match g.get device command with
    | (.ok answer, _) => .ok (some answer.event)
    | (.error e, _) => .error { message := e.message }
  else
    match parameters arguments with
    | .error e => .error { message := e.message }
    | .ok parameters =>
      match g.put device command parameters with
      | (.ok (), _) => .ok none
      | (.error e, _) => .error { message := e.message }

end SimulatedGateway

/-- How the program ends, or that it goes on. -/
inductive Ending where
  /-- It only told something about itself. -/
  | told (text : String)
  | refused (error : ArgumentError)
  | failed (failure : Failure)
  | read (event : Event)
  | wrote
  /-- It serves until it is stopped. -/
  | serving (gateway : SimulatedGateway)

namespace Ending

def exitCode : Ending → UInt32
  | .failed _ => 1
  | .refused _ => 2
  | _ => 0

/-- What is written to the standard output. -/
def output : Ending → String
  | .told text => text
  | .read e => e.encode.toIndented ++ "\n"
  | _ => ""

/-- What is written to the standard error output. -/
def errorOutput : Ending → String
  | .refused e => e.report
  | .failed f => f.report
  | _ => ""

end Ending

/-- What the program does once its gateway was launched. -/
def Arguments.carryOut (a : Arguments) : Except Failure SimulatedGateway → Ending
  | .error f => .failed f
  | .ok g =>
    match a.device, a.command with
    | some device, some command =>
      match g.oneShot device command a.parameters with
      | .ok (some e) => .read e
      | .ok none => .wrote
      | .error f => .failed f
    | _, _ => .serving g

end DeviceGateway
