import DeviceGateway.CommandLine.Run
import Std.Time.DateTime.Timestamp

/-! The program: it reads the files that its arguments name, and writes what comes of
them. Without a command it serves until it is stopped. -/

namespace DeviceGateway

/-- What the system says about an error. -/
def systemText : IO.Error → String
  | .noFileOrDirectory .. => FileFault.absent.message
  | .permissionDenied .. => FileFault.denied.message
  | .inappropriateType none .. => FileFault.isDirectory.message
  | .inappropriateType (some _) .. => FileFault.notDirectory.message
  | .invalidArgument (some _) .. => FileFault.nameTooLong.message
  | e => toString e

/-- The text of a file, or what the system says instead. -/
def readText (path : String) : IO (Except String String) := do
  if path = "" then return .error FileFault.absent.message
  if '\x00' ∈ path.toList then return .error FileFault.zeroInPath.message
  try
    return .ok (← IO.FS.readFile path)
  catch e => return .error (systemText e)

/-- The variables that the program was started with, and those that the nearest file
`.env` adds. -/
def readEnvironment (directory : String) : IO Environment := do
  let text := (← readText "/proc/self/environ").toOption.getD ""
  let env : Environment := (text.splitToList (·.toNat = 0)).map fun entry =>
    let name := entry.toList.takeWhile (· != '=')
    (String.ofList name, String.ofList (entry.toList.drop (name.length + 1)))
  let found ← (Path.upwards ".env" (Path.parts directory).reverse).filterMapM fun path =>
    return (← readText path).toOption
  return env.withFile (found.head?.getD "")

/-- The wall clock, in milliseconds. -/
def readClock : IO Int64 := do
  return Int64.ofInt (← Std.Time.Timestamp.now).toMillisecondsSinceUnixEpoch.val

def logText (l : LogLine) : String :=
  let field := fun (name, value) => match value with
    | .text s => " " ++ name ++ "=" ++ Text.quote s
    | .number n => " " ++ name ++ "=" ++ toString n
  l.level.name ++ " " ++ l.message ++ String.join (l.fields.map field)

/-- Lets the time of the gateway follow the clock, and logs the events that it publishes. -/
partial def serve (g : SimulatedGateway) (sink : Sink) (started : Nat) : IO Unit := do
  let g := g.pass ((← IO.monoMsNow) - started - g.clock)
  for (_, deed) in g.trace do
    if let .published e := deed then
      for line in (sink.publish e).lines do IO.println (logText line)
  IO.sleep 50
  serve { g with trace := [] } sink started

/-- Carries out the arguments of a run. -/
def perform (a : Arguments) : IO (Ending × Sink) := do
  let directory := (← IO.currentDir).toString
  let env ← readEnvironment directory
  let files ← (Configuration.candidates directory a.configurationDirectory env).filterMapM fun path =>
    return (← readText path).toOption.map (path, ·)
  match a.configuration directory (fun path => files.lookup path) env with
  | .error f => return (.failed f, .log)
  | .ok c =>
    let content ← readText c.metadata
    return (a.carryOut (SimulatedGateway.launch c content (← readClock)), c.sink)

end DeviceGateway

open DeviceGateway

def main (arguments : List String) : IO UInt32 := do
  let (ending, sink) ← match Arguments.parse arguments with
    | .help => pure (.told helpText, .log)
    | .version => pure (.told versionText, .log)
    | .refused e => pure (.refused e, .log)
    | .run a => perform a
  IO.print ending.output
  IO.eprint ending.errorOutput
  if let .serving g := ending then serve g sink (← IO.monoMsNow)
  return ending.exitCode
