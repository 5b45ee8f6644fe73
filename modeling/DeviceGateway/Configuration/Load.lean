import DeviceGateway.Configuration.Basic
import DeviceGateway.Configuration.Environment
import DeviceGateway.Path

/-! Loading a configuration: defaults, then the file `default` of a directory, then the
file of the run mode, then the environment. -/

namespace DeviceGateway

namespace Configuration

/-- The name of the run mode, which is that of a file. -/
def runMode (env : Environment) : String := (env.get? "RUN_MODE").getD "development"

/-- The settings that no source needs to give. -/
def defaults (directory : String) : Setting :=
  .table none [
    ("service", .table none [("name", .ofText "device-simulator")]),
    ("metadata", .table none [("path", .ofText (directory ++ "/metadata.json"))])]

/-- The settings of the text of a file, none if that is no table. -/
def parseFile (path text : String) : Except ConfigurationError (List (String × Setting)) :=
  match Toml.read text with
  | .ok document => .ok (Setting.ofTomlEntries path document.entries)
  | .error detail => .error (.malformed path detail)

/-- The names of the two files of a directory. -/
def defaultFile (directory : String) : String := directory ++ "/default"

def modeFile (directory : String) (env : Environment) : String :=
  directory ++ "/" ++ runMode env

section

variable (workingDirectory : String)

/-- The paths at which a file of settings may be found, whose name may leave out its
extension. -/
def spellings (name : String) : List String :=
  let path := Path.within workingDirectory name
  path :: (Path.extend? ".toml" path).toList

/-- The paths of all files that the configuration in a directory can depend on. -/
def candidates (directory : String) (env : Environment) : List String :=
  spellings workingDirectory (defaultFile directory) ++
    spellings workingDirectory (modeFile directory env)

variable (text? : String → Option String)

/-- The settings of a file, where `text?` gives the text of each file that there is. -/
def readFile (name : String) : Except ConfigurationError (List (String × Setting)) :=
  match (spellings workingDirectory name).findSome? fun path => (text? path).map (path, ·) with
  | none => .error (.unavailable ("configuration file \"" ++ name ++ "\" not found"))
  | some (path, text) =>
    if Path.extension? path = some "toml" then
      parseFile (Path.relative workingDirectory path) text
    else
      .error (.unavailable ("configuration file \"" ++ path ++
        "\" is not of a registered file format"))

/-- The settings of a file, none if it cannot be used. -/
def readOptional (name : String) : Except ConfigurationError (List (String × Setting)) :=
  match readFile workingDirectory text? name with
  | .error (.unavailable _) => .ok []
  | r => r

/-- The configuration in a directory. The file `default` must be there. -/
def load (env : Environment) (directory : String) :
    Except ConfigurationError Configuration := do
  let first ← readFile workingDirectory text? (defaultFile directory)
  let mode ← readOptional workingDirectory text? (modeFile directory env)
  ofSetting ((((defaults directory).overlay first).overlay mode).overlay env.settings)

end

end Configuration

end DeviceGateway
