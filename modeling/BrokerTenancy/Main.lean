import BrokerTenancy.Controller.Startup

/-!
The command line program. It gathers the environment and the files that a start needs, starts the
controller, writes the logs back as the start left them, and reports.
-/

namespace BrokerTenancy.Program

/-- The bytes of a file, if it can be read. -/
def fileBytes (name : String) : IO (Option (List UInt8)) := do
  try
    let bytes ← IO.FS.readBinFile name
    return some bytes.toList
  catch _ => return none

/-- Splits a path before the name at its end. -/
def splitAtLastSlash (path : String) : String × String :=
  let (name, directory) := path.toList.reverse.span (· != '/')
  (String.ofList directory.reverse, String.ofList name.reverse)

/-- The files of these paths that can be read. -/
def diskOf (paths : List String) : IO Disk := do
  let mut disk : Disk := {}
  for path in paths do
    match ← fileBytes path with
    | some bytes =>
        let (directory, name) := splitAtLastSlash path
        disk := disk.holding directory name bytes
    | none => pure ()
  return disk

/-- Name and value of a variable. -/
def variableOf (bytes : List UInt8) : Option (String × String) := do
  let (name, value) := bytes.span (· != 61)
  let name ← decodeText name
  let value ← decodeText (value.drop 1)
  some (name, value)

/-- The environment variables of this process, which end with zero bytes each. -/
def environmentVariables : IO (List (String × String)) := do
  let bytes := (← fileBytes "/proc/self/environ").getD []
  return (bytes.splitBy fun left _ => left != 0).filterMap fun entry =>
    variableOf (entry.filter (· != 0))

/-- The files that a start with these arguments needs. -/
def gather (arguments : List String) (environment : List (String × String)) : IO Disk := do
  match Invocation.ofArguments arguments with
  | .run name _ =>
      let names := Launch.configurationNames name
      let disk ← diskOf names
      match Settings.ofLayers (Launch.configuration disk name) environment with
      | .ok settings => diskOf (names ++ Launch.logPaths settings.store)
      | .error _ => return disk
  | _ => return {}

/-- Writes the logs of a controller to their files. -/
def writeLogs (controller : Controller) : IO Unit := do
  for kind in ResourceKind.all do
    match controller.catalog.logOf kind with
    | .file log =>
        IO.FS.createDirAll controller.settings.store.dataDirectory
        IO.FS.writeBinFile log.path (ByteArray.mk log.bytes.toArray)
    | _ => pure ()

def usage : String := "nsplane-controller [--config FILE] [--log-level FILTER] [--version] [--help]"

end BrokerTenancy.Program

open BrokerTenancy BrokerTenancy.Program

def main (arguments : List String) : IO UInt32 := do
  let environment ← environmentVariables
  let disk ← gather arguments environment
  let launch := Launch.ofArguments arguments environment disk
  match launch with
  | .version => IO.println versionText
  | .help => IO.println usage
  | .misuse => IO.eprintln usage
  | .crashed => IO.eprintln "no such place in a list"
  | .notLoaded fault => IO.eprintln (launch.message ++ ": " ++ fault.message)
  | .failed _ => IO.eprintln ("Error: " ++ launch.message)
  | .serving controller =>
      writeLogs controller
      IO.println ("Managing clusters: " ++ controller.managingText)
      IO.println ("ACL synchronization running on " ++ controller.scheduleText)
  return launch.exitCode.toUInt32
