import BrokerTenancy.Controller.Arguments
import BrokerTenancy.Cycle.Fleet
import BrokerTenancy.Log.Directory
import BrokerTenancy.Settings.Layered
import BrokerTenancy.Text.Quoted
import BrokerTenancy.Wire.Client

/-!
Starting the controller. It loads its settings and checks them, opens the logs of all kinds of
resources and waits until the stores on them are ready, and makes a client for every cluster. Each
of these can end the start; after the last the controller serves.
-/

namespace BrokerTenancy

structure Controller where
  settings : Settings
  catalog : Catalog
  fleet : Fleet
  clients : List Wire.Client
  disk : Disk

namespace Controller

/-- Opens the log of a kind of resource. A log in a file gets its file. -/
def openLog (settings : StoreSettings) (disk : Disk) (kind : ResourceKind) :
    Outcome (ResourceLog × Disk) :=
  let name := settings.logName kind.logSuffix
  match settings.backend with
  | .memory => .ok (.memory { name }, disk)
  | .file => do
      let (log, disk) ← FileLog.openIn disk settings.dataDirectory name
      return (.file log, disk)

/-- Opens the logs of kinds of resources, one after the other. -/
def openLogs (settings : StoreSettings) (disk : Disk) :
    List ResourceKind → Outcome (List (ResourceKind × ResourceLog) × Disk)
  | [] => .ok ([], disk)
  | kind :: rest => do
      let (log, disk) ← openLog settings disk kind
      let (logs, disk) ← openLogs settings disk rest
      return ((kind, log) :: logs, disk)

def start (settings : Settings) (disk : Disk) : Outcome Controller := do
  settings.validate
  let (logs, disk) ← openLogs settings.store disk ResourceKind.all
  let logOf (kind : ResourceKind) : ResourceLog := (logs.lookup kind).getD default
  let catalog ← Catalog.openOn logOf settings.store.limits
  let clients ← settings.clusters.mapM fun cluster =>
    Wire.Client.ofServers cluster.name cluster.bootstrapServers
  let managed ← Fleet.managedBy settings fun _ => .ok ()
  return { settings, catalog, clients, disk, fleet := { managed } }

/-- Which clusters the controller manages. -/
def managingText (controller : Controller) : String := quotedList controller.fleet.clusterNames

/-- How often it brings how many of them into step. -/
def scheduleText (controller : Controller) : String :=
  toString controller.fleet.scheduled.length ++ " clusters every " ++
    toString controller.settings.cycle.interval ++ "ms"

end Controller

/-- How a start of the program ends. -/
inductive Launch where
  | version
  | help
  | misuse
  | crashed
  | notLoaded (fault : Fault)
  | failed (fault : Fault)
  | serving (controller : Controller)

namespace Launch

/-- The names that a configuration may have, the first one found counts. -/
def configurationNames (name : String) : List String :=
  name :: (Path.lengthened name ".toml").toList

def configuration (disk : Disk) (name : String) : Option (List UInt8) :=
  (configurationNames name).findSome? fun name => (disk.read name).toOption

/-- The files that a start with these settings opens. -/
def logPaths (settings : StoreSettings) : List String :=
  match settings.backend with
  | .memory => []
  | .file => ResourceKind.all.map fun kind =>
      FileLog.pathIn settings.dataDirectory (settings.logName kind.logSuffix)

/-- Starts the program with its arguments, environment variables and files. -/
def ofArguments (arguments : List String) (environment : List (String × String)) (disk : Disk) :
    Launch :=
  match Invocation.ofArguments arguments with
  | .version => .version
  | .help => .help
  | .misuse => .misuse
  | .run name _ =>
      match Settings.ofLayers (configuration disk name) environment with
      | .error (.settings .misplaced) => .crashed
      | .error fault => .notLoaded fault
      | .ok settings =>
          match Controller.start settings disk with
          | .error fault => .failed fault
          | .ok controller => .serving controller

/-- Zero unless the program could not start; misuse and a crash have codes of their own. -/
def exitCode : Launch → Nat
  | .misuse => 2
  | .crashed => 101
  | .notLoaded _ | .failed _ => 1
  | _ => 0

/-- A fault as the program ends with it: settings that cannot be used are told, all else only by
its kind. -/
def faultText : Fault → String
  | .invalidSetting cause => "InvalidConfig(" ++ quoted cause.message ++ ")"
  | fault => fault.kindName

/-- Why the program could not start. -/
def message : Launch → String
  | .notLoaded _ => "Failed to load configuration"
  | .failed fault => faultText fault
  | _ => ""

/-- The controller that serves after the start. -/
def controller : Launch → Option Controller
  | .serving controller => some controller
  | _ => none

end Launch

def versionText : String := "nsplane-controller 0.1.0"

end BrokerTenancy
