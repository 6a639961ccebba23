import BrokerTenancy.Fault
import BrokerTenancy.Store.Basic
import BrokerTenancy.Text.Blank

/-!
Settings of the controller and when they are usable. Times are in milliseconds.
-/

namespace BrokerTenancy

/-- Where the logs of the stores are kept. -/
inductive StoreBackend where
  | memory
  | file
  deriving DecidableEq, Inhabited, Repr

namespace StoreBackend

def all : List StoreBackend := [.memory, .file]

def name : StoreBackend → String
  | .memory => "memory"
  | .file => "file"

end StoreBackend

structure StoreSettings where
  backend : StoreBackend := .file
  dataDirectory : String := "./data/nsplane"
  topicPrefix : String := "ns4kafka"
  writeTimeout : Nat := 10000
  initTimeout : Nat := 60000
  pollInterval : Nat := 200
  pollRecords : Nat := 500
  deriving DecidableEq, Inhabited, Repr

structure CycleSettings where
  interval : Nat := 10000
  initialDelay : Nat := 0
  adminTimeout : Nat := 10000
  deriving DecidableEq, Inhabited, Repr

structure SecuritySettings where
  /-- The members of this group get the admin role. -/
  adminGroup : String := "_"
  deriving DecidableEq, Inhabited, Repr

structure ClusterSettings where
  name : String
  bootstrapServers : String := ""
  /-- Whether the cluster's bindings are kept in step with the resources. -/
  manageAcls : Bool := false
  /-- Whether bindings that no resource stands for are removed. -/
  dropUnsynced : Bool := true
  /-- Whether bindings of principals that belong to no namespace are left alone. -/
  managedUsersOnly : Bool := true
  /-- The bound on a broker call, where it differs from the common one. -/
  adminTimeout : Option Nat := none
  deriving DecidableEq, Inhabited, Repr

structure Settings where
  logLevel : String := "info"
  store : StoreSettings := {}
  cycle : CycleSettings := {}
  security : SecuritySettings := {}
  clusters : List ClusterSettings := []
  deriving DecidableEq, Inhabited, Repr

/-- Refuses settings for a cause, if a condition holds. -/
def refuseWhen (condition : Bool) (cause : InvalidSetting) : Outcome Unit :=
  if condition then .error (.invalidSetting cause) else .ok ()

namespace StoreSettings

/-- The name of the log of a kind of resource. -/
def logName (settings : StoreSettings) (resource : String) : String :=
  settings.topicPrefix ++ "." ++ resource

def limits (settings : StoreSettings) : StoreLimits where
  writeTimeout := settings.writeTimeout
  initTimeout := settings.initTimeout
  pollRecords := settings.pollRecords

def validate (settings : StoreSettings) : Outcome Unit := do
  refuseWhen (isBlankText settings.topicPrefix) (.empty "store.topic_prefix")
  refuseWhen (settings.writeTimeout == 0) (.zero "store.write_timeout_ms")
  refuseWhen (settings.initTimeout == 0) (.zero "store.init_timeout_ms")
  refuseWhen (settings.pollInterval == 0) (.zero "store.poll_interval_ms")
  refuseWhen (settings.pollRecords == 0) (.zero "store.max_poll_records")
  refuseWhen (settings.backend == .file && settings.dataDirectory.isEmpty) .emptyDataDirectory

end StoreSettings

namespace CycleSettings

def validate (settings : CycleSettings) : Outcome Unit := do
  refuseWhen (settings.interval == 0) (.zero "reconciler.interval_ms")
  refuseWhen (settings.adminTimeout == 0) (.zero "reconciler.admin_timeout_ms")

end CycleSettings

namespace SecuritySettings

def validate (settings : SecuritySettings) : Outcome Unit :=
  refuseWhen (isBlankText settings.adminGroup) (.empty "security.admin_group")

end SecuritySettings

namespace ClusterSettings

/-- The bound on a broker call of this cluster. -/
def effectiveTimeout (cluster : ClusterSettings) (cycle : CycleSettings) : Nat :=
  cluster.adminTimeout.getD cycle.adminTimeout

def validate (cluster : ClusterSettings) : Outcome Unit := do
  refuseWhen (isBlankText cluster.name) (.empty "clusters.name")
  refuseWhen (cluster.adminTimeout == some 0)
    (.zero ("clusters." ++ cluster.name ++ ".admin_timeout_ms"))

end ClusterSettings

namespace Settings

/-- The first cluster of a name. -/
def cluster (settings : Settings) (name : String) : Option ClusterSettings :=
  settings.clusters.find? fun cluster => cluster.name == name

/-- Checks clusters in order, each also against the names seen before it. -/
def validateClusters (seen : List String) : List ClusterSettings → Outcome Unit
  | [] => .ok ()
  | cluster :: rest => do
      cluster.validate
      refuseWhen (seen.contains cluster.name) (.repeatedCluster cluster.name)
      validateClusters (cluster.name :: seen) rest

def validate (settings : Settings) : Outcome Unit := do
  settings.store.validate
  settings.cycle.validate
  settings.security.validate
  validateClusters [] settings.clusters

end Settings

end BrokerTenancy
