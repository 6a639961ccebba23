import BrokerTenancy.Settings.Basic

/-!
Settings from a tree. Notations differ in how a tree holds texts, numbers and fields; which fields
there are, and what a field that is left out means, is the same for all of them.
-/

namespace BrokerTenancy

/-- How the trees of one notation are read. `fields` gives what a tree has for some of the named
fields, `isAbsent` marks a tree that stands for no value. -/
structure SettingsReader (Tree : Type) where
  text : Tree → Option String
  word : Tree → Option Nat
  boolean : Tree → Option Bool
  backend : Tree → Option StoreBackend
  isAbsent : Tree → Bool
  items : Tree → Option (List Tree)
  fields : List String → Tree → Option (List (String × Tree))

/-- A field, or its standard value if it is left out. -/
def orStandard {Tree Value : Type} (given : List (String × Tree)) (name : String)
    (standard : Value) (decode : Tree → Option Value) : Option Value :=
  (given.lookup name).elim (some standard) decode

def StoreSettings.fieldNames : List String :=
  ["backend", "data_dir", "topic_prefix", "write_timeout_ms", "init_timeout_ms",
    "poll_interval_ms", "max_poll_records"]

def CycleSettings.fieldNames : List String :=
  ["interval_ms", "initial_delay_ms", "admin_timeout_ms"]

def ClusterSettings.fieldNames : List String :=
  ["name", "bootstrap_servers", "manage_acls", "drop_unsynced_acls", "managed_users_only",
    "admin_timeout_ms"]

def Settings.fieldNames : List String :=
  ["log_level", "store", "reconciler", "security", "clusters"]

namespace SettingsReader

variable {Tree : Type} (reader : SettingsReader Tree)

def store (tree : Tree) : Option StoreSettings := do
  let standard : StoreSettings := {}
  let given ← reader.fields StoreSettings.fieldNames tree
  some {
    backend := ← orStandard given "backend" standard.backend reader.backend
    dataDirectory := ← orStandard given "data_dir" standard.dataDirectory reader.text
    topicPrefix := ← orStandard given "topic_prefix" standard.topicPrefix reader.text
    writeTimeout := ← orStandard given "write_timeout_ms" standard.writeTimeout reader.word
    initTimeout := ← orStandard given "init_timeout_ms" standard.initTimeout reader.word
    pollInterval := ← orStandard given "poll_interval_ms" standard.pollInterval reader.word
    pollRecords := ← orStandard given "max_poll_records" standard.pollRecords reader.word }

def cycle (tree : Tree) : Option CycleSettings := do
  let standard : CycleSettings := {}
  let given ← reader.fields CycleSettings.fieldNames tree
  some {
    interval := ← orStandard given "interval_ms" standard.interval reader.word
    initialDelay := ← orStandard given "initial_delay_ms" standard.initialDelay reader.word
    adminTimeout := ← orStandard given "admin_timeout_ms" standard.adminTimeout reader.word }

def security (tree : Tree) : Option SecuritySettings := do
  let standard : SecuritySettings := {}
  let given ← reader.fields ["admin_group"] tree
  some { adminGroup := ← orStandard given "admin_group" standard.adminGroup reader.text }

/-- A word that may be absent. -/
def optionalWord (tree : Tree) : Option (Option Nat) :=
  if reader.isAbsent tree then some none else some <$> reader.word tree

/-- Settings of a cluster; only its name must be given. -/
def cluster (tree : Tree) : Option ClusterSettings := do
  let given ← reader.fields ClusterSettings.fieldNames tree
  let name ← (given.lookup "name").bind reader.text
  let standard : ClusterSettings := { name }
  some {
    name
    bootstrapServers :=
      ← orStandard given "bootstrap_servers" standard.bootstrapServers reader.text
    manageAcls := ← orStandard given "manage_acls" standard.manageAcls reader.boolean
    dropUnsynced := ← orStandard given "drop_unsynced_acls" standard.dropUnsynced reader.boolean
    managedUsersOnly :=
      ← orStandard given "managed_users_only" standard.managedUsersOnly reader.boolean
    adminTimeout :=
      ← orStandard given "admin_timeout_ms" standard.adminTimeout reader.optionalWord }

def clusters (tree : Tree) : Option (List ClusterSettings) := do
  let items ← reader.items tree
  items.mapM reader.cluster

def settings (tree : Tree) : Option Settings := do
  let standard : Settings := {}
  let given ← reader.fields Settings.fieldNames tree
  some {
    logLevel := ← orStandard given "log_level" standard.logLevel reader.text
    store := ← orStandard given "store" standard.store reader.store
    cycle := ← orStandard given "reconciler" standard.cycle reader.cycle
    security := ← orStandard given "security" standard.security reader.security
    clusters := ← orStandard given "clusters" standard.clusters reader.clusters }

end SettingsReader

end BrokerTenancy
