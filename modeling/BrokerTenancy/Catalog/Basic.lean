import BrokerTenancy.Settings.Basic
import BrokerTenancy.Store.Hosted

/-!
The stored resources of all kinds, one store for each kind. A resource is stored under its key, so
that storing it again replaces it, and gets a creation instant when it comes without one.
-/

namespace BrokerTenancy

namespace HostedStore

variable {Value : Type} [Resource Value]

/-- The resource with its creation instant, which is the given one if it has none. -/
def stamped (value : Value) (now : Instant) : Value :=
  let metadata := Resource.metadata value
  Resource.withMetadata value { metadata with creation := some (metadata.creation.getD now) }

def register (hosted : HostedStore Value) (value : Value) (now : Instant) (timestamp : Int) :
    HostedStore Value × Outcome Value :=
  let value := stamped value now
  hosted.put (Resource.key value) value timestamp

def retract (hosted : HostedStore Value) (value : Value) (timestamp : Int) :
    HostedStore Value × Outcome Unit :=
  hosted.delete (Resource.key value) timestamp

def all (hosted : HostedStore Value) : Outcome (List Value) := hosted.store.list

/-- The resource of a name in a namespace. -/
def inNamespace (hosted : HostedStore Value) (namespaceName name : String) :
    Outcome (Option Value) :=
  hosted.store.get (Metadata.scopedKey { name, namespaceName })

def onCluster (hosted : HostedStore Value) (cluster : String) : Outcome (List Value) :=
  hosted.store.listFiltered fun value => (Resource.metadata value).cluster == cluster

/-- The resources that a namespace of any cluster declares. -/
def declaredIn (hosted : HostedStore Value) (namespaceName : String) : Outcome (List Value) :=
  hosted.store.listFiltered fun value =>
    (Resource.metadata value).namespaceName == namespaceName

/-- The resources of a tenant: those of its name on its cluster. -/
def ofTenant (hosted : HostedStore Value) (tenant : Tenant) : Outcome (List Value) :=
  hosted.store.listFiltered fun value =>
    (Resource.metadata value).namespaceName == tenant.name &&
      (Resource.metadata value).cluster == tenant.cluster

end HostedStore

structure Catalog where
  tenants : HostedStore Tenant
  accessControlEntries : HostedStore AccessControlEntry
  streams : HostedStore Stream
  connectors : HostedStore Connector
  roleBindings : HostedStore RoleBinding

/-- Whether an entry is granted to a tenant: on its cluster, by its name or to everyone. -/
def AccessControlEntry.isGrantedTo (entry : AccessControlEntry) (tenant : Tenant) : Bool :=
  entry.metadata.cluster == tenant.cluster &&
    (entry.grantedTo == tenant.name || entry.isPublic)

namespace Catalog

/-- The entries that are granted to a tenant. -/
def grantedTo (catalog : Catalog) (tenant : Tenant) : Outcome (List AccessControlEntry) :=
  catalog.accessControlEntries.store.listFiltered fun entry => entry.isGrantedTo tenant

/-- The role bindings whose subject is one of the given names. -/
def forSubjects (roleBindings : Store RoleBinding) (names : List String) :
    Outcome (List RoleBinding) :=
  roleBindings.listFiltered fun binding => names.contains binding.subjectName

/-- Starts a store on each log; their loops have not run yet. -/
def launch (logOf : ResourceKind → ResourceLog) (limits : StoreLimits) : Catalog where
  tenants := (HostedStore.create (logOf .tenant) limits).launch
  accessControlEntries := (HostedStore.create (logOf .accessControlEntry) limits).launch
  streams := (HostedStore.create (logOf .stream) limits).launch
  connectors := (HostedStore.create (logOf .connector) limits).launch
  roleBindings := (HostedStore.create (logOf .roleBinding) limits).launch

/-- The progress of each store, in the order of the kinds. -/
def progress (catalog : Catalog) : List (String × Status) :=
  [(catalog.tenants.store.name, catalog.tenants.store.status),
    (catalog.accessControlEntries.store.name, catalog.accessControlEntries.store.status),
    (catalog.streams.store.name, catalog.streams.store.status),
    (catalog.connectors.store.name, catalog.connectors.store.status),
    (catalog.roleBindings.store.name, catalog.roleBindings.store.status)]

/-- Why the first store that stopped did so. -/
def firstFatal (catalog : Catalog) : Option (String × StopCause) :=
  catalog.progress.findSome? fun entry => entry.2.fatal.map (entry.1, ·)

/-- Waits until all stores are ready. A store that stopped ends the wait before one that is late. -/
def awaitReady (catalog : Catalog) : Outcome Unit :=
  match catalog.firstFatal with
  | some (name, cause) => .error (.stopped name cause)
  | none =>
      match catalog.progress.find? fun entry => !entry.2.ready with
      | some (name, _) => .error (.notReady name)
      | none => .ok ()

/-- Lets every store take what its log delivers. -/
def settle (catalog : Catalog) : Catalog where
  tenants := catalog.tenants.settle
  accessControlEntries := catalog.accessControlEntries.settle
  streams := catalog.streams.settle
  connectors := catalog.connectors.settle
  roleBindings := catalog.roleBindings.settle

/-- Opens a store on each log and waits until all are ready. -/
def openOn (logOf : ResourceKind → ResourceLog) (limits : StoreLimits) : Outcome Catalog := do
  let launched := launch logOf limits
  let opened := launched.settle
  (if limits.initTimeout = 0 then launched else opened).awaitReady
  return opened

def shutDown (catalog : Catalog) : Catalog where
  tenants := catalog.tenants.shutDown
  accessControlEntries := catalog.accessControlEntries.shutDown
  streams := catalog.streams.shutDown
  connectors := catalog.connectors.shutDown
  roleBindings := catalog.roleBindings.shutDown

def logOf (catalog : Catalog) : ResourceKind → ResourceLog
  | .tenant => catalog.tenants.log
  | .accessControlEntry => catalog.accessControlEntries.log
  | .stream => catalog.streams.log
  | .connector => catalog.connectors.log
  | .roleBinding => catalog.roleBindings.log

end Catalog

end BrokerTenancy
