import BrokerTenancy.Fault

/-!
From grants to bindings. An entry or a stream stands for a list of bindings in a fixed order, which
depends on nothing but the entry or stream and the namespace it is read for.
-/

namespace BrokerTenancy

/-- What the owner of a resource may do with it. -/
def ownerOperations : ResourceType → Outcome (List Operation)
  | .topic => .ok [.write, .read, .describeConfigs]
  | .group => .ok [.read]
  | other => .error (.invariant (.ownerUnsupported other))

/-- The broker's type of the resource that an entry names. -/
def brokerResourceType : GrantedType → Outcome ResourceType
  | .topic => .ok .topic
  | .group => .ok .group
  | .transactionalId => .ok .transactionalId
  | .connect => .error (.invariant .connectHasNoResource)

/-- The operations that an entry stands for on a resource of a type. -/
def grantedOperations (permission : Permission) (resourceType : ResourceType) :
    Outcome (List Operation) :=
  match permission with
  | .owner => ownerOperations resourceType
  | .write => .ok [.write]
  | .read => .ok [.read]

/-- The principal that an entry lets in: every user if it is public, else the namespace's user. -/
def granteePrincipal (entry : AccessControlEntry) (tenant : Tenant) : String :=
  if entry.isPublic then Binding.userPrincipal entry.grantedTo
  else Binding.userPrincipal tenant.kafkaUser

/-- The bindings of an entry on the resource that it names. -/
def expandResource (entry : AccessControlEntry) (tenant : Tenant) : Outcome (List Binding) := do
  let resourceType ← brokerResourceType entry.resourceType
  let operations ← grantedOperations entry.permission resourceType
  return operations.map fun operation =>
    .allow resourceType entry.resource entry.patternType (granteePrincipal entry tenant) operation

/-- What the names of the consumer groups of connectors start with. -/
def connectGroupStart : String := "connect-"

/-- The owner of connectors may read in their consumer groups. -/
def expandConnect (entry : AccessControlEntry) (tenant : Tenant) : List Binding :=
  match entry.resourceType, entry.permission with
  | .connect, .owner =>
      [.allow .group (connectGroupStart ++ entry.resource) entry.patternType
        (Binding.userPrincipal tenant.kafkaUser) .read]
  | _, _ => []

/-- The bindings of an entry for a namespace. -/
def expandEntry (entry : AccessControlEntry) (tenant : Tenant) : Outcome (List Binding) :=
  match entry.resourceType with
  | .topic | .group => expandResource entry tenant
  | .connect => .ok (expandConnect entry tenant)
  | .transactionalId => .ok []

/-- The bindings of a stream: it creates and deletes the topics, and writes in the transactions,
whose names start with its own. -/
def expandStream (stream : Stream) (tenant : Tenant) : List Binding :=
  let principal := Binding.userPrincipal tenant.kafkaUser
  let name := stream.metadata.name
  [.allow .topic name .prefixed principal .create,
    .allow .topic name .prefixed principal .delete,
    .allow .transactionalId name .prefixed principal .write]

end BrokerTenancy
