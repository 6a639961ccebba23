import BrokerTenancy.Calendar.Instant
import BrokerTenancy.Sorted.Map

/-!
The resources that tenants declare: namespaces, access control entries, streams, connectors and
role bindings. Each has metadata and, except for streams, a specification.
-/

namespace BrokerTenancy

/-- What every resource carries. The creation instant is set when it is first stored. -/
structure Metadata where
  name : String
  namespaceName : String := ""
  cluster : String := ""
  labels : SortedMap String String := .empty
  creation : Option Instant := none
  deriving DecidableEq, Inhabited

/-- The kinds of resources, each with a store and a log of its own. -/
inductive ResourceKind where
  | tenant
  | accessControlEntry
  | stream
  | connector
  | roleBinding
  deriving DecidableEq, Inhabited, Repr

namespace ResourceKind

def all : List ResourceKind := [.tenant, .accessControlEntry, .stream, .connector, .roleBinding]

def name : ResourceKind → String
  | .tenant => "Namespace"
  | .accessControlEntry => "AccessControlEntry"
  | .stream => "KafkaStream"
  | .connector => "Connector"
  | .roleBinding => "RoleBinding"

/-- The last part of the name of the kind's log. -/
def logSuffix : ResourceKind → String
  | .tenant => "namespaces"
  | .accessControlEntry => "access-control-entries"
  | .stream => "streams"
  | .connector => "connectors"
  | .roleBinding => "role-bindings"

end ResourceKind

/-- A namespace: the tenant that `kafkaUser` acts for on one cluster. -/
structure Tenant where
  metadata : Metadata
  kafkaUser : String
  connectClusters : List String := []
  deriving DecidableEq, Inhabited

namespace Tenant

def name (tenant : Tenant) : String := tenant.metadata.name

def cluster (tenant : Tenant) : String := tenant.metadata.cluster

end Tenant

/-- What an entry grants access to. -/
inductive GrantedType where
  | topic
  | group
  | connect
  | transactionalId
  deriving DecidableEq, Inhabited, Repr

/-- Whether a resource name is meant as it stands or as the start of names. -/
inductive PatternType where
  | literal
  | prefixed
  deriving DecidableEq, Inhabited, Repr

/-- How much an entry grants. -/
inductive Permission where
  | owner
  | write
  | read
  deriving DecidableEq, Inhabited, Repr

/-- A grant of access to a namespace, or to everyone. -/
structure AccessControlEntry where
  metadata : Metadata
  resourceType : GrantedType
  resource : String
  patternType : PatternType
  permission : Permission
  grantedTo : String
  deriving DecidableEq, Inhabited

/-- The grantee that stands for everyone. -/
def publicGrantee : String := "*"

def AccessControlEntry.isPublic (entry : AccessControlEntry) : Bool :=
  entry.grantedTo == publicGrantee

/-- A stream application; its name is the start of the names of its topics. -/
structure Stream where
  metadata : Metadata
  deriving DecidableEq, Inhabited

structure Connector where
  metadata : Metadata
  connectCluster : String
  config : SortedMap String String := .empty
  deriving DecidableEq, Inhabited

/-- What a request does to a resource. -/
inductive Verb where
  | get
  | post
  | put
  | delete
  deriving DecidableEq, Inhabited, Repr

/-- The subject type of a group of callers. -/
def groupSubject : String := "GROUP"

/-- Lets a subject use verbs on resource types within a namespace. -/
structure RoleBinding where
  metadata : Metadata
  resourceTypes : List String
  verbs : List Verb
  subjectType : String := groupSubject
  subjectName : String
  deriving DecidableEq, Inhabited

namespace Verb

def all : List Verb := [.get, .post, .put, .delete]

def name : Verb → String
  | .get => "GET"
  | .post => "POST"
  | .put => "PUT"
  | .delete => "DELETE"

/-- The verb of a request method, in any mix of ASCII upper and lower case. -/
def ofMethod (method : String) : Option Verb :=
  all.find? fun verb => verb.name == method.map Char.toUpper

end Verb

end BrokerTenancy
