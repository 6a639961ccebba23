import BrokerTenancy.Json.Decoder
import BrokerTenancy.Number.Power
import BrokerTenancy.Resource.Basic

/-!
The JSON form of resources. Field names are in camel case, choices in upper case. Defaults are
filled in when reading, and writing gives every field.
-/

namespace BrokerTenancy

/-- Values that a store keeps, by their JSON form. -/
class Storable (Value : Type) where
  encode : Value → Json
  decode : Json → Option Value

/-- Resources: values with metadata, and a key under which their store keeps them. -/
class Resource (Value : Type) extends Storable Value where
  kind : ResourceKind
  metadata : Value → Metadata
  withMetadata : Value → Metadata → Value
  key : Value → String

open Json (Record)

namespace Metadata

/-- The key of a resource that belongs to a namespace. -/
def scopedKey (metadata : Metadata) : String := metadata.namespaceName ++ "/" ++ metadata.name

def toJson (metadata : Metadata) : Json :=
  .record [
    ("name", .ofText metadata.name),
    ("namespace", .ofText metadata.namespaceName),
    ("cluster", .ofText metadata.cluster),
    ("labels", .ofTextMap metadata.labels),
    ("creationTimestamp", .ofOption (fun instant => .ofText instant.toText) metadata.creation)]

def instantOfJson (json : Json) : Option Instant := json.asText.bind Instant.ofText

def ofJson (json : Json) : Option Metadata := do
  let fields ← json.asRecord ["name", "namespace", "cluster", "labels", "creationTimestamp"]
  some {
    name := ← fields.required "name" Json.asText
    namespaceName := ← fields.orElse "namespace" "" Json.asText
    cluster := ← fields.orElse "cluster" "" Json.asText
    labels := ← fields.orElse "labels" .empty Json.asTextMap
    creation := ← fields.orElse "creationTimestamp" none (Json.asOptional instantOfJson) }

end Metadata

/-- Reads a record of metadata and a specification. -/
def specifiedOfJson {Specification : Type} (decode : Json → Option Specification) (json : Json) :
    Option (Metadata × Specification) := do
  let fields ← json.asRecord ["metadata", "spec"]
  let metadata ← fields.required "metadata" Metadata.ofJson
  let specification ← fields.required "spec" decode
  some (metadata, specification)

/-- Writes a record of metadata and a specification. -/
def specifiedToJson (metadata : Metadata) (specification : Json) : Json :=
  .record [("metadata", metadata.toJson), ("spec", specification)]

namespace ResourceKind

def ofJson (json : Json) : Option ResourceKind := json.asChoice name all

end ResourceKind

namespace Tenant

def toJson (tenant : Tenant) : Json :=
  specifiedToJson tenant.metadata (.record [
    ("kafkaUser", .ofText tenant.kafkaUser),
    ("connectClusters", .array (tenant.connectClusters.map .ofText))])

def ofJson (json : Json) : Option Tenant := do
  let (metadata, kafkaUser, connectClusters) ← specifiedOfJson (fun json => do
    let fields ← json.asRecord ["kafkaUser", "connectClusters"]
    let kafkaUser ← fields.required "kafkaUser" Json.asText
    let connectClusters ← fields.orElse "connectClusters" [] (Json.asList Json.asText)
    some (kafkaUser, connectClusters)) json
  some { metadata, kafkaUser, connectClusters }

end Tenant

instance : Resource Tenant where
  encode := Tenant.toJson
  decode := Tenant.ofJson
  kind := .tenant
  metadata := Tenant.metadata
  withMetadata tenant metadata := { tenant with metadata }
  key tenant := tenant.name

namespace GrantedType

def all : List GrantedType := [.topic, .group, .connect, .transactionalId]

def name : GrantedType → String
  | .topic => "TOPIC"
  | .group => "GROUP"
  | .connect => "CONNECT"
  | .transactionalId => "TRANSACTIONAL_ID"

end GrantedType

namespace PatternType

def all : List PatternType := [.literal, .prefixed]

def name : PatternType → String
  | .literal => "LITERAL"
  | .prefixed => "PREFIXED"

end PatternType

namespace Permission

def all : List Permission := [.owner, .write, .read]

def name : Permission → String
  | .owner => "OWNER"
  | .write => "WRITE"
  | .read => "READ"

end Permission

namespace AccessControlEntry

def toJson (entry : AccessControlEntry) : Json :=
  specifiedToJson entry.metadata (.record [
    ("resourceType", .ofText entry.resourceType.name),
    ("resource", .ofText entry.resource),
    ("resourcePatternType", .ofText entry.patternType.name),
    ("permission", .ofText entry.permission.name),
    ("grantedTo", .ofText entry.grantedTo)])

/-- An entry without its metadata. -/
def ofSpecification (json : Json) : Option (Metadata → AccessControlEntry) := do
  let fields ← json.asRecord
    ["resourceType", "resource", "resourcePatternType", "permission", "grantedTo"]
  let resourceType ← fields.required "resourceType" (Json.asChoice GrantedType.name GrantedType.all)
  let resource ← fields.required "resource" Json.asText
  let patternType ←
    fields.required "resourcePatternType" (Json.asChoice PatternType.name PatternType.all)
  let permission ← fields.required "permission" (Json.asChoice Permission.name Permission.all)
  let grantedTo ← fields.required "grantedTo" Json.asText
  some fun metadata => { metadata, resourceType, resource, patternType, permission, grantedTo }

def ofJson (json : Json) : Option AccessControlEntry := do
  let (metadata, entryOf) ← specifiedOfJson ofSpecification json
  some (entryOf metadata)

end AccessControlEntry

instance : Resource AccessControlEntry where
  encode := AccessControlEntry.toJson
  decode := AccessControlEntry.ofJson
  kind := .accessControlEntry
  metadata := AccessControlEntry.metadata
  withMetadata entry metadata := { entry with metadata }
  key entry := entry.metadata.scopedKey

namespace Stream

def toJson (stream : Stream) : Json := .record [("metadata", stream.metadata.toJson)]

def ofJson (json : Json) : Option Stream := do
  let fields ← json.asRecord ["metadata"]
  let metadata ← fields.required "metadata" Metadata.ofJson
  some { metadata }

end Stream

instance : Resource Stream where
  encode := Stream.toJson
  decode := Stream.ofJson
  kind := .stream
  metadata := Stream.metadata
  withMetadata stream metadata := { stream with metadata }
  key stream := stream.metadata.scopedKey

namespace Connector

def toJson (connector : Connector) : Json :=
  specifiedToJson connector.metadata (.record [
    ("connectCluster", .ofText connector.connectCluster),
    ("config", .ofTextMap connector.config)])

def ofJson (json : Json) : Option Connector := do
  let (metadata, connectCluster, config) ← specifiedOfJson (fun json => do
    let fields ← json.asRecord ["connectCluster", "config"]
    let connectCluster ← fields.required "connectCluster" Json.asText
    let config ← fields.orElse "config" .empty Json.asTextMap
    some (connectCluster, config)) json
  some { metadata, connectCluster, config }

end Connector

instance : Resource Connector where
  encode := Connector.toJson
  decode := Connector.ofJson
  kind := .connector
  metadata := Connector.metadata
  withMetadata connector metadata := { connector with metadata }
  key connector := connector.metadata.scopedKey

namespace RoleBinding

def toJson (binding : RoleBinding) : Json :=
  specifiedToJson binding.metadata (.record [
    ("role", .record [
      ("resourceTypes", .array (binding.resourceTypes.map .ofText)),
      ("verbs", .array (binding.verbs.map fun verb => .ofText verb.name))]),
    ("subject", .record [
      ("subjectType", .ofText binding.subjectType),
      ("subjectName", .ofText binding.subjectName)])])

def roleOfJson (json : Json) : Option (List String × List Verb) := do
  let fields ← json.asRecord ["resourceTypes", "verbs"]
  let resourceTypes ← fields.required "resourceTypes" (Json.asList Json.asText)
  let verbs ← fields.required "verbs" (Json.asList (Json.asChoice Verb.name Verb.all))
  some (resourceTypes, verbs)

def subjectOfJson (json : Json) : Option (String × String) := do
  let fields ← json.asRecord ["subjectType", "subjectName"]
  let subjectType ← fields.orElse "subjectType" groupSubject Json.asText
  let subjectName ← fields.required "subjectName" Json.asText
  some (subjectType, subjectName)

def ofJson (json : Json) : Option RoleBinding := do
  let (metadata, (resourceTypes, verbs), subjectType, subjectName) ← specifiedOfJson (fun json => do
    let fields ← json.asRecord ["role", "subject"]
    let role ← fields.required "role" roleOfJson
    let subject ← fields.required "subject" subjectOfJson
    some (role, subject)) json
  some { metadata, resourceTypes, verbs, subjectType, subjectName }

end RoleBinding

instance : Resource RoleBinding where
  encode := RoleBinding.toJson
  decode := RoleBinding.ofJson
  kind := .roleBinding
  metadata := RoleBinding.metadata
  withMetadata binding metadata := { binding with metadata }
  key binding := binding.metadata.scopedKey

/-- Any JSON value can be stored as it is. -/
instance : Storable Json where
  encode := id
  decode := Json.asValue

/-- A number stored as itself. -/
structure Count where
  value : Nat
  deriving DecidableEq, Inhabited

instance : Storable Count where
  encode count := .ofNat count.value
  decode json := (json.asNatBelow (twoPower 32)).map Count.mk

end BrokerTenancy
