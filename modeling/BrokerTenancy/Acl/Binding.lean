import BrokerTenancy.Resource.Json
import BrokerTenancy.Sorted.Set

/-!
Access control bindings as a broker keeps them: one operation on one resource pattern, allowed or
denied to one principal from one host. Bindings are ordered field by field, choices in the order
in which they are declared here and texts by their characters.
-/

namespace BrokerTenancy

inductive ResourceType where
  | topic
  | group
  | cluster
  | transactionalId
  | delegationToken
  deriving DecidableEq, Inhabited, Repr

namespace ResourceType

def all : List ResourceType := [.topic, .group, .cluster, .transactionalId, .delegationToken]

def name : ResourceType → String
  | .topic => "TOPIC"
  | .group => "GROUP"
  | .cluster => "CLUSTER"
  | .transactionalId => "TRANSACTIONAL_ID"
  | .delegationToken => "DELEGATION_TOKEN"

/-- The number of a resource type in the admin protocol. -/
def code : ResourceType → Nat
  | .topic => 2
  | .group => 3
  | .cluster => 4
  | .transactionalId => 5
  | .delegationToken => 6

def ofCode (code : Int) : Option ResourceType := all.find? fun choice => (choice.code : Int) == code

end ResourceType

namespace PatternType

/-- The number of a pattern type in the admin protocol. -/
def code : PatternType → Nat
  | .literal => 3
  | .prefixed => 4

def ofCode (code : Int) : Option PatternType := all.find? fun choice => (choice.code : Int) == code

end PatternType

inductive Operation where
  | all
  | read
  | write
  | create
  | delete
  | alter
  | describe
  | clusterAction
  | describeConfigs
  | alterConfigs
  | idempotentWrite
  deriving DecidableEq, Inhabited, Repr

namespace Operation

def every : List Operation :=
  [.all, .read, .write, .create, .delete, .alter, .describe, .clusterAction, .describeConfigs,
    .alterConfigs, .idempotentWrite]

def name : Operation → String
  | .all => "ALL"
  | .read => "READ"
  | .write => "WRITE"
  | .create => "CREATE"
  | .delete => "DELETE"
  | .alter => "ALTER"
  | .describe => "DESCRIBE"
  | .clusterAction => "CLUSTER_ACTION"
  | .describeConfigs => "DESCRIBE_CONFIGS"
  | .alterConfigs => "ALTER_CONFIGS"
  | .idempotentWrite => "IDEMPOTENT_WRITE"

/-- The number of an operation in the admin protocol. -/
def code : Operation → Nat
  | .all => 2
  | .read => 3
  | .write => 4
  | .create => 5
  | .delete => 6
  | .alter => 7
  | .describe => 8
  | .clusterAction => 9
  | .describeConfigs => 10
  | .alterConfigs => 11
  | .idempotentWrite => 12

def ofCode (code : Int) : Option Operation := every.find? fun choice => (choice.code : Int) == code

end Operation

/-- Whether a binding lets its principal in or keeps it out. -/
inductive Effect where
  | allow
  | deny
  deriving DecidableEq, Inhabited, Repr

namespace Effect

def all : List Effect := [.allow, .deny]

def name : Effect → String
  | .allow => "ALLOW"
  | .deny => "DENY"

/-- The place of an effect in the order of bindings. -/
def rank : Effect → Nat
  | .allow => 0
  | .deny => 1

/-- The number of an effect in the admin protocol. -/
def code : Effect → Nat
  | .deny => 2
  | .allow => 3

def ofCode (code : Int) : Option Effect := all.find? fun choice => (choice.code : Int) == code

end Effect

structure Binding where
  resourceType : ResourceType
  resourceName : String
  patternType : PatternType
  principal : String
  host : String
  operation : Operation
  effect : Effect
  deriving DecidableEq, Inhabited, Repr

namespace Binding

/-- Field by field; the protocol numbers follow the order of declaration except for effects. -/
def order : Binding → Binding → Ordering :=
  compareLex (compareOn (·.resourceType.code)) <|
  compareLex (compareOn (·.resourceName)) <|
  compareLex (compareOn (·.patternType.code)) <|
  compareLex (compareOn (·.principal)) <|
  compareLex (compareOn (·.host)) <|
  compareLex (compareOn (·.operation.code)) (compareOn (·.effect.rank))

instance : Ord Binding := ⟨order⟩

instance : Std.TransCmp order := inferInstanceAs (Std.TransCmp (compareLex _ _))

instance : Std.TransOrd Binding := inferInstanceAs (Std.TransCmp order)

theorem resource_type_of_code {left right : ResourceType} (same : left.code = right.code) :
    left = right := by
  cases left <;> cases right <;> simp_all [ResourceType.code]

theorem pattern_type_of_code {left right : PatternType} (same : left.code = right.code) :
    left = right := by
  cases left <;> cases right <;> simp_all [PatternType.code]

theorem operation_of_code {left right : Operation} (same : left.code = right.code) :
    left = right := by
  cases left <;> cases right <;> simp_all [Operation.code]

theorem effect_of_rank {left right : Effect} (same : left.rank = right.rank) : left = right := by
  cases left <;> cases right <;> simp_all [Effect.rank]

instance : Std.LawfulEqOrd Binding where
  compare_self := (inferInstance : Std.ReflCmp order).compare_self
  eq_of_compare {left right} equal := by
    have parts : order left right = .eq := equal
    simp only [order, compareLex_eq_eq, compareOn, Std.LawfulEqOrd.compare_eq_iff_eq] at parts
    obtain ⟨type, name, pattern, principal, host, operation, effect⟩ := parts
    cases left; cases right
    simp only [Binding.mk.injEq]
    exact ⟨resource_type_of_code type, name, pattern_type_of_code pattern, principal, host,
      operation_of_code operation, effect_of_rank effect⟩

def userPrincipal (user : String) : String := "User:" ++ user

/-- The principal that stands for every user. -/
def everyUser : String := userPrincipal "*"

/-- The host that stands for every host. -/
def everyHost : String := "*"

/-- A binding that allows an operation from every host. -/
def allow (resourceType : ResourceType) (resourceName : String) (patternType : PatternType)
    (principal : String) (operation : Operation) : Binding :=
  { resourceType, resourceName, patternType, principal, host := everyHost, operation
    effect := .allow }

/-- The text that names a binding in reports and errors. -/
def shown (binding : Binding) : String :=
  "(pattern=ResourcePattern(resourceType=" ++ binding.resourceType.name ++
    ", name=" ++ binding.resourceName ++ ", patternType=" ++ binding.patternType.name ++
    "), entry=(principal=" ++ binding.principal ++ ", host=" ++ binding.host ++
    ", operation=" ++ binding.operation.name ++ ", permissionType=" ++ binding.effect.name ++ "))"

/-- The JSON field names of bindings and filters. -/
def fieldNames : List String :=
  ["resource_type", "resource_name", "pattern_type", "principal", "host", "operation",
    "permission_type"]

def toJson (binding : Binding) : Json :=
  .record [
    ("resource_type", .ofText binding.resourceType.name),
    ("resource_name", .ofText binding.resourceName),
    ("pattern_type", .ofText binding.patternType.name),
    ("principal", .ofText binding.principal),
    ("host", .ofText binding.host),
    ("operation", .ofText binding.operation.name),
    ("permission_type", .ofText binding.effect.name)]

def ofJson (json : Json) : Option Binding := do
  let fields ← json.asRecord fieldNames
  some {
    resourceType := ←
      fields.required "resource_type" (Json.asChoice ResourceType.name ResourceType.all)
    resourceName := ← fields.required "resource_name" Json.asText
    patternType := ←
      fields.required "pattern_type" (Json.asChoice PatternType.name PatternType.all)
    principal := ← fields.required "principal" Json.asText
    host := ← fields.required "host" Json.asText
    operation := ← fields.required "operation" (Json.asChoice Operation.name Operation.every)
    effect := ← fields.required "permission_type" (Json.asChoice Effect.name Effect.all) }

end Binding

abbrev BindingSet := SortedSet Binding

end BrokerTenancy
