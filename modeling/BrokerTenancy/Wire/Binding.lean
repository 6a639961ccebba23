import BrokerTenancy.Acl.Filter
import BrokerTenancy.Wire.Field

/-!
Bindings and filters in wire messages. Choices are written as their codes. A code that no choice
has is no error: what holds it reads as no binding, or, in a filter, as any choice.
-/

namespace BrokerTenancy.Wire

/-- The part of a binding that names its resources. -/
structure ResourcePattern where
  resourceType : ResourceType
  resourceName : String
  patternType : PatternType
  deriving DecidableEq, Repr

def writeResource (binding : Binding) : Option (List UInt8) := do
  let name ← writeText binding.resourceName
  some (writeInteger 1 binding.resourceType.code ++ name ++
    writeInteger 1 binding.patternType.code)

def readResource (bytes : List UInt8) : Option (Option ResourcePattern × List UInt8) := do
  let (typeCode, rest) ← readInteger 1 bytes
  let (resourceName, rest) ← readText rest
  let (patternCode, rest) ← readInteger 1 rest
  let resource := do
    let resourceType ← ResourceType.ofCode typeCode
    let patternType ← PatternType.ofCode patternCode
    some { resourceType, resourceName, patternType }
  some (resource, rest)

/-- Writes the part of a binding that says who may do what. -/
def writeGrant (binding : Binding) : Option (List UInt8) := do
  let principal ← writeText binding.principal
  let host ← writeText binding.host
  some (principal ++ host ++ writeInteger 1 binding.operation.code ++
    writeInteger 1 binding.effect.code)

/-- Reads who may do what on a resource. -/
def readGrant (resource : Option ResourcePattern) (bytes : List UInt8) :
    Option (Option Binding × List UInt8) := do
  let (principal, rest) ← readText bytes
  let (host, rest) ← readText rest
  let (operationCode, rest) ← readInteger 1 rest
  let (effectCode, rest) ← readInteger 1 rest
  let binding := do
    let { resourceType, resourceName, patternType } ← resource
    let operation ← Operation.ofCode operationCode
    let effect ← Effect.ofCode effectCode
    some { resourceType, resourceName, patternType, principal, host, operation, effect }
  some (binding, rest)

def writeBinding (binding : Binding) : Option (List UInt8) := do
  let resource ← writeResource binding
  let grant ← writeGrant binding
  some (resource ++ grant)

def readBinding (bytes : List UInt8) : Option (Option Binding × List UInt8) := do
  let (resource, rest) ← readResource bytes
  readGrant resource rest

/-- The code in a filter for any choice. -/
def anyCode : Nat := 1

def writeChoice {Choice : Type} (code : Choice → Nat) (choice : Option Choice) : List UInt8 :=
  writeInteger 1 ((choice.elim anyCode code : Nat) : Int)

def writeFilter (filter : BindingFilter) : Option (List UInt8) := do
  let name ← writeOptionalText filter.resourceName
  let principal ← writeOptionalText filter.principal
  let host ← writeOptionalText filter.host
  some (writeChoice ResourceType.code filter.resourceType ++ name ++
    writeChoice PatternType.code filter.patternType ++ principal ++ host ++
    writeChoice Operation.code filter.operation ++ writeChoice Effect.code filter.effect)

def readFilter (bytes : List UInt8) : Option (BindingFilter × List UInt8) := do
  let (typeCode, rest) ← readInteger 1 bytes
  let (resourceName, rest) ← readOptionalText rest
  let (patternCode, rest) ← readInteger 1 rest
  let (principal, rest) ← readOptionalText rest
  let (host, rest) ← readOptionalText rest
  let (operationCode, rest) ← readInteger 1 rest
  let (effectCode, rest) ← readInteger 1 rest
  some ({
    resourceType := ResourceType.ofCode typeCode
    resourceName
    patternType := PatternType.ofCode patternCode
    principal
    host
    operation := Operation.ofCode operationCode
    effect := Effect.ofCode effectCode }, rest)

end BrokerTenancy.Wire
