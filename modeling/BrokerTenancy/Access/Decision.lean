import BrokerTenancy.Access.Path
import BrokerTenancy.Catalog.Basic

/-!
Who may do what. A request is allowed if it is about a namespace that is stored and its caller is an
admin or has a role binding for it; about everything else there is no opinion.
-/

namespace BrokerTenancy

inductive Decision where
  | allowed
  /-- No opinion; others decide. -/
  | unknown
  deriving DecidableEq, Inhabited, Repr

def Decision.name : Decision → String
  | .allowed => "Allowed"
  | .unknown => "Unknown"

structure Caller where
  name : String
  groups : List String := []
  roles : List String := []
  deriving DecidableEq, Inhabited, Repr

/-- The role of the members of the admin group. -/
def adminRole : String := "isAdmin()"

def Caller.isAdmin (caller : Caller) : Bool := caller.roles.contains adminRole

/-- The roles of a member of some groups. -/
def rolesOf (adminGroup : String) (groups : List String) : List String :=
  if groups.contains adminGroup then [adminRole] else []

/-- Whether a role binding lets its subject do something to a target. -/
def RoleBinding.permits (binding : RoleBinding) (target : RequestTarget) (verb : Verb) : Bool :=
  binding.metadata.namespaceName == target.namespaceName &&
    binding.resourceTypes.contains target.resourceType && binding.verbs.contains verb

def decideAccess (tenants : Store Tenant) (roleBindings : Store RoleBinding)
    (path method : String) (caller : Option Caller) : Outcome Decision :=
  match caller with
  | none => .ok .unknown
  | some caller =>
      match RequestTarget.ofPath path with
      | none => .ok .unknown
      | some target => do
          let tenant ← tenants.get target.namespaceName
          if tenant.isNone then return .unknown
          if caller.isAdmin then return .allowed
          match Verb.ofMethod method with
          | none => return .unknown
          | some verb =>
              let bindings ← Catalog.forSubjects roleBindings caller.groups
              return if bindings.any (·.permits target verb) then .allowed else .unknown

end BrokerTenancy
