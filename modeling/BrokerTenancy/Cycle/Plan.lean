import BrokerTenancy.Acl.Filter
import BrokerTenancy.Settings.Basic

/-!
What a cycle has to do. Of the bindings on the broker it looks at those of the managed resource
types and, if the settings say so, at those of managed principals only. The bindings that are
desired and not there are to be created, those that are there and not desired are to be removed.
-/

namespace BrokerTenancy

/-- The resource types whose bindings are kept in step. -/
def managedTypes : List ResourceType := [.topic, .group, .transactionalId]

/-- The bindings of the managed resource types, in the order given. -/
def onManagedTypes (bindings : List Binding) : List Binding :=
  bindings.filter fun binding => managedTypes.contains binding.resourceType

/-- The principals of tenants, and the one of every user. -/
def managedPrincipals (tenants : List Tenant) : List String :=
  Binding.everyUser :: tenants.map fun tenant => Binding.userPrincipal tenant.kafkaUser

structure Plan where
  desired : BindingSet
  /-- The bindings on the broker that the cycle looks at. -/
  actual : BindingSet
  /-- The bindings of managed resource types that it leaves alone. -/
  outOfScope : BindingSet
  deriving DecidableEq, Inhabited

namespace Plan

/-- The plan for bindings of managed types that a broker was found to hold. -/
def ofFound (settings : ClusterSettings) (tenants : List Tenant) (desired found : BindingSet) :
    Plan :=
  if settings.managedUsersOnly then
    let inScope (binding : Binding) : Bool :=
      (managedPrincipals tenants).contains binding.principal
    { desired
      actual := found.filter inScope
      outOfScope := found.filter fun binding => !inScope binding }
  else { desired, actual := found, outOfScope := .empty }

def toCreate (plan : Plan) : BindingSet := plan.desired.difference plan.actual

def toDelete (plan : Plan) : BindingSet := plan.actual.difference plan.desired

end Plan

end BrokerTenancy
