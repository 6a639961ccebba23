import BrokerTenancy.Acl.Expansion
import BrokerTenancy.Catalog.Basic

/-!
What the stored resources ask of a cluster's broker: the bindings of the entries that are granted
to its tenants and of the streams of its tenants, each binding once.
-/

namespace BrokerTenancy

/-- The questions that the stored resources answer. -/
structure ResourceQuery where
  tenantsOn : String → Outcome (List Tenant)
  entriesFor : Tenant → Outcome (List AccessControlEntry)
  streamsOf : Tenant → Outcome (List Stream)

/-- The answers of a catalog as it stands. -/
def Catalog.query (catalog : Catalog) : ResourceQuery where
  tenantsOn := catalog.tenants.onCluster
  entriesFor := catalog.grantedTo
  streamsOf := catalog.streams.ofTenant

namespace ResourceQuery

/-- The bindings that one tenant should have. -/
def tenantBindings (query : ResourceQuery) (tenant : Tenant) : Outcome (List Binding) := do
  let entries ← query.entriesFor tenant
  let granted ← entries.mapM fun entry => expandEntry entry tenant
  let streams ← query.streamsOf tenant
  return granted.flatten ++ streams.flatMap fun stream => expandStream stream tenant

/-- The bindings that some tenants should have together. -/
def desiredBindings (query : ResourceQuery) (tenants : List Tenant) : Outcome BindingSet := do
  let bindings ← tenants.mapM query.tenantBindings
  return .ofList bindings.flatten

end ResourceQuery

end BrokerTenancy
