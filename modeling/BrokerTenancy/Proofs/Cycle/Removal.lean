import BrokerTenancy.Proofs.Cycle.Revocation

/-!
Targeted removals. What an entry or a stream stands for is taken from the broker at once, without a
look at what other resources ask for: a removal takes the bindings of the expansion, all but the
refused ones, and nothing else. A binding that another resource asks for as well is gone too, until
the next cycle creates it again.
-/

namespace BrokerTenancy

/-- What asks for bindings of a tenant. -/
inductive Grant where
  | byEntry (entry : AccessControlEntry)
  | byStream (stream : Stream)

def Grant.expand (tenant : Tenant) : Grant → Outcome (List Binding)
  | .byEntry entry => expandEntry entry tenant
  | .byStream stream => .ok (expandStream stream tenant)

theorem Grant.expand_ok (grant : Grant) (tenant : Tenant) :
    ∃ expansion, grant.expand tenant = .ok expansion := by
  cases grant with
  | byEntry entry =>
      obtain ⟨expansion, expanded, -⟩ := expand_entry_ok entry tenant
      exact ⟨expansion, expanded⟩
  | byStream stream => exact ⟨expandStream stream tenant, rfl⟩

/-- The stored resources after a grant was removed from its store. -/
def Catalog.retract (catalog : Catalog) (timestamp : Int) : Grant → Catalog
  | .byEntry entry =>
      { catalog with
        accessControlEntries := (catalog.accessControlEntries.retract entry timestamp).1 }
  | .byStream stream =>
      { catalog with streams := (catalog.streams.retract stream timestamp).1 }

namespace Broker

end Broker

namespace Site

def removeGrant (site : Site) (tenant : Tenant) : Grant → Site × Outcome (List Binding)
  | .byEntry entry => site.removeEntry tenant entry
  | .byStream stream => site.removeStream tenant stream

variable {site : Site}

theorem remove_grant_eq {tenant : Tenant} {grant : Grant} {expansion : List Binding}
    (expanded : grant.expand tenant = .ok expansion) :
    site.removeGrant tenant grant = site.remove expansion := by
  cases grant with
  | byEntry entry =>
      change expandEntry entry tenant = .ok expansion at expanded
      simp only [removeGrant, removeEntry, expanded]
  | byStream stream =>
      cases expanded
      rfl

end Site

namespace Undertaking

end Undertaking

namespace Site

def shopTenant : Tenant where
  metadata := { name := "shop", cluster := "east" }
  kafkaUser := "till"

def ordersEntry (name : String) (permission : Permission) : AccessControlEntry where
  metadata := { name, namespaceName := "shop", cluster := "east" }
  resourceType := .topic
  resource := "orders"
  patternType := .literal
  permission
  grantedTo := "shop"

/-- The grant to read the orders, beside the one to own them. -/
def readingGrant : Grant := .byEntry (ordersEntry "reading" .read)

/-- A shop that owns the orders and may read them by a second entry. -/
def twiceGranted : Catalog :=
  { Upkeep.openShop with
    accessControlEntries :=
      Upkeep.followed (serving [ordersEntry "owning" .owner, ordersEntry "reading" .read]) }

end Site

end BrokerTenancy
