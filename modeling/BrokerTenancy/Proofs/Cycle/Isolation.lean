import BrokerTenancy.Proofs.Cycle.Synchronization

/-!
Clusters do not get in each other's way: two catalogs that hold the same tenants, entries and
streams of a cluster lead to the same cycle there, whatever else they hold. The two cycles may list
their tenants in different orders, which nothing that they do shows.
-/

namespace BrokerTenancy

namespace Catalog

/-- Two catalogs hold the same resources of a cluster, under whatever keys. -/
structure AlikeOn (cluster : String) (first second : Catalog) : Prop where
  tenants : ∀ tenant : Tenant, tenant.metadata.cluster = cluster →
    (tenant ∈ first.tenants.store.snapshot.values ↔
      tenant ∈ second.tenants.store.snapshot.values)
  entries : ∀ entry : AccessControlEntry, entry.metadata.cluster = cluster →
    (entry ∈ first.accessControlEntries.store.snapshot.values ↔
      entry ∈ second.accessControlEntries.store.snapshot.values)
  streams : ∀ stream : Stream, stream.metadata.cluster = cluster →
    (stream ∈ first.streams.store.snapshot.values ↔
      stream ∈ second.streams.store.snapshot.values)

variable {cluster : String} {first second : Catalog}

theorem AlikeOn.hosts (alike : AlikeOn cluster first second) (tenant : Tenant) :
    first.Hosts cluster tenant ↔ second.Hosts cluster tenant := by
  constructor
  · rintro ⟨stored, here⟩
    exact ⟨(alike.tenants tenant here).mp stored, here⟩
  · rintro ⟨stored, here⟩
    exact ⟨(alike.tenants tenant here).mpr stored, here⟩

theorem AlikeOn.asks (alike : AlikeOn cluster first second) {tenant : Tenant}
    (here : tenant.metadata.cluster = cluster) (binding : Binding) :
    first.Asks tenant binding ↔ second.Asks tenant binding := by
  have grants (entry : AccessControlEntry) :
      first.Grants tenant entry ↔ second.Grants tenant entry := by
    unfold Grants
    rw [and_congr_left]
    rintro ⟨same, -⟩
    exact alike.entries entry (same.trans here)
  have runs (stream : Stream) : first.Streams tenant stream ↔ second.Streams tenant stream := by
    unfold Streams
    rw [and_congr_left]
    rintro ⟨-, same⟩
    exact alike.streams stream (same.trans here)
  simp only [Asks, grants, runs]

/-- What is desired on a cluster depends on its own resources only. -/
theorem AlikeOn.desired (alike : AlikeOn cluster first second) :
    first.desired cluster = second.desired cluster := by
  ext binding
  constructor
  · rintro ⟨tenant, hosts, asks⟩
    exact ⟨tenant, (alike.hosts tenant).mp hosts, (alike.asks hosts.2 binding).mp asks⟩
  · rintro ⟨tenant, hosts, asks⟩
    exact ⟨tenant, (alike.hosts tenant).mpr hosts, (alike.asks hosts.2 binding).mpr asks⟩

end Catalog

/-! ## Two runs of a cycle -/

section Runs

variable {mine others : List Tenant} {desired : BindingSet}

theorem managed_principals_alike (same : ∀ tenant, tenant ∈ mine ↔ tenant ∈ others)
    (principal : String) :
    (managedPrincipals mine).contains principal =
      (managedPrincipals others).contains principal := by
  rw [Bool.eq_iff_iff, Plan.mem_managed_principals, Plan.mem_managed_principals]
  simp only [same]

/-- An answer of the broker makes the same of two cycles whose tenants are listed in other ways. -/
theorem Cycle.answered_alike (settings : ClusterSettings) (tally : Tally)
    (same : ∀ tenant, tenant ∈ mine ↔ tenant ∈ others) (answer : Outcome (List Binding)) :
    answered settings tally (.describing mine desired) (.described answer) =
      answered settings tally (.describing others desired) (.described answer) := by
  cases answer with
  | error fault => rfl
  | ok bindings =>
      simp only [answered, Plan.ofFound, managed_principals_alike same]

theorem Broker.perform_within_describe (broker : Broker) (bound : Nat) (late : Fault)
    (filter : BindingFilter) :
    ∃ after answer, broker.performWithin bound late (.describe filter) =
      (after, .described answer) := by
  unfold performWithin perform
  split
  · exact ⟨_, _, rfl⟩
  · split
    · exact ⟨_, _, rfl⟩
    · exact ⟨_, _, rfl⟩

namespace Site

/-- The first call of the two cycles is the same, and so is everything behind its answer. -/
theorem advance_alike (site : Site) (same : ∀ tenant, tenant ∈ mine ↔ tenant ∈ others) :
    (site.started (.describing mine desired)).advance =
      (site.started (.describing others desired)).advance := by
  rcases site.broker.perform_within_describe site.managed.timeout site.managed.timedOut .any with
    ⟨broker, answer, told⟩
  have late (cycle : Cycle) :
      { site.managed with cycle := some cycle }.timedOut = site.managed.timedOut := rfl
  simp only [advance, started, exchange, Cycle.call, late, told, ManagedCluster.answered,
    Cycle.answered_alike _ _ same]
  generalize Cycle.answered _ _ _ _ = turn
  rcases turn with ⟨turn, tally⟩
  cases turn <;> rfl

theorem run_alike {first second : ResourceQuery} (site : Site)
    (same : ∀ tenant, tenant ∈ mine ↔ tenant ∈ others)
    (firstBegun : Cycle.begin site.managed.settings first = .ok (.describing mine desired))
    (secondBegun : Cycle.begin site.managed.settings second = .ok (.describing others desired)) :
    site.run first = site.run second := by
  by_cases manages : site.managed.settings.manageAcls = true
  · cases idle : site.managed.cycle with
    | none =>
        rw [run_started manages idle firstBegun, run_started manages idle secondBegun]
        simp only [Cycle.callsLeft, advanceFor, advance_alike site same]
    | some cycle =>
        simp only [run, trigger, ManagedCluster.trigger, manages, idle, Bool.not_true,
          Bool.false_eq_true, if_false]
  · simp only [run, trigger, ManagedCluster.trigger, manages, Bool.not_false, if_true]

/-- Clusters do not interfere: what is desired on one, and what a cycle does and reports there, is
the same with any resources of the others. -/
theorem run_isolated {first second : Catalog} (firstServes : first.Serves)
    (secondServes : second.Serves) (site : Site)
    (alike : Catalog.AlikeOn site.managed.settings.name first second) :
    (∃ mine others desired,
        Cycle.begin site.managed.settings first.query = .ok (.describing mine desired) ∧
        Cycle.begin site.managed.settings second.query = .ok (.describing others desired) ∧
        desired.members = first.desired site.managed.settings.name ∧
        desired.members = second.desired site.managed.settings.name) ∧
      site.run first.query = site.run second.query := by
  rcases Cycle.begin_of_serves site.managed.settings firstServes with ⟨_, firstBegun⟩
  rcases Cycle.begin_of_serves site.managed.settings secondServes with ⟨_, secondBegun⟩
  rcases Cycle.begin_ok firstBegun with ⟨mine, desired, rfl, firstHosts, firstDesired⟩
  rcases Cycle.begin_ok secondBegun with ⟨others, wanted, rfl, secondHosts, secondDesired⟩
  have asked : desired.members = wanted.members := by
    rw [firstDesired, alike.desired, secondDesired]
  have whole : wanted = desired := SortedSet.eq_of_members asked.symm
  subst whole
  have same (tenant : Tenant) : tenant ∈ mine ↔ tenant ∈ others := by
    rw [firstHosts, secondHosts, alike.hosts]
  refine ⟨⟨mine, others, _, firstBegun, secondBegun, firstDesired, secondDesired⟩, ?_⟩
  exact run_alike site same firstBegun secondBegun

/-- A tenant of another cluster with the same user. -/
def depot : Tenant where
  metadata := { name := "depot", cluster := "west" }
  kafkaUser := "till"

/-- An entry of another cluster that is granted to everyone. -/
def westernOrders : AccessControlEntry where
  metadata := { name := "all", namespaceName := "shop", cluster := "west" }
  resourceType := .topic
  resource := "orders"
  patternType := .literal
  permission := .owner
  grantedTo := "*"

def westernFlow : Stream where
  metadata := { name := "drain", namespaceName := "shop", cluster := "west" }

def crowdedCatalog : Catalog where
  tenants := serving (depot :: shopCatalog.tenants.store.snapshot.values)
  accessControlEntries :=
    serving (westernOrders :: shopCatalog.accessControlEntries.store.snapshot.values)
  streams := serving (westernFlow :: shopCatalog.streams.store.snapshot.values)
  connectors := serving []
  roleBindings := serving []

theorem run_isolated_crowded :
    (shopCatalog.Serves ∧ crowdedCatalog.Serves) ∧
      Catalog.AlikeOn shopSite.managed.settings.name shopCatalog crowdedCatalog ∧
      shopSite.run shopCatalog.query = shopSite.run crowdedCatalog.query := by
  have serve : shopCatalog.Serves ∧ crowdedCatalog.Serves := ⟨⟨rfl, rfl, rfl⟩, ⟨rfl, rfl, rfl⟩⟩
  have tenants : crowdedCatalog.tenants.store.snapshot.values =
      depot :: shopCatalog.tenants.store.snapshot.values := by decide +kernel
  have entries : crowdedCatalog.accessControlEntries.store.snapshot.values =
      westernOrders :: shopCatalog.accessControlEntries.store.snapshot.values := by
    decide +kernel
  have streams : crowdedCatalog.streams.store.snapshot.values =
      westernFlow :: shopCatalog.streams.store.snapshot.values := by decide +kernel
  have alike : Catalog.AlikeOn shopSite.managed.settings.name shopCatalog crowdedCatalog := by
    refine ⟨?_, ?_, ?_⟩
    · intro tenant here
      rw [tenants, List.mem_cons, or_iff_right]
      rintro rfl
      exact absurd here (by decide)
    · intro entry here
      rw [entries, List.mem_cons, or_iff_right]
      rintro rfl
      exact absurd here (by decide)
    · intro stream here
      rw [streams, List.mem_cons, or_iff_right]
      rintro rfl
      exact absurd here (by decide)
  exact ⟨serve, alike, (run_isolated serve.1 serve.2 shopSite alike).2⟩

end Site

end Runs

end BrokerTenancy
