import BrokerTenancy.Proofs.Catalog.Confinement

/-!
What an entry that is granted to everyone contributes to a cluster. Every tenant of the cluster is
handed the entry, and for topics and groups each of them makes the same bindings of it, for the
principal of everyone. The owners of connectors are the exception: there the principal is chosen
without a look at who the entry is granted to, and each tenant's own user gets a binding.
-/

namespace BrokerTenancy

/-! ## One entry -/

/-- The entry makes whom it is granted to the owner of connectors. -/
def AccessControlEntry.OwnsConnectors (entry : AccessControlEntry) : Prop :=
  entry.resourceType = .connect ∧ entry.permission = .owner

/-- With this binding a tenant's user reads in the consumer group of the connectors it owns. -/
def AccessControlEntry.connectorReading (entry : AccessControlEntry) (tenant : Tenant) : Binding :=
  .allow .group ("connect-" ++ entry.resource) entry.patternType ("User:" ++ tenant.kafkaUser) .read

theorem user_principal_everyone : Binding.userPrincipal "*" = "User:*" := by decide

section Entry

variable {entry : AccessControlEntry}

theorem AccessControlEntry.OwnsConnectors.expand_entry (owns : entry.OwnsConnectors)
    (tenant : Tenant) : expandEntry entry tenant = .ok [entry.connectorReading tenant] := by
  simp only [expandEntry, expandConnect, owns.1, owns.2]
  rfl

theorem expand_connect_spared (spared : ¬ entry.OwnsConnectors) (tenant : Tenant) :
    expandConnect entry tenant = [] := by
  rw [expandConnect]
  split
  · next kind owner => exact absurd ⟨kind, owner⟩ spared
  · rfl

theorem grantee_principal_public (everyone : entry.grantedTo = "*") (tenant : Tenant) :
    granteePrincipal entry tenant = "User:*" := by
  have isPublic : entry.isPublic = true := beq_iff_eq.mpr everyone
  rw [granteePrincipal, if_pos isPublic, everyone, user_principal_everyone]

/-- An entry for everyone is expanded without regard to the tenant, except for connectors. -/
theorem expand_entry_public (everyone : entry.grantedTo = "*") (spared : ¬ entry.OwnsConnectors)
    (first second : Tenant) : expandEntry entry first = expandEntry entry second := by
  have sameGrantee := (grantee_principal_public everyone first).trans
    (grantee_principal_public everyone second).symm
  rw [expandEntry, expandEntry]
  cases kind : entry.resourceType with
  | topic | group => simp only [expandResource, sameGrantee]
  | connect =>
      have noFirst := expand_connect_spared spared first
      have noSecond := expand_connect_spared spared second
      simp only [noFirst, noSecond]
  | transactionalId => rfl

theorem principal_of_expand_entry_public (everyone : entry.grantedTo = "*")
    (spared : ¬ entry.OwnsConnectors) {tenant : Tenant} {bindings : List Binding}
    (expanded : expandEntry entry tenant = .ok bindings) {binding : Binding}
    (member : binding ∈ bindings) : binding.principal = "User:*" := by
  -- The tenant does not matter, so it may be one whose own user is everyone.
  let nobody : Tenant := { tenant with kafkaUser := "*" }
  rcases expand_entry_ok entry nobody with ⟨others, same, each⟩
  rw [expand_entry_public everyone spared nobody tenant, expanded] at same
  cases same
  cases (each binding member).2 with
  | inl forEveryone => exact forEveryone
  | inr forNobody => exact forNobody.trans user_principal_everyone

end Entry

/-! ## A cluster -/

namespace Catalog

/-- What an entry contributes to a cluster: its bindings for the tenants there that it reaches. -/
def contributed (catalog : Catalog) (cluster : String) (entry : AccessControlEntry) :
    Set Binding :=
  {binding | ∃ tenant bindings, catalog.Hosts cluster tenant ∧ catalog.Grants tenant entry ∧
    expandEntry entry tenant = .ok bindings ∧ binding ∈ bindings}

/-- What is desired on a cluster comes from its entries, one by one, and from its streams. -/
theorem mem_desired_iff (catalog : Catalog) (cluster : String) (binding : Binding) :
    binding ∈ catalog.desired cluster ↔
      (∃ entry, binding ∈ catalog.contributed cluster entry) ∨
        ∃ tenant stream, catalog.Hosts cluster tenant ∧ catalog.Streams tenant stream ∧
          binding ∈ expandStream stream tenant := by
  constructor
  · intro ⟨tenant, hosts, asks⟩
    cases asks with
    | inl granted =>
        have ⟨entry, bindings, grants, expanded, member⟩ := granted
        exact .inl ⟨entry, tenant, bindings, hosts, grants, expanded, member⟩
    | inr streamed =>
        have ⟨stream, streams, member⟩ := streamed
        exact .inr ⟨tenant, stream, hosts, streams, member⟩
  · intro contributes
    cases contributes with
    | inl granted =>
        have ⟨entry, tenant, bindings, hosts, grants, expanded, member⟩ := granted
        exact ⟨tenant, hosts, .inl ⟨entry, bindings, grants, expanded, member⟩⟩
    | inr streamed =>
        have ⟨tenant, stream, hosts, streams, member⟩ := streamed
        exact ⟨tenant, hosts, .inr ⟨stream, streams, member⟩⟩

section Contributed

variable {catalog : Catalog} {cluster : String} {entry : AccessControlEntry}

theorem contributed_connectors (owns : entry.OwnsConnectors) :
    catalog.contributed cluster entry = {binding | ∃ tenant, catalog.Hosts cluster tenant ∧
      catalog.Grants tenant entry ∧ binding = entry.connectorReading tenant} := by
  ext binding
  constructor
  · intro ⟨tenant, bindings, hosts, grants, expanded, member⟩
    rw [owns.expand_entry] at expanded
    cases expanded
    exact ⟨tenant, hosts, grants, List.mem_singleton.mp member⟩
  · intro ⟨tenant, hosts, grants, same⟩
    exact ⟨tenant, _, hosts, grants, owns.expand_entry tenant, List.mem_singleton.mpr same⟩

theorem contributed_public (everyone : entry.grantedTo = "*") (spared : ¬ entry.OwnsConnectors)
    {tenant : Tenant} (hosts : catalog.Hosts cluster tenant) (grants : catalog.Grants tenant entry)
    {bindings : List Binding} (expanded : expandEntry entry tenant = .ok bindings) :
    catalog.contributed cluster entry = {binding | binding ∈ bindings} := by
  ext binding
  constructor
  · intro ⟨other, others, _, _, same, member⟩
    rw [expand_entry_public everyone spared other tenant, expanded] at same
    cases same
    exact member
  · intro member
    exact ⟨tenant, bindings, hosts, grants, expanded, member⟩

theorem connector_reading_for_everyone_iff (tenant : Tenant) :
    (entry.connectorReading tenant).principal = "User:*" ↔ tenant.kafkaUser = "*" := by
  rw [← user_principal_everyone]
  exact String.append_right_inj "User:"

end Contributed

/-- A public entry contributes bindings for everyone, the same whichever tenants there are, unless
it is on the owner of connectors: then every tenant that it reaches gets one for its own user. -/
theorem public_grant_for_everyone_iff (catalog : Catalog) (cluster : String)
    (entry : AccessControlEntry) (everyone : entry.grantedTo = "*") :
    ((∀ binding ∈ catalog.contributed cluster entry, binding.principal = "User:*") ↔
        (entry.OwnsConnectors → ∀ tenant, catalog.Hosts cluster tenant →
          catalog.Grants tenant entry → tenant.kafkaUser = "*")) ∧
      (entry.OwnsConnectors → catalog.contributed cluster entry =
        {binding | ∃ tenant, catalog.Hosts cluster tenant ∧ catalog.Grants tenant entry ∧
          binding = entry.connectorReading tenant}) ∧
      (¬ entry.OwnsConnectors → ∀ tenant bindings, catalog.Hosts cluster tenant →
        catalog.Grants tenant entry → expandEntry entry tenant = .ok bindings →
          catalog.contributed cluster entry = {binding | binding ∈ bindings}) ∧
      ∀ (settings : ClusterSettings) tenants desired, settings.name = cluster →
        Cycle.begin settings catalog.query = .ok (.describing tenants desired) →
          catalog.contributed cluster entry ⊆ desired.members := by
  refine ⟨⟨?_, ?_⟩, contributed_connectors, ?_, ?_⟩
  · intro forEveryone owns tenant hosts grants
    rw [contributed_connectors owns] at forEveryone
    apply (connector_reading_for_everyone_iff tenant).mp
    exact forEveryone _ ⟨tenant, hosts, grants, rfl⟩
  · intro unnamed binding contributes
    by_cases owns : entry.OwnsConnectors
    · rw [contributed_connectors owns] at contributes
      have ⟨tenant, hosts, grants, same⟩ := contributes
      rw [same]
      exact (connector_reading_for_everyone_iff tenant).mpr (unnamed owns tenant hosts grants)
    · have ⟨_, _, _, _, expanded, member⟩ := contributes
      exact principal_of_expand_entry_public everyone owns expanded member
  · intro spared tenant bindings hosts grants expanded
    exact contributed_public everyone spared hosts grants expanded
  · intro settings tenants desired named begun
    rcases Cycle.begin_ok begun with ⟨_, _, same, _, asked⟩
    cases same
    rw [asked, named]
    intro binding contributes
    exact (mem_desired_iff catalog cluster binding).mpr (.inl ⟨entry, contributes⟩)

/-- The bakery's catalog with one more entry. -/
def northWith (entry : AccessControlEntry) : Catalog :=
  northCatalog.change (.accessControlEntry (.register entry opening 1))

/-- An entry that lets everyone read. -/
def openRecipes : AccessControlEntry where
  metadata := {
    name := "recipes", namespaceName := "mill", cluster := "north", creation := some opening }
  resourceType := .topic
  resource := "flour"
  patternType := .prefixed
  permission := .read
  grantedTo := "*"

/-- An entry that makes everyone the owner of connectors. -/
def openSinks : AccessControlEntry where
  metadata := {
    name := "sinks", namespaceName := "mill", cluster := "north", creation := some opening }
  resourceType := .connect
  resource := "orders"
  patternType := .literal
  permission := .owner
  grantedTo := "*"

/-- The bakery and everyone else may read the flour. -/
theorem public_grant_for_everyone_flour :
    openRecipes.grantedTo = "*" ∧
      (northWith openRecipes).contributed "north" openRecipes =
        {.allow .topic "flour" .prefixed "User:*" .read} ∧
      ∀ binding ∈ (northWith openRecipes).contributed "north" openRecipes,
        binding.principal = "User:*" := by
  have everyone : openRecipes.grantedTo = "*" := rfl
  have spared : ¬ openRecipes.OwnsConnectors := by
    rw [AccessControlEntry.OwnsConnectors]
    decide
  have hosts : (northWith openRecipes).Hosts "north" bakery := ⟨by decide +kernel, rfl⟩
  have grants : (northWith openRecipes).Grants bakery openRecipes :=
    ⟨by decide +kernel, rfl, .inr everyone⟩
  have ⟨forEveryone, _, alike, _⟩ :=
    public_grant_for_everyone_iff (northWith openRecipes) "north" openRecipes everyone
  refine ⟨everyone, ?_, forEveryone.mpr fun owns => absurd owns spared⟩
  rw [alike spared bakery _ hosts grants rfl]
  ext binding
  exact List.mem_singleton

/-- An entry that makes everyone the owner of connectors lets the bakery's own user read. -/
theorem public_connectors_name_user :
    (¬ ∀ (catalog : Catalog) cluster (entry : AccessControlEntry), entry.grantedTo = "*" →
        ∀ binding ∈ catalog.contributed cluster entry, binding.principal = "User:*") ∧
      (northWith openSinks).query.tenantsOn "north" = .ok [bakery] ∧
      ((northWith openSinks).query.desiredBindings [bakery]).map SortedSet.toList =
        .ok [.allow .group "connect-orders" .literal "User:baker" .read] := by
  have hosts : (northWith openSinks).Hosts "north" bakery := ⟨by decide +kernel, rfl⟩
  have grants : (northWith openSinks).Grants bakery openSinks :=
    ⟨by decide +kernel, rfl, .inr rfl⟩
  have contributes : .allow .group "connect-orders" .literal "User:baker" .read ∈
      (northWith openSinks).contributed "north" openSinks :=
    ⟨bakery, _, hosts, grants, rfl, List.mem_singleton.mpr rfl⟩
  refine ⟨?_, by decide +kernel, by decide +kernel⟩
  intro always
  exact absurd (always _ _ _ rfl _ contributes) (by decide)

end Catalog

end BrokerTenancy
