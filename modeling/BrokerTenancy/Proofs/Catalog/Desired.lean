import BrokerTenancy.Catalog.Query
import BrokerTenancy.Proofs.Acl.Expansion
import BrokerTenancy.Proofs.Sorted.Set

/-!
What the stored resources ask of the broker of a cluster, said with the resources themselves: which
tenants are on the cluster, which entries are granted to them and which streams are theirs. The
queries of a catalog find exactly these.
-/

namespace BrokerTenancy

namespace Outcome

variable {Item Value : Type}

theorem bind_eq_ok {first : Outcome Item} {next : Item → Outcome Value} {value : Value} :
    (first >>= next) = .ok value ↔ ∃ item, first = .ok item ∧ next item = .ok value := by
  cases first <;> simp [bind, Except.bind]

theorem pure_eq_ok {found value : Value} :
    (pure found : Outcome Value) = .ok value ↔ found = value := by
  simp [pure, Except.pure]

/-- A list is worked through without a fault when each of its items is. -/
theorem map_eq_ok {work : Item → Outcome Value} {items : List Item} {values : List Value} :
    items.mapM work = .ok values ↔ items.map work = values.map .ok := by
  induction items generalizing values with
  | nil =>
      rw [List.mapM_nil, pure_eq_ok, List.map_nil, eq_comm, eq_comm (a := []), List.map_eq_nil_iff]
  | cons head rest induction =>
      simp only [List.mapM_cons, bind_eq_ok, pure_eq_ok, induction, List.map_cons]
      cases values with
      | nil => simp
      | cons first others =>
          simp only [List.map_cons, List.cons.injEq]
          constructor
          · rintro ⟨value, atHead, values, atRest, rfl, rfl⟩
            exact ⟨atHead, atRest⟩
          · rintro ⟨atHead, atRest⟩
            exact ⟨first, atHead, others, atRest, rfl, rfl⟩

theorem mem_of_map_ok {work : Item → Outcome Value} {items : List Item} {values : List Value}
    (done : items.mapM work = .ok values) (value : Value) :
    value ∈ values ↔ ∃ item ∈ items, work item = .ok value := by
  rw [← List.mem_map, map_eq_ok.mp done]
  simp only [List.mem_map, Except.ok.injEq, exists_eq_right]

theorem ok_of_map_ok {work : Item → Outcome Value} {items : List Item} {values : List Value}
    (done : items.mapM work = .ok values) {item : Item} (member : item ∈ items) :
    ∃ value, work item = .ok value := by
  have worked := List.mem_map_of_mem (f := work) member
  rw [map_eq_ok.mp done, List.mem_map] at worked
  obtain ⟨value, _, same⟩ := worked
  exact ⟨value, same.symm⟩

theorem map_ok_of_each {work : Item → Outcome Value} {items : List Item}
    (each : ∀ item ∈ items, ∃ value, work item = .ok value) :
    ∃ values, items.mapM work = .ok values := by
  induction items with
  | nil => exact ⟨[], rfl⟩
  | cons head rest induction =>
      obtain ⟨value, atHead⟩ := each head List.mem_cons_self
      obtain ⟨values, atRest⟩ := induction fun item member =>
        each item (List.mem_cons_of_mem _ member)
      refine ⟨value :: values, ?_⟩
      simp only [List.mapM_cons, atHead, atRest, bind, Except.bind, pure, Except.pure]

end Outcome

theorem Store.list_ok {Value : Type} {store : Store Value} {values : List Value}
    (found : store.list = .ok values) : values = store.snapshot.values := by
  rw [list, Outcome.bind_eq_ok] at found
  obtain ⟨_, _, same⟩ := found
  exact (Outcome.pure_eq_ok.mp same).symm

theorem Store.list_filtered_ok {Value : Type} {store : Store Value} {test : Value → Bool}
    {values : List Value} (found : store.listFiltered test = .ok values) (value : Value) :
    value ∈ values ↔ value ∈ store.snapshot.values ∧ test value = true := by
  rw [listFiltered, Outcome.bind_eq_ok] at found
  obtain ⟨listed, all, same⟩ := found
  rw [← Outcome.pure_eq_ok.mp same, list_ok all, List.mem_filter]

theorem Store.list_filtered_serving {Value : Type} {store : Store Value}
    (serving : store.ensureServing = .ok ()) (test : Value → Bool) :
    ∃ values, store.listFiltered test = .ok values := by
  refine ⟨store.snapshot.values.filter test, ?_⟩
  simp only [listFiltered, list, serving, bind, Except.bind, pure, Except.pure]

namespace Catalog

/-- A tenant is stored for a cluster. -/
def Hosts (catalog : Catalog) (cluster : String) (tenant : Tenant) : Prop :=
  tenant ∈ catalog.tenants.store.snapshot.values ∧ tenant.metadata.cluster = cluster

/-- An entry is stored on the cluster of a tenant and granted to its name or to everyone. -/
def Grants (catalog : Catalog) (tenant : Tenant) (entry : AccessControlEntry) : Prop :=
  entry ∈ catalog.accessControlEntries.store.snapshot.values ∧
    entry.metadata.cluster = tenant.metadata.cluster ∧
    (entry.grantedTo = tenant.metadata.name ∨ entry.grantedTo = "*")

/-- A stream is stored for a tenant on its cluster. -/
def Streams (catalog : Catalog) (tenant : Tenant) (stream : Stream) : Prop :=
  stream ∈ catalog.streams.store.snapshot.values ∧
    stream.metadata.namespaceName = tenant.metadata.name ∧
    stream.metadata.cluster = tenant.metadata.cluster

/-- A binding is one of those that an entry or a stream stands for with a tenant. -/
def Asks (catalog : Catalog) (tenant : Tenant) (binding : Binding) : Prop :=
  (∃ entry bindings, catalog.Grants tenant entry ∧ expandEntry entry tenant = .ok bindings ∧
      binding ∈ bindings) ∨
    ∃ stream, catalog.Streams tenant stream ∧ binding ∈ expandStream stream tenant

/-- The bindings that the stored resources ask for on a cluster. -/
def desired (catalog : Catalog) (cluster : String) : Set Binding :=
  {binding | ∃ tenant, catalog.Hosts cluster tenant ∧ catalog.Asks tenant binding}

variable {catalog : Catalog}

theorem mem_of_tenants_on {cluster : String} {tenants : List Tenant}
    (found : catalog.query.tenantsOn cluster = .ok tenants) (tenant : Tenant) :
    tenant ∈ tenants ↔ catalog.Hosts cluster tenant := by
  rw [Store.list_filtered_ok found, beq_iff_eq]
  rfl

theorem mem_of_entries_for {tenant : Tenant} {entries : List AccessControlEntry}
    (found : catalog.query.entriesFor tenant = .ok entries) (entry : AccessControlEntry) :
    entry ∈ entries ↔ catalog.Grants tenant entry := by
  rw [Store.list_filtered_ok found, AccessControlEntry.isGrantedTo, Bool.and_eq_true,
    Bool.or_eq_true, beq_iff_eq, beq_iff_eq, AccessControlEntry.isPublic, beq_iff_eq]
  rfl

theorem mem_of_streams_of {tenant : Tenant} {streams : List Stream}
    (found : catalog.query.streamsOf tenant = .ok streams) (stream : Stream) :
    stream ∈ streams ↔ catalog.Streams tenant stream := by
  rw [Store.list_filtered_ok found, Bool.and_eq_true, beq_iff_eq, beq_iff_eq]
  rfl

theorem mem_of_tenant_bindings {tenant : Tenant} {bindings : List Binding}
    (found : catalog.query.tenantBindings tenant = .ok bindings) (binding : Binding) :
    binding ∈ bindings ↔ catalog.Asks tenant binding := by
  simp only [ResourceQuery.tenantBindings, Outcome.bind_eq_ok, Outcome.pure_eq_ok] at found
  obtain ⟨entries, atEntries, granted, expanded, streams, atStreams, rfl⟩ := found
  rw [List.mem_append, List.mem_flatten, List.mem_flatMap]
  apply or_congr
  · constructor
    · rintro ⟨part, inGranted, inPart⟩
      obtain ⟨entry, inEntries, atEntry⟩ := (Outcome.mem_of_map_ok expanded part).mp inGranted
      exact ⟨entry, part, (mem_of_entries_for atEntries entry).mp inEntries, atEntry, inPart⟩
    · rintro ⟨entry, part, grants, atEntry, inPart⟩
      have inEntries := (mem_of_entries_for atEntries entry).mpr grants
      exact ⟨part, (Outcome.mem_of_map_ok expanded part).mpr ⟨entry, inEntries, atEntry⟩, inPart⟩
  · simp only [mem_of_streams_of atStreams]

theorem mem_of_desired_bindings {cluster : String} {tenants : List Tenant} {bindings : BindingSet}
    (hosted : catalog.query.tenantsOn cluster = .ok tenants)
    (found : catalog.query.desiredBindings tenants = .ok bindings) :
    bindings.members = catalog.desired cluster := by
  simp only [ResourceQuery.desiredBindings, Outcome.bind_eq_ok, Outcome.pure_eq_ok] at found
  obtain ⟨parts, worked, rfl⟩ := found
  ext binding
  rw [SortedSet.mem_members, SortedSet.mem_of_list, List.mem_flatten]
  constructor
  · rintro ⟨part, inParts, inPart⟩
    obtain ⟨tenant, inTenants, atTenant⟩ := (Outcome.mem_of_map_ok worked part).mp inParts
    exact ⟨tenant, (mem_of_tenants_on hosted tenant).mp inTenants,
      (mem_of_tenant_bindings atTenant binding).mp inPart⟩
  · rintro ⟨tenant, hosts, asks⟩
    have inTenants := (mem_of_tenants_on hosted tenant).mpr hosts
    -- No tenant failed, so this one has a part of its own.
    obtain ⟨part, atTenant⟩ := Outcome.ok_of_map_ok worked inTenants
    exact ⟨part, (Outcome.mem_of_map_ok worked part).mpr ⟨tenant, inTenants, atTenant⟩,
      (mem_of_tenant_bindings atTenant binding).mpr asks⟩

/-- The stores that a cycle asks serve. -/
structure Serves (catalog : Catalog) : Prop where
  tenants : catalog.tenants.store.ensureServing = .ok ()
  entries : catalog.accessControlEntries.store.ensureServing = .ok ()
  streams : catalog.streams.store.ensureServing = .ok ()

theorem Serves.tenants_on (serves : catalog.Serves) (cluster : String) :
    ∃ tenants, catalog.query.tenantsOn cluster = .ok tenants :=
  Store.list_filtered_serving serves.tenants _

/-- Serving stores tell what is desired, because every entry has an expansion. -/
theorem Serves.desired_bindings (serves : catalog.Serves) (tenants : List Tenant) :
    ∃ desired, catalog.query.desiredBindings tenants = .ok desired := by
  have each : ∀ tenant ∈ tenants, ∃ bindings,
      catalog.query.tenantBindings tenant = .ok bindings := by
    intro tenant _
    obtain ⟨entries, atEntries⟩ : ∃ entries, catalog.query.entriesFor tenant = .ok entries :=
      Store.list_filtered_serving serves.entries _
    obtain ⟨streams, atStreams⟩ : ∃ streams, catalog.query.streamsOf tenant = .ok streams :=
      Store.list_filtered_serving serves.streams _
    obtain ⟨granted, expanded⟩ :
        ∃ granted, (entries.mapM fun entry => expandEntry entry tenant) = .ok granted := by
      apply Outcome.map_ok_of_each
      intro entry _
      obtain ⟨bindings, atEntry, -⟩ := expand_entry_ok entry tenant
      exact ⟨bindings, atEntry⟩
    refine ⟨granted.flatten ++ streams.flatMap fun stream => expandStream stream tenant, ?_⟩
    simp only [ResourceQuery.tenantBindings, atEntries, expanded, atStreams, bind, Except.bind,
      pure, Except.pure]
  obtain ⟨parts, worked⟩ := Outcome.map_ok_of_each each
  refine ⟨.ofList parts.flatten, ?_⟩
  simp only [ResourceQuery.desiredBindings, worked, bind, Except.bind, pure, Except.pure]

/-- What a tenant should have is of the types that are kept in step, for everyone or its user. -/
theorem Asks.managed {tenant : Tenant} {binding : Binding} (asks : catalog.Asks tenant binding) :
    binding.OnManagedType ∧ binding.IsFor tenant := by
  obtain ⟨entry, bindings, -, expanded, member⟩ | ⟨stream, -, member⟩ := asks
  · obtain ⟨all, same, managed⟩ := expand_entry_ok entry tenant
    rw [same] at expanded
    obtain rfl := Except.ok.inj expanded
    exact managed binding member
  · exact mem_expand_stream member

theorem desired_on_managed_type {cluster : String} {binding : Binding}
    (asked : binding ∈ catalog.desired cluster) : binding.OnManagedType := by
  obtain ⟨tenant, -, asks⟩ := asked
  exact asks.managed.1

end Catalog

end BrokerTenancy
