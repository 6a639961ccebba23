import BrokerTenancy.Proofs.Cycle.Plan
import BrokerTenancy.Proofs.Store.Registry

/-!
How far a grant reaches. An entry that is not granted to everyone stands for bindings of the one
tenant that it names on its own cluster. Storing it next to what the registries have stored so far
adds these bindings to what is desired, and nothing else. In which order the stores list what they
hold makes no difference.
-/

namespace BrokerTenancy

/-! ## Order -/

namespace Outcome

/-- Two answers list the same items, in whatever order. -/
inductive Shuffled {Item : Type} : Outcome (List Item) → Outcome (List Item) → Prop where
  | listed {first second : List Item} (same : first.Perm second) : Shuffled (.ok first) (.ok second)
  | failed (fault : Fault) : Shuffled (.error fault) (.error fault)

theorem Shuffled.of_ok {Item : Type} {first : List Item} {answer : Outcome (List Item)}
    (shuffled : Shuffled (.ok first) answer) :
    ∃ second, answer = .ok second ∧ first.Perm second := by
  cases shuffled with
  | listed same => exact ⟨_, rfl, same⟩

/-- Lists that are worked through part by part end with the same members, if the items are the same
and their parts have the same members. -/
theorem mem_flatten_of_map_ok {Item Part : Type} {first second : Item → Outcome (List Part)}
    {items others : List Item} {parts : List (List Part)} (done : items.mapM first = .ok parts)
    (same : ∀ item, item ∈ items ↔ item ∈ others)
    (each : ∀ item part, first item = .ok part →
      ∃ other, second item = .ok other ∧ ∀ value, value ∈ part ↔ value ∈ other) :
    ∃ results, others.mapM second = .ok results ∧
      ∀ value, value ∈ parts.flatten ↔ value ∈ results.flatten := by
  have worked : ∀ item ∈ others, ∃ other, second item = .ok other := by
    intro item member
    rcases ok_of_map_ok done ((same item).mpr member) with ⟨part, atItem⟩
    rcases each item part atItem with ⟨other, found, -⟩
    exact ⟨other, found⟩
  rcases map_ok_of_each worked with ⟨results, finished⟩
  refine ⟨results, finished, ?_⟩
  intro value
  simp only [List.mem_flatten]
  constructor
  · rintro ⟨part, inParts, inPart⟩
    rcases (mem_of_map_ok done part).mp inParts with ⟨item, member, atItem⟩
    rcases each item part atItem with ⟨other, found, alike⟩
    have inResults := (mem_of_map_ok finished other).mpr ⟨item, (same item).mp member, found⟩
    exact ⟨other, inResults, (alike value).mp inPart⟩
  · rintro ⟨other, inResults, inOther⟩
    rcases (mem_of_map_ok finished other).mp inResults with ⟨item, member, found⟩
    rcases ok_of_map_ok done ((same item).mpr member) with ⟨part, atItem⟩
    rcases each item part atItem with ⟨again, foundAgain, alike⟩
    rw [found] at foundAgain
    cases foundAgain
    have inParts := (mem_of_map_ok done part).mpr ⟨item, (same item).mpr member, atItem⟩
    exact ⟨part, inParts, (alike value).mpr inOther⟩

end Outcome

namespace ResourceQuery

/-- Two ways to ask the stored resources find the same, in whatever order. -/
structure Shuffled (first second : ResourceQuery) : Prop where
  tenants : ∀ cluster, Outcome.Shuffled (first.tenantsOn cluster) (second.tenantsOn cluster)
  entries : ∀ tenant, Outcome.Shuffled (first.entriesFor tenant) (second.entriesFor tenant)
  streams : ∀ tenant, Outcome.Shuffled (first.streamsOf tenant) (second.streamsOf tenant)

variable {first second : ResourceQuery}

theorem Shuffled.tenant_bindings (shuffled : first.Shuffled second) (tenant : Tenant)
    (bindings : List Binding) (found : first.tenantBindings tenant = .ok bindings) :
    ∃ others, second.tenantBindings tenant = .ok others ∧
      ∀ binding, binding ∈ bindings ↔ binding ∈ others := by
  simp only [tenantBindings, Outcome.bind_eq_ok, Outcome.pure_eq_ok] at found ⊢
  rcases found with ⟨entries, atEntries, granted, expanded, streams, atStreams, rfl⟩
  have shuffledEntries := shuffled.entries tenant
  have shuffledStreams := shuffled.streams tenant
  rw [atEntries] at shuffledEntries
  rw [atStreams] at shuffledStreams
  rcases shuffledEntries.of_ok with ⟨otherEntries, foundEntries, sameEntries⟩
  rcases shuffledStreams.of_ok with ⟨otherStreams, foundStreams, sameStreams⟩
  rcases Outcome.mem_flatten_of_map_ok expanded (fun entry => sameEntries.mem_iff)
    (fun entry part atEntry => ⟨part, atEntry, fun _ => Iff.rfl⟩) with ⟨parts, worked, alike⟩
  refine ⟨_, ⟨_, foundEntries, parts, worked, _, foundStreams, rfl⟩, ?_⟩
  intro binding
  rw [List.mem_append, List.mem_append, alike, List.mem_flatMap, List.mem_flatMap]
  simp only [sameStreams.mem_iff]

theorem Shuffled.desired_bindings (shuffled : first.Shuffled second)
    {tenants others : List Tenant} (same : tenants.Perm others) {desired : BindingSet}
    (found : first.desiredBindings tenants = .ok desired) :
    second.desiredBindings others = .ok desired := by
  simp only [desiredBindings, Outcome.bind_eq_ok, Outcome.pure_eq_ok] at found ⊢
  rcases found with ⟨parts, worked, rfl⟩
  rcases Outcome.mem_flatten_of_map_ok worked (fun tenant => same.mem_iff)
    shuffled.tenant_bindings with ⟨results, finished, alike⟩
  refine ⟨results, finished, ?_⟩
  apply SortedSet.eq_of_members
  ext binding
  rw [SortedSet.mem_members, SortedSet.mem_members, SortedSet.mem_of_list, SortedSet.mem_of_list,
    alike]

/-- A cycle begins with the same desired set, in whatever order it hears of the resources. -/
theorem Shuffled.begin (shuffled : first.Shuffled second) (settings : ClusterSettings)
    {tenants : List Tenant} {desired : BindingSet}
    (begun : Cycle.begin settings first = .ok (.describing tenants desired)) :
    ∃ others, tenants.Perm others ∧
      Cycle.begin settings second = .ok (.describing others desired) := by
  simp only [Cycle.begin, Outcome.bind_eq_ok, Outcome.pure_eq_ok] at begun ⊢
  rcases begun with ⟨listed, hosted, wanted, asked, same⟩
  cases same
  have shuffledTenants := shuffled.tenants settings.name
  rw [hosted] at shuffledTenants
  rcases shuffledTenants.of_ok with ⟨others, found, reordered⟩
  exact ⟨others, reordered, others, found, desired, shuffled.desired_bindings reordered asked, rfl⟩

end ResourceQuery

/-! ## One entry -/

/-- The name of the resource that the bindings of an entry are on. -/
def AccessControlEntry.boundName (entry : AccessControlEntry) : String :=
  if entry.resourceType = .connect then "connect-" ++ entry.resource else entry.resource

theorem expand_resource_private {entry : AccessControlEntry} {tenant : Tenant}
    {resourceType : ResourceType} {bindings : List Binding} (closed : entry.grantedTo ≠ "*")
    (owned : resourceType = .topic ∨ resourceType = .group)
    (named : brokerResourceType entry.resourceType = .ok resourceType)
    (expanded : expandResource entry tenant = .ok bindings) {binding : Binding}
    (member : binding ∈ bindings) :
    binding.principal = "User:" ++ tenant.kafkaUser ∧ binding.resourceName = entry.resource := by
  have notPublic : entry.isPublic = false := by
    rw [AccessControlEntry.isPublic, beq_eq_false_iff_ne]
    exact closed
  rcases expand_resource_ok entry tenant owned named with ⟨operations, same⟩
  rw [same] at expanded
  cases expanded
  rcases List.mem_map.mp member with ⟨operation, -, rfl⟩
  apply And.intro _ rfl
  change granteePrincipal entry tenant = _
  rw [granteePrincipal, notPublic]
  rfl

/-- An entry that is not for everyone stands for bindings of the tenant's user on its resource. -/
theorem expand_entry_private {entry : AccessControlEntry} {tenant : Tenant}
    {bindings : List Binding} (closed : entry.grantedTo ≠ "*")
    (expanded : expandEntry entry tenant = .ok bindings) {binding : Binding}
    (member : binding ∈ bindings) :
    binding.principal = "User:" ++ tenant.kafkaUser ∧ binding.resourceName = entry.boundName := by
  rw [expandEntry] at expanded
  rw [AccessControlEntry.boundName]
  cases kind : entry.resourceType with
  | topic =>
      rw [kind] at expanded
      have named : brokerResourceType entry.resourceType = .ok .topic := by rw [kind]; rfl
      exact expand_resource_private closed (.inl rfl) named expanded member
  | group =>
      rw [kind] at expanded
      have named : brokerResourceType entry.resourceType = .ok .group := by rw [kind]; rfl
      exact expand_resource_private closed (.inr rfl) named expanded member
  | connect =>
      rw [kind] at expanded
      cases expanded
      rw [expandConnect, kind] at member
      split at member
      · cases List.mem_singleton.mp member
        exact ⟨rfl, rfl⟩
      · exact absurd member List.not_mem_nil
  | transactionalId =>
      rw [kind] at expanded
      cases expanded
      exact absurd member List.not_mem_nil

/-! ## Storing an entry -/

namespace Catalog

/-- What one of the registries does. -/
inductive Change where
  | tenant (edit : HostedStore.Edit Tenant)
  | accessControlEntry (edit : HostedStore.Edit AccessControlEntry)
  | stream (edit : HostedStore.Edit Stream)
  | connector (edit : HostedStore.Edit Connector)
  | roleBinding (edit : HostedStore.Edit RoleBinding)

def change (catalog : Catalog) : Change → Catalog
  | .tenant edit => { catalog with tenants := catalog.tenants.edit edit }
  | .accessControlEntry edit =>
      { catalog with accessControlEntries := catalog.accessControlEntries.edit edit }
  | .stream edit => { catalog with streams := catalog.streams.edit edit }
  | .connector edit => { catalog with connectors := catalog.connectors.edit edit }
  | .roleBinding edit => { catalog with roleBindings := catalog.roleBindings.edit edit }

def run (catalog : Catalog) (changes : List Change) : Catalog := changes.foldl change catalog

structure Orderly (catalog : Catalog) : Prop where
  tenants : catalog.tenants.Orderly
  accessControlEntries : catalog.accessControlEntries.Orderly
  streams : catalog.streams.Orderly
  connectors : catalog.connectors.Orderly
  roleBindings : catalog.roleBindings.Orderly

/-- The logs hold what registries have written: no resource under the key of another. -/
structure Recorded (logOf : ResourceKind → ResourceLog) : Prop where
  tenants : ∀ record ∈ (logOf .tenant).records, record.IsKeyed Tenant
  accessControlEntries :
    ∀ record ∈ (logOf .accessControlEntry).records, record.IsKeyed AccessControlEntry
  streams : ∀ record ∈ (logOf .stream).records, record.IsKeyed Stream
  connectors : ∀ record ∈ (logOf .connector).records, record.IsKeyed Connector
  roleBindings : ∀ record ∈ (logOf .roleBinding).records, record.IsKeyed RoleBinding

theorem orderly_opened {logOf : ResourceKind → ResourceLog} (recorded : Recorded logOf)
    (limits : StoreLimits) : (launch logOf limits).settle.Orderly where
  tenants := HostedStore.orderly_opened recorded.tenants limits
  accessControlEntries := HostedStore.orderly_opened recorded.accessControlEntries limits
  streams := HostedStore.orderly_opened recorded.streams limits
  connectors := HostedStore.orderly_opened recorded.connectors limits
  roleBindings := HostedStore.orderly_opened recorded.roleBindings limits

theorem Orderly.change {catalog : Catalog} (orderly : catalog.Orderly) (change : Change) :
    (catalog.change change).Orderly := by
  cases change with
  | tenant edit => exact { orderly with tenants := orderly.tenants.edit Tenant.is_faithful edit }
  | accessControlEntry edit =>
      have edited := orderly.accessControlEntries.edit AccessControlEntry.is_faithful edit
      exact { orderly with accessControlEntries := edited }
  | stream edit => exact { orderly with streams := orderly.streams.edit Stream.is_faithful edit }
  | connector edit =>
      exact { orderly with connectors := orderly.connectors.edit Connector.is_faithful edit }
  | roleBinding edit =>
      exact { orderly with roleBindings := orderly.roleBindings.edit RoleBinding.is_faithful edit }

theorem Orderly.run {catalog : Catalog} (orderly : catalog.Orderly) (changes : List Change) :
    (catalog.run changes).Orderly := by
  induction changes generalizing catalog with
  | nil => exact orderly
  | cons change changes induction => exact induction (orderly.change change)

theorem Orderly.run_bounded {catalog : Catalog} (orderly : catalog.Orderly)
    (bounded : catalog.accessControlEntries.Bounded) (changes : List Change) :
    (catalog.run changes).accessControlEntries.Bounded := by
  induction changes generalizing catalog with
  | nil => exact bounded
  | cons change changes induction =>
      apply induction (orderly.change change)
      cases change with
      | accessControlEntry edit => exact orderly.accessControlEntries.rest.edit_bounded bounded edit
      | tenant | stream | connector | roleBinding => exact bounded

/-- A tenant that an entry names, on its cluster. -/
def Names (catalog : Catalog) (entry : AccessControlEntry) (tenant : Tenant) : Prop :=
  catalog.Hosts entry.metadata.cluster tenant ∧ tenant.metadata.name = entry.grantedTo

/-- What an entry asks for on a cluster because of the tenants that it names. -/
def asked (catalog : Catalog) (entry : AccessControlEntry) (cluster : String) : Set Binding :=
  {binding | entry.metadata.cluster = cluster ∧ ∃ tenant bindings, catalog.Names entry tenant ∧
    expandEntry entry tenant = .ok bindings ∧ binding ∈ bindings}

/-- A tenant's name is its key, so no two tenants have one name. -/
theorem Orderly.named_once {catalog : Catalog} (orderly : catalog.Orderly)
    {first second : Tenant} (isFirst : first ∈ catalog.tenants.store.snapshot.values)
    (isSecond : second ∈ catalog.tenants.store.snapshot.values)
    (same : first.metadata.name = second.metadata.name) : first = second := by
  rcases (SortedMap.mem_values _ first).mp isFirst with ⟨firstKey, firstFound⟩
  rcases (SortedMap.mem_values _ second).mp isSecond with ⟨secondKey, secondFound⟩
  have firstOwn : first.metadata.name = firstKey := orderly.tenants.keyed _ _ firstFound
  have secondOwn : second.metadata.name = secondKey :=
    orderly.tenants.keyed _ _ secondFound
  rw [← firstOwn, same, secondOwn, secondFound] at firstFound
  exact (Option.some.inj firstFound).symm

section Stored

variable {before after : Catalog} {entry : AccessControlEntry}

theorem desired_congr (tenants : after.tenants = before.tenants)
    (streams : after.streams = before.streams)
    (entries : after.accessControlEntries.store.snapshot =
      before.accessControlEntries.store.snapshot) (cluster : String) :
    after.desired cluster = before.desired cluster := by
  simp only [desired, Hosts, Asks, Grants, Streams, tenants, streams, entries]

/-- An entry that joins the stored ones makes the tenants that it names ask for its bindings. -/
theorem asks_joined (closed : entry.grantedTo ≠ "*") (streams : after.streams = before.streams)
    {creation : Option Instant}
    (joined : ∀ other, other ∈ after.accessControlEntries.store.snapshot.values ↔
      other = Resource.withCreation entry creation ∨
        other ∈ before.accessControlEntries.store.snapshot.values)
    (tenant : Tenant) (binding : Binding) :
    after.Asks tenant binding ↔ before.Asks tenant binding ∨
      entry.metadata.cluster = tenant.metadata.cluster ∧
        tenant.metadata.name = entry.grantedTo ∧
        ∃ bindings, expandEntry entry tenant = .ok bindings ∧ binding ∈ bindings := by
  have streamed (stream : Stream) : after.Streams tenant stream ↔ before.Streams tenant stream := by
    rw [Streams, Streams, streams]
  constructor
  · rintro (⟨other, bindings, ⟨stored, onCluster, named⟩, expanded, member⟩ |
      ⟨stream, owns, member⟩)
    · rcases (joined other).mp stored with rfl | held
      · -- The creation instant counts neither for the grant nor for its bindings.
        exact .inr ⟨onCluster, (named.resolve_right closed).symm, bindings, expanded, member⟩
      · exact .inl (.inl ⟨other, bindings, ⟨held, onCluster, named⟩, expanded, member⟩)
    · exact .inl (.inr ⟨stream, (streamed stream).mp owns, member⟩)
  · rintro ((⟨other, bindings, ⟨held, granted⟩, expanded, member⟩ | ⟨stream, owns, member⟩) |
      ⟨onCluster, named, bindings, expanded, member⟩)
    · exact .inl ⟨other, bindings, ⟨(joined other).mpr (.inr held), granted⟩, expanded, member⟩
    · exact .inr ⟨stream, (streamed stream).mpr owns, member⟩
    · have grants : after.Grants tenant (Resource.withCreation entry creation) :=
        ⟨(joined _).mpr (.inl rfl), onCluster, .inl named.symm⟩
      exact .inl ⟨_, bindings, grants, expanded, member⟩

theorem desired_joined (closed : entry.grantedTo ≠ "*") (tenants : after.tenants = before.tenants)
    (streams : after.streams = before.streams) {creation : Option Instant}
    (joined : ∀ other, other ∈ after.accessControlEntries.store.snapshot.values ↔
      other = Resource.withCreation entry creation ∨
        other ∈ before.accessControlEntries.store.snapshot.values) (cluster : String) :
    after.desired cluster = before.desired cluster ∪ before.asked entry cluster := by
  have hosted (tenant : Tenant) (place : String) :
      after.Hosts place tenant ↔ before.Hosts place tenant := by rw [Hosts, Hosts, tenants]
  ext binding
  constructor
  · rintro ⟨tenant, hosts, asks⟩
    have already := (hosted tenant cluster).mp hosts
    rcases (asks_joined closed streams joined tenant binding).mp asks with
      asked | ⟨onCluster, named, bindings, expanded, member⟩
    · exact .inl ⟨tenant, already, asked⟩
    · have here : entry.metadata.cluster = cluster := onCluster.trans hosts.2
      rw [← here] at already
      exact .inr ⟨here, tenant, bindings, ⟨already, named⟩, expanded, member⟩
  · rintro (⟨tenant, hosts, asked⟩ | ⟨rfl, tenant, bindings, ⟨hosts, named⟩, expanded, member⟩)
    · have asks := (asks_joined closed streams joined tenant binding).mpr (.inl asked)
      exact ⟨tenant, (hosted tenant cluster).mpr hosts, asks⟩
    · have asks := (asks_joined closed streams joined tenant binding).mpr
        (.inr ⟨hosts.2.symm, named, bindings, expanded, member⟩)
      exact ⟨tenant, (hosted tenant _).mpr hosts, asks⟩

variable (before after entry)

/-- What storing an entry has done to what is desired. -/
structure Confined : Prop where
  kept : ∀ cluster, before.desired cluster ⊆ after.desired cluster
  elsewhere : ∀ cluster, cluster ≠ entry.metadata.cluster →
    after.desired cluster = before.desired cluster
  added : ∀ binding ∈ after.desired entry.metadata.cluster,
    binding ∉ before.desired entry.metadata.cluster →
      ∃ tenant, before.Names entry tenant ∧ binding.principal = "User:" ++ tenant.kafkaUser ∧
        binding.resourceName = entry.boundName
  single : ∀ first second, before.Names entry first → before.Names entry second → first = second
  nobody : (∀ tenant, ¬before.Names entry tenant) →
    ∀ cluster, after.desired cluster = before.desired cluster

variable {before after entry}

/-- A change that adds nothing but what the entry asks for is confined. -/
theorem Orderly.confined (orderly : before.Orderly) (closed : entry.grantedTo ≠ "*")
    {part : String → Set Binding} (within : ∀ cluster, part cluster ⊆ before.asked entry cluster)
    (grown : ∀ cluster, after.desired cluster = before.desired cluster ∪ part cluster) :
    before.Confined after entry := by
  have unasked {cluster : String} (nothing : ∀ binding, binding ∉ before.asked entry cluster) :
      after.desired cluster = before.desired cluster := by
    rw [grown, Set.union_eq_left]
    intro binding inPart
    exact absurd (within cluster inPart) (nothing binding)
  apply Confined.mk
  · intro cluster
    rw [grown]
    exact Set.subset_union_left
  · intro cluster other
    apply unasked
    rintro binding ⟨here, -⟩
    exact other here.symm
  · intro binding wanted new
    rw [grown] at wanted
    rcases within _ (wanted.resolve_left new) with ⟨-, tenant, bindings, names, expanded, member⟩
    exact ⟨tenant, names, expand_entry_private closed expanded member⟩
  · intro first second isFirst isSecond
    exact orderly.named_once isFirst.1.1 isSecond.1.1 (isFirst.2.trans isSecond.2.symm)
  · intro nobody cluster
    apply unasked
    rintro binding ⟨-, tenant, -, names, -⟩
    exact nobody tenant names

variable {now : Instant} {timestamp : Int}

/-- All that a stored entry asks for is desired, and what was desired before. -/
theorem register_joined (closed : entry.grantedTo ≠ "*")
    (free : before.accessControlEntries.store.snapshot.find? (Resource.key entry) = none)
    {creation : Option Instant}
    (stored : (before.accessControlEntries.register entry now timestamp).1.store.snapshot =
      before.accessControlEntries.store.snapshot.insert (Resource.key entry)
        (Resource.withCreation entry creation)) (cluster : String) :
    (before.change (.accessControlEntry (.register entry now timestamp))).desired cluster =
      before.desired cluster ∪ before.asked entry cluster := by
  have joined (other : AccessControlEntry) :
      other ∈ (before.accessControlEntries.register entry now timestamp).1.store.snapshot.values ↔
        other = Resource.withCreation entry creation ∨
          other ∈ before.accessControlEntries.store.snapshot.values := by
    rw [stored]
    exact SortedMap.mem_values_insert free _ other
  refine desired_joined closed ?_ ?_ joined cluster
  · rfl
  · rfl

theorem Orderly.register_confined (orderly : before.Orderly) (closed : entry.grantedTo ≠ "*")
    (free : before.accessControlEntries.store.snapshot.find? (Resource.key entry) = none) :
    before.Confined
      (before.change (.accessControlEntry (.register entry now timestamp))) entry := by
  rcases orderly.accessControlEntries.rest.register AccessControlEntry.is_faithful entry now
    timestamp with kept | ⟨creation, stored⟩
  · apply orderly.confined closed (fun cluster => Set.empty_subset _)
    intro cluster
    rw [Set.union_empty]
    refine desired_congr ?_ ?_ kept cluster
    · rfl
    · rfl
  · exact orderly.confined closed (fun cluster => Set.Subset.refl _)
      (register_joined closed free stored)

end Stored

/-- A grant to one tenant is confined to it, whatever registries have stored and dropped before,
and reaches it once it is stored. A cycle desires what the catalog does, in whatever order it hears
of the resources. -/
theorem grant_confined (logOf : ResourceKind → ResourceLog) (limits : StoreLimits)
    (recorded : Recorded logOf) (changes : List Change) (entry : AccessControlEntry)
    (now : Instant) (timestamp : Int) (closed : entry.grantedTo ≠ "*")
    (free : ((launch logOf limits).settle.run changes).accessControlEntries.store.snapshot.find?
      (Resource.key entry) = none) :
    let before := (launch logOf limits).settle.run changes
    let after := before.change (.accessControlEntry (.register entry now timestamp))
    before.Confined after entry ∧
      ((logOf .accessControlEntry).BeginsWithin →
        ∀ stored, (before.accessControlEntries.register entry now timestamp).2 = .ok stored →
          ∀ cluster, after.desired cluster =
            before.desired cluster ∪ before.asked entry cluster) ∧
      (∀ (catalog : Catalog) (settings : ClusterSettings) tenants desired,
        Cycle.begin settings catalog.query = .ok (.describing tenants desired) →
          desired.members = catalog.desired settings.name) ∧
      ∀ (settings : ClusterSettings) (first second : ResourceQuery), first.Shuffled second →
        ∀ tenants desired, Cycle.begin settings first = .ok (.describing tenants desired) →
          ∃ others, tenants.Perm others ∧
            Cycle.begin settings second = .ok (.describing others desired) := by
  intro before after
  have opened : (launch logOf limits).settle.Orderly := orderly_opened recorded limits
  have orderly : before.Orderly := opened.run changes
  refine ⟨orderly.register_confined closed free, ?_, ?_, ?_⟩
  · intro within stored done
    have bounded := opened.run_bounded (HostedStore.bounded_opened within limits) changes
    rcases orderly.accessControlEntries.rest.register_ok AccessControlEntry.is_faithful bounded
      done with ⟨creation, stands⟩
    exact register_joined closed free stands
  · intro catalog settings tenants desired begun
    rcases Cycle.begin_ok begun with ⟨_, _, same, -, asked⟩
    cases same
    exact asked
  · intro settings first second shuffled tenants desired begun
    exact shuffled.begin settings begun

/-- A log in memory for each kind of resource. -/
def memoryLogs (kind : ResourceKind) : ResourceLog := .memory { name := kind.logSuffix }

def opening : Instant := ⟨⟨2026, 1, 2⟩, 3, 4, 5, 6⟩

/-- A tenant as its registry stores it. -/
def bakery : Tenant where
  metadata := { name := "bakery", cluster := "north", creation := some opening }
  kafkaUser := "baker"

/-- An entry of another namespace that lets the bakery read. -/
def recipes : AccessControlEntry where
  metadata := { name := "recipes", namespaceName := "mill", cluster := "north" }
  resourceType := .topic
  resource := "flour"
  patternType := .prefixed
  permission := .read
  grantedTo := "bakery"

def northCatalog : Catalog :=
  (launch memoryLogs {}).settle.run [.tenant (.register bakery opening 0)]

def northAfterwards : Catalog :=
  northCatalog.change (.accessControlEntry (.register recipes opening 1))

/-- The entry is stored, and the bakery's user may read where it could not before. -/
theorem grant_confined_bakery :
    northCatalog.Confined northAfterwards recipes ∧
      .allow .topic "flour" .prefixed "User:baker" .read ∈ northAfterwards.desired "north" ∧
      .allow .topic "flour" .prefixed "User:baker" .read ∉ northCatalog.desired "north" := by
  have free : northCatalog.accessControlEntries.store.snapshot.find? (Resource.key recipes) =
      none := by rfl
  have ofNorth := grant_confined memoryLogs {} ⟨nofun, nofun, nofun, nofun, nofun⟩
    [.tenant (.register bakery opening 0)] recipes opening 1 (by decide) free
  have within : (memoryLogs .accessControlEntry).BeginsWithin := by
    intro low told
    cases told
    exact Nat.zero_le _
  have done : (northCatalog.accessControlEntries.register recipes opening 1).2 =
      .ok (HostedStore.stamped recipes opening) := by decide +kernel
  have hosts : northCatalog.Hosts "north" bakery := ⟨by decide +kernel, rfl⟩
  have asked : .allow .topic "flour" .prefixed "User:baker" .read ∈
      northCatalog.asked recipes "north" :=
    ⟨rfl, bakery, _, ⟨hosts, rfl⟩, rfl, List.mem_singleton.mpr rfl⟩
  refine ⟨ofNorth.1, ?_, ?_⟩
  · have joined : northAfterwards.desired "north" = _ := ofNorth.2.1 within _ done "north"
    rw [joined]
    exact .inr asked
  · have noEntries : northCatalog.accessControlEntries.store.snapshot.values = [] := by rfl
    have noStreams : northCatalog.streams.store.snapshot.values = [] := by rfl
    rintro ⟨tenant, -, ⟨entry, bindings, ⟨held, -⟩, -⟩ | ⟨stream, ⟨held, -⟩, -⟩⟩
    · rw [noEntries] at held
      exact absurd held List.not_mem_nil
    · rw [noStreams] at held
      exact absurd held List.not_mem_nil

end Catalog

end BrokerTenancy
