import BrokerTenancy.Cycle.Basic
import BrokerTenancy.Proofs.Catalog.Desired

/-!
What a cycle plans, said with the stored resources and the bindings that it finds on the broker: it
looks at the bindings that it manages, creates what is desired and not there, and removes what is
there and not desired.
-/

namespace BrokerTenancy

/-- A cycle looks at a binding on the broker: its resource type is kept in step and, where only
managed users count, its principal is every user or the user of a tenant on the cluster. -/
def Catalog.Manages (catalog : Catalog) (settings : ClusterSettings) (binding : Binding) : Prop :=
  (binding.resourceType = .topic ∨ binding.resourceType = .group ∨
      binding.resourceType = .transactionalId) ∧
    (settings.managedUsersOnly = true →
      binding.principal = "User:*" ∨
        ∃ tenant, catalog.Hosts settings.name tenant ∧
          binding.principal = "User:" ++ tenant.kafkaUser)

/-- The bindings among some on a broker that a cycle looks at. -/
def Catalog.inScope (catalog : Catalog) (settings : ClusterSettings) (held : Set Binding) :
    Set Binding :=
  {binding | binding ∈ held ∧ catalog.Manages settings binding}

namespace Plan

/-- The plan of a cycle that finds these bindings on the broker. -/
def against (settings : ClusterSettings) (tenants : List Tenant) (desired held : BindingSet) :
    Plan :=
  .ofFound settings tenants desired (.ofList (onManagedTypes held.toList))

variable {settings : ClusterSettings} {tenants : List Tenant} {desired held : BindingSet}

theorem mem_managed_types (resourceType : ResourceType) :
    managedTypes.contains resourceType = true ↔
      resourceType = .topic ∨ resourceType = .group ∨ resourceType = .transactionalId := by
  simp [managedTypes]

theorem mem_managed_principals (principal : String) :
    (managedPrincipals tenants).contains principal = true ↔
      principal = "User:*" ∨ ∃ tenant ∈ tenants, principal = "User:" ++ tenant.kafkaUser := by
  have everyUser : Binding.everyUser = "User:*" := by decide
  simp only [managedPrincipals, List.contains_iff_mem, List.mem_cons, List.mem_map, everyUser,
    Binding.userPrincipal, eq_comm (a := principal)]

theorem of_found_desired : (ofFound settings tenants desired held).desired = desired := by
  unfold ofFound
  split <;> rfl

theorem against_desired : (against settings tenants desired held).desired = desired :=
  of_found_desired

theorem mem_actual (binding : Binding) :
    binding ∈ (against settings tenants desired held).actual ↔
      binding ∈ held ∧ managedTypes.contains binding.resourceType = true ∧
        (settings.managedUsersOnly = true →
          (managedPrincipals tenants).contains binding.principal = true) := by
  unfold against ofFound onManagedTypes
  split
  · next only =>
      rw [SortedSet.mem_filter, SortedSet.mem_of_list, List.mem_filter, SortedSet.mem_to_list,
        and_assoc]
      simp only [only, true_implies]
  · next every =>
      rw [SortedSet.mem_of_list, List.mem_filter, SortedSet.mem_to_list]
      simp only [every, Bool.false_eq_true, false_implies, and_true]

theorem actual_held {binding : Binding}
    (looked : binding ∈ (against settings tenants desired held).actual) : binding ∈ held :=
  ((mem_actual binding).mp looked).1

theorem actual_members {catalog : Catalog}
    (hosted : ∀ tenant, tenant ∈ tenants ↔ catalog.Hosts settings.name tenant) :
    (against settings tenants desired held).actual.members =
      catalog.inScope settings held.members := by
  ext binding
  rw [SortedSet.mem_members, mem_actual, mem_managed_types, mem_managed_principals]
  simp only [hosted]
  rfl

theorem out_of_scope_members {catalog : Catalog}
    (hosted : ∀ tenant, tenant ∈ tenants ↔ catalog.Hosts settings.name tenant) :
    (against settings tenants desired held).outOfScope.members =
      {binding | binding ∈ held ∧ binding.OnManagedType ∧ ¬catalog.Manages settings binding} := by
  ext binding
  have onType : binding ∈ SortedSet.ofList (onManagedTypes held.toList) ↔
      binding ∈ held ∧ binding.OnManagedType := by
    rw [SortedSet.mem_of_list, onManagedTypes, List.mem_filter, SortedSet.mem_to_list,
      mem_managed_types]
    rfl
  have beyond (managed : binding.OnManagedType) : ¬catalog.Manages settings binding ↔
      settings.managedUsersOnly = true ∧
        ¬(managedPrincipals tenants).contains binding.principal = true := by
    rw [mem_managed_principals]
    simp only [hosted]
    unfold Binding.OnManagedType at managed
    rw [Catalog.Manages, and_iff_right managed, Classical.not_imp]
  rw [SortedSet.mem_members, Set.mem_ofPred_eq]
  unfold against ofFound
  split
  · next only =>
      rw [SortedSet.mem_filter, onType, and_assoc, Bool.not_eq_true', ← Bool.not_eq_true]
      apply and_congr_right
      intro _
      apply and_congr_right
      intro managed
      rw [beyond managed, and_iff_right only]
  · next every =>
      refine iff_of_false (SortedSet.not_mem_empty binding) ?_
      rintro ⟨_, managed, outside⟩
      exact every ((beyond managed).mp outside).1

theorem to_create_members (plan : Plan) :
    plan.toCreate.members = plan.desired.members \ plan.actual.members := by
  ext binding
  exact SortedSet.mem_difference plan.desired plan.actual binding

theorem to_delete_members (plan : Plan) :
    plan.toDelete.members = plan.actual.members \ plan.desired.members := by
  ext binding
  exact SortedSet.mem_difference plan.actual plan.desired binding

end Plan

/-- What a cycle knows when it begins with the resources of a catalog. -/
theorem Cycle.begin_ok {settings : ClusterSettings} {catalog : Catalog} {cycle : Cycle}
    (begun : Cycle.begin settings catalog.query = .ok cycle) :
    ∃ tenants desired, cycle = .describing tenants desired ∧
      (∀ tenant, tenant ∈ tenants ↔ catalog.Hosts settings.name tenant) ∧
      desired.members = catalog.desired settings.name := by
  simp only [Cycle.begin, Outcome.bind_eq_ok, Outcome.pure_eq_ok] at begun
  obtain ⟨tenants, hosted, desired, asked, same⟩ := begun
  exact ⟨tenants, desired, same.symm, Catalog.mem_of_tenants_on hosted,
    Catalog.mem_of_desired_bindings hosted asked⟩

/-- A cycle begins when the stores serve. -/
theorem Cycle.begin_of_serves (settings : ClusterSettings) {catalog : Catalog}
    (serves : catalog.Serves) : ∃ cycle, Cycle.begin settings catalog.query = .ok cycle := by
  obtain ⟨tenants, hosted⟩ := serves.tenants_on settings.name
  obtain ⟨desired, asked⟩ := serves.desired_bindings tenants
  refine ⟨.describing tenants desired, ?_⟩
  simp only [Cycle.begin, hosted, asked, bind, Except.bind, pure, Except.pure]

namespace Catalog

variable {catalog : Catalog}

/-- A cycle looks at every binding that it may create. -/
theorem manages_of_desired (settings : ClusterSettings) {binding : Binding}
    (asked : binding ∈ catalog.desired settings.name) : catalog.Manages settings binding := by
  obtain ⟨tenant, hosts, asks⟩ := asked
  obtain ⟨onType, isFor⟩ := asks.managed
  exact ⟨onType, fun _ => isFor.imp_right fun user => ⟨tenant, hosts, user⟩⟩

theorem not_manages {settings : ClusterSettings} {binding : Binding}
    (onType : binding.OnManagedType) (beyond : ¬catalog.Manages settings binding) :
    settings.managedUsersOnly = true ∧ binding.principal ≠ "User:*" ∧
      ∀ tenant, catalog.Hosts settings.name tenant →
        binding.principal ≠ "User:" ++ tenant.kafkaUser := by
  refine ⟨?_, ?_, ?_⟩
  · by_contra every
    exact beyond ⟨onType, fun only => absurd only every⟩
  · intro everyone
    exact beyond ⟨onType, fun _ => .inl everyone⟩
  · intro tenant hosts user
    exact beyond ⟨onType, fun _ => .inr ⟨tenant, hosts, user⟩⟩

/-- Two catalogs ask for the same bindings of a cluster, and have a cycle look at the same ones. -/
structure Agrees (left right : Catalog) (settings : ClusterSettings) : Prop where
  desired : left.desired settings.name = right.desired settings.name
  scope : ∀ binding, left.Manages settings binding ↔ right.Manages settings binding

theorem Agrees.refl (catalog : Catalog) (settings : ClusterSettings) :
    catalog.Agrees catalog settings :=
  ⟨rfl, fun _ => Iff.rfl⟩

theorem Agrees.in_scope {other : Catalog} {settings : ClusterSettings}
    (agrees : catalog.Agrees other settings) (held : Set Binding) :
    catalog.inScope settings held = other.inScope settings held := by
  ext binding
  exact and_congr_right fun _ => agrees.scope binding

end Catalog

end BrokerTenancy
