import BrokerTenancy.Acl.Expansion

/-!
What entries and streams stand for stays within what a cycle looks after: topics, groups and
transactions, for every user or for the user of the namespace. Every entry has an expansion.
-/

namespace BrokerTenancy

/-- The binding is on a resource type that is kept in step. -/
def Binding.OnManagedType (binding : Binding) : Prop :=
  binding.resourceType = .topic ∨ binding.resourceType = .group ∨
    binding.resourceType = .transactionalId

/-- The principal of the binding is every user, or the user of a namespace. -/
def Binding.IsFor (binding : Binding) (tenant : Tenant) : Prop :=
  binding.principal = "User:*" ∨ binding.principal = "User:" ++ tenant.kafkaUser

theorem granted_operations_ok (permission : Permission) {resourceType : ResourceType}
    (owned : resourceType = .topic ∨ resourceType = .group) :
    ∃ operations, grantedOperations permission resourceType = .ok operations := by
  cases permission with
  | owner => obtain rfl | rfl := owned <;> exact ⟨_, rfl⟩
  | write => exact ⟨_, rfl⟩
  | read => exact ⟨_, rfl⟩

theorem expand_resource_ok (entry : AccessControlEntry) (tenant : Tenant)
    {resourceType : ResourceType} (owned : resourceType = .topic ∨ resourceType = .group)
    (named : brokerResourceType entry.resourceType = .ok resourceType) :
    ∃ operations : List Operation, expandResource entry tenant =
      .ok (operations.map fun operation =>
        .allow resourceType entry.resource entry.patternType (granteePrincipal entry tenant)
          operation) := by
  obtain ⟨operations, granted⟩ := granted_operations_ok entry.permission owned
  refine ⟨operations, ?_⟩
  simp only [expandResource, named, bind, Except.bind, granted, pure, Except.pure]

theorem grantee_principal_cases (entry : AccessControlEntry) (tenant : Tenant) :
    granteePrincipal entry tenant = "User:*" ∨
      granteePrincipal entry tenant = "User:" ++ tenant.kafkaUser := by
  rw [granteePrincipal]
  split
  · next everyone =>
    left
    rw [AccessControlEntry.isPublic, beq_iff_eq] at everyone
    rw [everyone]
    decide
  · exact .inr rfl

/-- An entry has bindings, and these are for the topics, the groups and the users in view. -/
theorem expand_entry_ok (entry : AccessControlEntry) (tenant : Tenant) :
    ∃ bindings, expandEntry entry tenant = .ok bindings ∧
      ∀ binding ∈ bindings, binding.OnManagedType ∧ binding.IsFor tenant := by
  have ofResource {resourceType : ResourceType}
      (owned : resourceType = .topic ∨ resourceType = .group)
      (named : brokerResourceType entry.resourceType = .ok resourceType) :
      ∃ bindings, expandResource entry tenant = .ok bindings ∧
        ∀ binding ∈ bindings, binding.OnManagedType ∧ binding.IsFor tenant := by
    obtain ⟨operations, expanded⟩ := expand_resource_ok entry tenant owned named
    refine ⟨_, expanded, ?_⟩
    intro binding member
    obtain ⟨operation, -, rfl⟩ := List.mem_map.mp member
    exact ⟨owned.imp_right .inl, grantee_principal_cases entry tenant⟩
  cases kind : entry.resourceType with
  | topic =>
      rw [expandEntry, kind]
      exact ofResource (.inl rfl) (by rw [kind]; rfl)
  | group =>
      rw [expandEntry, kind]
      exact ofResource (.inr rfl) (by rw [kind]; rfl)
  | connect =>
      rw [expandEntry, kind]
      refine ⟨_, rfl, ?_⟩
      intro binding member
      rw [expandConnect, kind] at member
      split at member
      · obtain rfl := List.mem_singleton.mp member
        exact ⟨.inr (.inl rfl), .inr rfl⟩
      · exact absurd member List.not_mem_nil
  | transactionalId =>
      rw [expandEntry, kind]
      exact ⟨[], rfl, fun binding member => absurd member List.not_mem_nil⟩

theorem mem_expand_stream {stream : Stream} {tenant : Tenant} {binding : Binding}
    (member : binding ∈ expandStream stream tenant) :
    binding.OnManagedType ∧ binding.IsFor tenant := by
  simp only [expandStream, List.mem_cons, List.not_mem_nil, or_false] at member
  obtain rfl | rfl | rfl := member
  · exact ⟨.inl rfl, .inr rfl⟩
  · exact ⟨.inl rfl, .inr rfl⟩
  · exact ⟨.inr (.inr rfl), .inr rfl⟩

end BrokerTenancy
