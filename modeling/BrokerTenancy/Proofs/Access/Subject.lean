import BrokerTenancy.Proofs.Access.Decision

/-!
For whom a role binding is meant. It is found by the name of its subject alone: what lets a caller
in is a binding whose subject has the name of one of the caller's groups, and no decision depends on
the types of the subjects. Hence it is a binding for a group where all bindings with such a name are
for groups, and not otherwise.
-/

namespace BrokerTenancy

/-- The role binding as one for a group. -/
def RoleBinding.untyped (binding : RoleBinding) : RoleBinding :=
  { binding with subjectType := groupSubject }

/-- The stores show the same role bindings, but for the types of their subjects. -/
structure Store.SameButSubjectTypes (left right : Store RoleBinding) : Prop where
  name : left.name = right.name
  status : left.status = right.status
  bindings : left.snapshot.values.map (·.untyped) = right.snapshot.values.map (·.untyped)

/-- The bindings that name a group and permit something, found in two steps. -/
theorem any_filter_eq (bindings : List RoleBinding) (groups : List String)
    (target : RequestTarget) (verb : Verb) :
    (bindings.filter fun binding => groups.contains binding.subjectName).any
        (·.permits target verb) =
      (bindings.map (·.untyped)).any fun binding =>
        groups.contains binding.subjectName && binding.permits target verb := by
  rw [List.any_filter, List.any_map]
  rfl

/-- A decision that needs the role bindings is made on what is found among them. -/
theorem decide_access_same {left right : Store RoleBinding} (same : left.SameButSubjectTypes right)
    (tenants : Store Tenant) (path method : String) (caller : Option Caller) :
    decideAccess tenants left path method caller =
      decideAccess tenants right path method caller := by
  have serving : left.ensureServing = right.ensureServing := by
    rw [Store.ensureServing, Store.ensureServing, same.name, same.status]
  have found (groups : List String) (target : RequestTarget) (verb : Verb) :
      (do
        let bindings ← Catalog.forSubjects left groups
        return if bindings.any (·.permits target verb) then Decision.allowed else .unknown) =
      (do
        let bindings ← Catalog.forSubjects right groups
        return if bindings.any (·.permits target verb) then Decision.allowed else .unknown) := by
    simp only [Catalog.forSubjects, Store.listFiltered, Store.list, serving, bind_assoc, pure_bind,
      any_filter_eq, same.bindings]
  simp only [decideAccess, found]

/-- What lets a caller in who is no admin: the path, the method and a stored role binding. -/
theorem gives_of_allowed {tenants : Store Tenant} {roleBindings : Store RoleBinding}
    {path method : String} {someone : Caller}
    (allowed : decideAccess tenants roleBindings path method (some someone) = .ok .allowed)
    (noAdmin : adminRole ∉ someone.roles) :
    ∃ target verb binding, RequestTarget.ofPath path = some target ∧ verb.SpelledBy method ∧
      binding ∈ roleBindings.snapshot.values ∧ binding.Gives someone.groups target verb := by
  have notAdmin : someone.isAdmin = false := by
    rw [Caller.isAdmin, ← Bool.not_eq_true, List.contains_iff_mem]
    exact noAdmin
  cases told : RequestTarget.ofPath path with
  | none =>
      simp only [decideAccess, told] at allowed
      cases allowed
  | some target =>
      simp only [decideAccess, told, notAdmin, Outcome.bind_eq_ok] at allowed
      obtain ⟨tenant, -, decided⟩ := allowed
      cases tenant with
      | none => cases decided
      | some tenant =>
          cases spelled : Verb.ofMethod method with
          | none =>
              rw [spelled] at decided
              cases decided
          | some verb =>
              rw [spelled] at decided
              obtain ⟨bindings, found, decision⟩ := Outcome.bind_eq_ok.mp decided
              have permits : bindings.any (·.permits target verb) = true := by
                by_contra none
                rw [if_neg none] at decision
                cases decision
              obtain ⟨binding, stored, gives⟩ := (any_permits_iff found target verb).mp permits
              exact ⟨target, verb, binding, rfl, Verb.of_method_eq_some.mp spelled, stored, gives⟩

/-- The bindings that name a group of a caller are for groups. -/
def OnlyGroups (roleBindings : Store RoleBinding) (groups : List String) : Prop :=
  ∀ binding ∈ roleBindings.snapshot.values, binding.subjectName ∈ groups →
    binding.subjectType = groupSubject

/-- A caller who is no admin is let in only by a stored role binding whose subject has the name of
one of the caller's groups, for the namespace, the type and the verb of the request. It is one for a
group when all bindings with such a name are. Otherwise it need not be: the types of the subjects
can be changed at will, and every decision stays as it was. -/
theorem allowed_by_subject_name (tenants : Store Tenant) (roleBindings : Store RoleBinding)
    (path method : String) (someone : Caller) (noAdmin : adminRole ∉ someone.roles) :
    (decideAccess tenants roleBindings path method (some someone) = .ok .allowed →
      ∃ target verb binding, RequestTarget.ofPath path = some target ∧ verb.SpelledBy method ∧
        binding ∈ roleBindings.snapshot.values ∧ binding.Gives someone.groups target verb ∧
        (OnlyGroups roleBindings someone.groups → binding.subjectType = groupSubject)) ∧
      ∀ other : Store RoleBinding, roleBindings.SameButSubjectTypes other →
        decideAccess tenants other path method (some someone) =
          decideAccess tenants roleBindings path method (some someone) := by
  constructor
  · intro allowed
    obtain ⟨target, verb, binding, told, spells, stored, gives⟩ := gives_of_allowed allowed noAdmin
    refine ⟨target, verb, binding, told, spells, stored, gives, ?_⟩
    intro onlyGroups
    exact onlyGroups binding stored gives.subject
  · intro other same
    exact (decide_access_same same tenants path method (some someone)).symm

section Audit

def auditRules (subjectType : String) : Store RoleBinding where
  name := "role-bindings"
  limits := {}
  snapshot := .ofList [("shop/readers", {
    metadata := { name := "readers", namespaceName := "shop" }
    resourceTypes := ["topics"], verbs := [.get], subjectType, subjectName := "audit" })]
  status := openStatus

/-- A member of the group of auditors. -/
def auditor : Caller := { name := "clerk", groups := ["audit"] }

/-- The auditor is let in by a binding for the group, and is so by one for a user of that name. -/
theorem allowed_by_subject_name_audit :
    adminRole ∉ auditor.roles ∧
      (auditRules "GROUP").SameButSubjectTypes (auditRules "USER") ∧
      decideAccess shops (auditRules "USER") "/api/namespaces/shop/topics" "GET" (some auditor) =
        .ok .allowed := by
  have noAdmin : adminRole ∉ auditor.roles := List.not_mem_nil
  have same : (auditRules "GROUP").SameButSubjectTypes (auditRules "USER") := ⟨rfl, rfl, rfl⟩
  have allowed : decideAccess shops (auditRules "GROUP") "/api/namespaces/shop/topics" "GET"
      (some auditor) = .ok .allowed := by decide +kernel
  refine ⟨noAdmin, same, ?_⟩
  rw [(allowed_by_subject_name shops (auditRules "GROUP") "/api/namespaces/shop/topics" "GET"
    auditor noAdmin).2 (auditRules "USER") same]
  exact allowed

/-- A binding for a user lets in the members of a group of the same name. -/
theorem user_binding_lets_group_in :
    adminRole ∉ auditor.roles ∧
      decideAccess shops (auditRules "USER") "/api/namespaces/shop/topics" "GET" (some auditor) =
        .ok .allowed ∧
      ¬∃ binding ∈ (auditRules "USER").snapshot.values, binding.subjectType = groupSubject := by
  refine ⟨List.not_mem_nil, by decide +kernel, ?_⟩
  decide +kernel

end Audit

end BrokerTenancy
