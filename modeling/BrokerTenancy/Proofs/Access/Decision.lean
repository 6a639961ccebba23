import BrokerTenancy.Access.Decision
import BrokerTenancy.Proofs.Catalog.Desired
import Mathlib.Data.List.Forall2

/-!
Which requests are allowed, said with the stored resources. The order in which a decision looks at
the caller, the path, the tenant and the method does not matter for what it is.
-/

namespace BrokerTenancy

/-- A method spells the name of a verb, each letter as a capital or as a small one. -/
def Verb.SpelledBy (verb : Verb) (method : String) : Prop :=
  List.Forall₂ (fun letter capital : Char => letter = capital ∨ letter = capital.toLower)
    method.toList verb.name.toList

/-- A role binding gives a member of some groups a verb on a target. -/
structure RoleBinding.Gives (binding : RoleBinding) (groups : List String)
    (target : RequestTarget) (verb : Verb) : Prop where
  subject : binding.subjectName ∈ groups
  owner : binding.metadata.namespaceName = target.namespaceName
  type : target.resourceType ∈ binding.resourceTypes
  verb : verb ∈ binding.verbs

/-- A caller may do what the method says to the target, which is that of a stored tenant. -/
structure Caller.May (caller : Caller) (tenants : Store Tenant) (roleBindings : Store RoleBinding)
    (target : RequestTarget) (method : String) : Prop where
  stored : ∃ tenant, tenants.snapshot.find? target.namespaceName = some tenant
  reason : adminRole ∈ caller.roles ∨ ∃ verb : Verb, verb.SpelledBy method ∧
    ∃ binding ∈ roleBindings.snapshot.values, binding.Gives caller.groups target verb

/-- There is a caller, and the path has a target on which it may do what the method says. -/
def Permitted (tenants : Store Tenant) (roleBindings : Store RoleBinding) (path method : String)
    (caller : Option Caller) : Prop :=
  ∃ someone target, caller = some someone ∧ RequestTarget.ofPath path = some target ∧
    someone.May tenants roleBindings target method

theorem to_upper_eq_iff {letter capital : Char} (upper : capital.isUpper = true) :
    letter.toUpper = capital ↔ letter = capital ∨ letter = capital.toLower := by
  have down : ('a'.val - 'A'.val).toNat = 32 := rfl
  have up : ('A'.val - 'a'.val).toNat = 4294967264 := rfl
  have capitals : 'A'.val.toNat = 65 ∧ 'Z'.val.toNat = 90 := ⟨rfl, rfl⟩
  have letters : 'a'.val.toNat = 97 ∧ 'z'.val.toNat = 122 := ⟨rfl, rfl⟩
  delta Char.isUpper at upper
  delta Char.toUpper Char.toLower
  simp only [decide_eq_true_eq] at upper
  rw [dif_pos upper]
  simp only [UInt32.le_iff_toNat_le, ge_iff_le] at upper ⊢
  split <;>
    simp only [Char.ext_iff, ← UInt32.toNat_inj, UInt32.toNat_add, down, up] <;> omega

namespace Verb

theorem spelled_by_iff (verb : Verb) (method : String) :
    verb.SpelledBy method ↔ method.map Char.toUpper = verb.name := by
  have upper : ∀ capital ∈ verb.name.toList, capital.isUpper = true := by
    apply List.all_eq_true.mp
    cases verb <;> rfl
  rw [← String.toList_inj, String.toList_map, SpelledBy]
  generalize verb.name.toList = capitals at upper ⊢
  induction method.toList generalizing capitals with
  | nil => cases capitals <;> simp
  | cons letter letters induction =>
      cases capitals with
      | nil => simp
      | cons capital capitals =>
          have here : letter.toUpper = capital ↔ _ :=
            to_upper_eq_iff (upper capital List.mem_cons_self)
          have behind := induction capitals fun other member =>
            upper other (List.mem_cons_of_mem _ member)
          rw [List.map_cons, List.cons.injEq, List.forall₂_cons]
          exact and_congr here.symm behind

theorem of_method_eq_some {verb : Verb} {method : String} :
    ofMethod method = some verb ↔ verb.SpelledBy method := by
  rw [spelled_by_iff, ofMethod]
  constructor
  · intro found
    have same := List.find?_some found
    exact (beq_iff_eq.mp same).symm
  · intro spelled
    rw [spelled]
    cases verb <;> rfl

end Verb

/-- What is found among the role bindings of the groups. -/
theorem RoleBinding.gives_iff {binding : RoleBinding} {groups : List String}
    {target : RequestTarget} {verb : Verb} :
    binding.Gives groups target verb ↔
      groups.contains binding.subjectName = true ∧ binding.permits target verb = true := by
  rw [permits, Bool.and_eq_true, Bool.and_eq_true, beq_iff_eq]
  simp only [List.contains_iff_mem]
  constructor
  · rintro ⟨subject, owner, type, verb⟩
    exact ⟨subject, ⟨owner, type⟩, verb⟩
  · rintro ⟨subject, ⟨owner, type⟩, verb⟩
    exact ⟨subject, owner, type, verb⟩

section Decision

variable {tenants : Store Tenant} {roleBindings : Store RoleBinding}

theorem any_permits_iff {groups : List String} {bindings : List RoleBinding}
    (found : Catalog.forSubjects roleBindings groups = .ok bindings) (target : RequestTarget)
    (verb : Verb) :
    bindings.any (·.permits target verb) = true ↔
      ∃ binding ∈ roleBindings.snapshot.values, binding.Gives groups target verb := by
  rw [List.any_eq_true]
  constructor
  · rintro ⟨binding, member, permits⟩
    rcases (Store.list_filtered_ok found binding).mp member with ⟨stored, subject⟩
    exact ⟨binding, stored, RoleBinding.gives_iff.mpr ⟨subject, permits⟩⟩
  · rintro ⟨binding, stored, gives⟩
    rcases RoleBinding.gives_iff.mp gives with ⟨subject, permits⟩
    exact ⟨binding, (Store.list_filtered_ok found binding).mpr ⟨stored, subject⟩, permits⟩

/-- What is decided about someone who asks for a target. -/
theorem decide_access_of_target {someone : Caller} {target : RequestTarget} {path method : String}
    (tenantsServe : tenants.ensureServing = .ok ())
    (bindingsServe : roleBindings.ensureServing = .ok ())
    (told : RequestTarget.ofPath path = some target) :
    ∃ decision, decideAccess tenants roleBindings path method (some someone) = .ok decision ∧
      (decision = .allowed ↔ someone.May tenants roleBindings target method) := by
  have admin : someone.isAdmin = true ↔ adminRole ∈ someone.roles := List.contains_iff_mem
  rcases Store.list_filtered_serving bindingsServe
    (fun binding => someone.groups.contains binding.subjectName) with ⟨bindings, found⟩
  change Catalog.forSubjects roleBindings someone.groups = .ok bindings at found
  simp only [decideAccess, told, Store.get, tenantsServe, found, bind, Except.bind, pure,
    Except.pure]
  cases stored : tenants.snapshot.find? target.namespaceName with
  | none =>
      refine ⟨.unknown, rfl, ?_⟩
      simp only [reduceCtorEq, false_iff]
      rintro ⟨⟨tenant, other⟩, -⟩
      cases stored.symm.trans other
  | some tenant =>
      by_cases isAdmin : someone.isAdmin = true
      · refine ⟨.allowed, by simp [isAdmin], ?_⟩
        simp only [true_iff]
        exact ⟨⟨tenant, stored⟩, .inl (admin.mp isAdmin)⟩
      · have noAdmin : adminRole ∉ someone.roles := fun member => isAdmin (admin.mpr member)
        cases spelled : Verb.ofMethod method with
        | none =>
            refine ⟨.unknown, by simp [isAdmin], ?_⟩
            simp only [reduceCtorEq, false_iff]
            rintro ⟨-, member | ⟨verb, spells, -⟩⟩
            · exact noAdmin member
            · cases spelled.symm.trans (Verb.of_method_eq_some.mpr spells)
        | some verb =>
            refine ⟨if bindings.any (·.permits target verb) then .allowed else .unknown,
              by simp [isAdmin], ?_⟩
            have only : ∀ other : Verb, other.SpelledBy method → other = verb := by
              intro other spells
              exact Option.some.inj ((Verb.of_method_eq_some.mpr spells).symm.trans spelled)
            have given := any_permits_iff found target verb
            constructor
            · intro allowed
              split at allowed
              · next permits =>
                  have spells := Verb.of_method_eq_some.mp spelled
                  exact ⟨⟨tenant, stored⟩, .inr ⟨verb, spells, given.mp permits⟩⟩
              · cases allowed
            · rintro ⟨-, member | ⟨other, spells, gives⟩⟩
              · cases noAdmin member
              · rw [only other spells] at gives
                rw [if_pos (given.mpr gives)]

theorem decide_access_iff (tenantsServe : tenants.ensureServing = .ok ())
    (bindingsServe : roleBindings.ensureServing = .ok ()) (path method : String)
    (caller : Option Caller) :
    ∃ decision, decideAccess tenants roleBindings path method caller = .ok decision ∧
      (decision = .allowed ↔ Permitted tenants roleBindings path method caller) ∧
      (decision = .unknown ↔ ¬Permitted tenants roleBindings path method caller) := by
  have opinion : ∃ decision, decideAccess tenants roleBindings path method caller = .ok decision ∧
      (decision = .allowed ↔ Permitted tenants roleBindings path method caller) := by
    cases caller with
    | none =>
        refine ⟨.unknown, rfl, ?_⟩
        simp only [reduceCtorEq, false_iff]
        rintro ⟨someone, target, nobody, -⟩
        cases nobody
    | some someone =>
        cases told : RequestTarget.ofPath path with
        | none =>
            refine ⟨.unknown, by simp only [decideAccess, told], ?_⟩
            simp only [reduceCtorEq, false_iff]
            rintro ⟨-, target, -, other, -⟩
            cases told.symm.trans other
        | some target =>
            rcases decide_access_of_target tenantsServe bindingsServe told with
              ⟨decision, decided, may⟩
            refine ⟨decision, decided, may.trans ?_⟩
            constructor
            · intro may
              exact ⟨someone, target, rfl, told, may⟩
            · rintro ⟨other, aim, same, toldAim, may⟩
              cases same
              cases told.symm.trans toldAim
              exact may
  rcases opinion with ⟨decision, decided, allowed⟩
  refine ⟨decision, decided, allowed, ?_⟩
  rw [← allowed]
  cases decision <;> simp

section Staff

def openStatus : Status := { ready := true }

def shops : Store Tenant where
  name := "namespaces"
  limits := {}
  snapshot := .ofList [("shop", { metadata := { name := "shop" }, kafkaUser := "till" })]
  status := openStatus

def staffRules : Store RoleBinding where
  name := "role-bindings"
  limits := {}
  snapshot := .ofList [("shop/restarts", {
    metadata := { name := "restarts", namespaceName := "shop" }
    resourceTypes := ["connectors/restart"], verbs := [.post], subjectName := "staff" })]
  status := openStatus

def clerk : Caller := { name := "clerk", groups := ["visitors", "staff"] }

/-- The clerk may restart a connector of the shop, and no more than that. -/
theorem decide_access_clerk :
    (shops.ensureServing = .ok () ∧ staffRules.ensureServing = .ok ()) ∧
      decideAccess shops staffRules "/api/namespaces/shop/connectors/till/restart" "pOSt"
        (some clerk) = .ok .allowed ∧
      Permitted shops staffRules "/api/namespaces/shop/connectors/till/restart" "pOSt"
        (some clerk) ∧
      ¬Permitted shops staffRules "/api/namespaces/shop/connectors/till" "POST" (some clerk) := by
  have serve : shops.ensureServing = .ok () ∧ staffRules.ensureServing = .ok () := ⟨rfl, rfl⟩
  have allowed : decideAccess shops staffRules "/api/namespaces/shop/connectors/till/restart"
      "pOSt" (some clerk) = .ok .allowed := by decide +kernel
  have unknown : decideAccess shops staffRules "/api/namespaces/shop/connectors/till"
      "POST" (some clerk) = .ok .unknown := by decide +kernel
  refine ⟨serve, allowed, ?_, ?_⟩
  · rcases decide_access_iff serve.1 serve.2 "/api/namespaces/shop/connectors/till/restart"
      "pOSt" (some clerk) with ⟨decision, decided, permitted, -⟩
    cases decided.symm.trans allowed
    exact permitted.mp rfl
  · rcases decide_access_iff serve.1 serve.2 "/api/namespaces/shop/connectors/till"
      "POST" (some clerk) with ⟨decision, decided, -, notPermitted⟩
    cases decided.symm.trans unknown
    exact notPermitted.mp rfl

end Staff

end Decision

end BrokerTenancy
