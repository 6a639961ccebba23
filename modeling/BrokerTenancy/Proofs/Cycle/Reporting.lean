import BrokerTenancy.Proofs.Cycle.Accounting
import BrokerTenancy.Proofs.Wire.Outcomes

/-!
The report of a cycle against what passed between the cycle and the broker, for every broker whose
answers fit their calls. What a cycle does is told by its plan and by the outcomes of its items, so
all parts of the report follow from the two: what was desired and found, and what was answered.
-/

namespace BrokerTenancy

open Wire (withOutcome removedBy)

/-! ## Calls and answers -/

/-- A call and its answer. -/
abbrev Exchange := AdminCall × AdminAnswer

/-- The answer is of the kind of the call and, unless the call failed as a whole, has one outcome
for each item, for that item and in the order of the call. -/
def AdminAnswer.Suits : AdminAnswer → AdminCall → Prop
  | .described _, .describe _ => True
  | .created told, .create bindings =>
      ∀ creations, told = .ok creations → creations.map (·.1) = bindings
  | .deleted told, .delete filters =>
      ∀ deletions, told = .ok deletions → deletions.map (·.1) = filters
  | _, _ => False

namespace Exchange

def creations : Exchange → List Creation
  | (_, .created (.ok creations)) => creations
  | _ => []

/-- The filters of a call that removes. -/
def filters : Exchange → List BindingFilter
  | (.delete filters, _) => filters
  | _ => []

def deletions : Exchange → List Deletion
  | (_, .deleted (.ok deletions)) => deletions
  | _ => []

end Exchange

/-- What passes between the cycle under way and the broker until an answer ends the cycle. The
counters may be those of any moment, for removals beside the cycle are counted there as well. -/
inductive ManagedCluster.Dialogue :
    ManagedCluster → List Exchange → Outcome Report → Prop
  | ends {managed after : ManagedCluster} {cycle : Cycle} {call : AdminCall}
      {answer : AdminAnswer} {counted : Tally} {result : Outcome Report} (tally : Tally)
      (running : managed.cycle = some cycle) (asked : cycle.call = call)
      (told : managed.answered answer tally = (after, counted, some result)) :
      Dialogue managed [(call, answer)] result
  | goesOn {managed next : ManagedCluster} {cycle : Cycle} {call : AdminCall}
      {answer : AdminAnswer} {counted : Tally} {later : List Exchange} {result : Outcome Report}
      (tally : Tally) (running : managed.cycle = some cycle) (asked : cycle.call = call)
      (told : managed.answered answer tally = (next, counted, none))
      (rest : Dialogue next later result) :
      Dialogue managed ((call, answer) :: later) result

/-- A turn that leads to a result: it has it, or the cycle goes on until it has. -/
def Turn.LeadsTo (settings : ClusterSettings) (exchanges : List Exchange)
    (result : Outcome Report) : Turn → Prop
  | .ends told => exchanges = [] ∧ told = result
  | .continues next => ∃ managed : ManagedCluster, managed.settings = settings ∧
      managed.cycle = some next ∧ managed.Dialogue exchanges result

theorem ManagedCluster.Dialogue.first {managed : ManagedCluster} {exchanges : List Exchange}
    {result : Outcome Report} {cycle : Cycle} (dialogue : managed.Dialogue exchanges result)
    (running : managed.cycle = some cycle) :
    ∃ answer tally rest, exchanges = (cycle.call, answer) :: rest ∧
      (cycle.answered managed.settings tally answer).1.LeadsTo managed.settings rest result := by
  cases dialogue with
  | @ends _ after current call answer counted _ tally same asked told =>
      cases running.symm.trans same
      refine ⟨answer, tally, [], by rw [asked], ?_⟩
      simp only [answered, running] at told
      generalize cycle.answered managed.settings tally answer = turned at told
      rcases turned with ⟨next | ended, raised⟩
      · cases told
      · cases told
        exact ⟨rfl, rfl⟩
  | @goesOn _ next current call answer counted later _ tally same asked told rest =>
      cases running.symm.trans same
      refine ⟨answer, tally, later, by rw [asked], ?_⟩
      simp only [answered, running] at told
      generalize cycle.answered managed.settings tally answer = turned at told
      rcases turned with ⟨following | ended, raised⟩
      · cases told
        exact ⟨{ managed with cycle := some following }, rfl, rfl, rest⟩
      · cases told

/-! ## A plan and its report -/

/-- The plan is carried out when these exchanges follow, with the creations told before. -/
structure Plan.Concludes (settings : ClusterSettings) (plan : Plan) (before : List Creation)
    (exchanges : List Exchange) (report : Report) : Prop where
  created : (before ++ exchanges.flatMap Exchange.creations).map (·.1) = plan.toCreate.toList
  filters : exchanges.flatMap Exchange.filters =
    if settings.dropUnsynced then plan.toDelete.toList.map BindingFilter.exactly else []
  deleted : (exchanges.flatMap Exchange.deletions).map (·.1) =
    exchanges.flatMap Exchange.filters
  report : report = plan.report settings.name
    (.ofCreations (before ++ exchanges.flatMap Exchange.creations))
    (.ofDeletions plan.toDelete.toList (exchanges.flatMap Exchange.deletions))
    (!settings.dropUnsynced && !plan.toDelete.isEmpty)

theorem Batch.of_no_deletions (bindings : List Binding) : ofDeletions bindings [] = {} := by
  rw [ofDeletions, List.zip_nil_right]
  rfl

section Concludes

variable {settings : ClusterSettings} {tally : Tally} {plan : Plan} {report : Report}
  {exchanges : List Exchange} {before : List Creation}

theorem Plan.concludes_at_once (created : before.map (·.1) = plan.toCreate.toList)
    (nothing : settings.dropUnsynced = true → plan.toDelete.isEmpty = true)
    (same : report = plan.report settings.name (.ofCreations before) {}
      (!settings.dropUnsynced && !plan.toDelete.isEmpty)) :
    plan.Concludes settings before [] report := by
  constructor
  · rw [List.flatMap_nil, List.append_nil, created]
  · split
    · next drops =>
      rw [(SortedSet.is_empty_iff _).mp (nothing drops)]
      rfl
    · rfl
  · rfl
  · rw [List.flatMap_nil, List.flatMap_nil, List.append_nil, Batch.of_no_deletions, same]

theorem Plan.concludes_deleting (created : before.map (·.1) = plan.toCreate.toList)
    (drops : settings.dropUnsynced = true)
    (leads : Turn.LeadsTo settings exchanges (.ok report)
      (.continues (.deleting plan (.ofCreations before))))
    (suits : ∀ exchange ∈ exchanges, exchange.2.Suits exchange.1) :
    plan.Concludes settings before exchanges report := by
  rcases leads with ⟨managed, rfl, running, dialogue⟩
  rcases dialogue.first running with ⟨answer, tally, rest, rfl, ended⟩
  have fits : answer.Suits (Cycle.removing plan.toDelete.toList) :=
    suits _ List.mem_cons_self
  rcases answer with told | told | fault | deletions
  · cases fits
  · cases fits
  · cases ended.2
  · rcases ended with ⟨rfl, same⟩
    cases same
    have items : deletions.map (·.1) = plan.toDelete.toList.map BindingFilter.exactly :=
      fits deletions rfl
    constructor
    · simpa [Exchange.creations] using created
    · simp [Exchange.filters, Cycle.call, Cycle.removing, drops]
    · simpa [Exchange.deletions, Exchange.filters, Cycle.call, Cycle.removing] using items
    · simp [Exchange.creations, Exchange.deletions, drops]

theorem Plan.concludes_after_creating (created : before.map (·.1) = plan.toCreate.toList)
    (leads : (Cycle.afterCreating settings plan (.ofCreations before) tally).1.LeadsTo settings
      exchanges (.ok report))
    (suits : ∀ exchange ∈ exchanges, exchange.2.Suits exchange.1) :
    plan.Concludes settings before exchanges report := by
  unfold Cycle.afterCreating at leads
  by_cases drops : settings.dropUnsynced = true
  · rw [if_pos drops] at leads
    split at leads
    · next nothing =>
      rcases leads with ⟨rfl, same⟩
      apply concludes_at_once created (fun _ => nothing)
      rw [drops]
      exact (Except.ok.inj same).symm
    · exact concludes_deleting created drops leads suits
  · rw [if_neg drops] at leads
    rcases leads with ⟨rfl, same⟩
    apply concludes_at_once created (fun again => absurd again drops)
    rw [Bool.eq_false_of_not_eq_true drops]
    exact (Except.ok.inj same).symm

theorem Plan.concludes_creating
    (leads : Turn.LeadsTo settings exchanges (.ok report) (.continues (.creating plan)))
    (suits : ∀ exchange ∈ exchanges, exchange.2.Suits exchange.1) :
    plan.Concludes settings [] exchanges report := by
  rcases leads with ⟨managed, rfl, running, dialogue⟩
  rcases dialogue.first running with ⟨answer, tally, rest, rfl, goesOn⟩
  have fits : answer.Suits (.create plan.toCreate.toList) := suits _ List.mem_cons_self
  rcases answer with told | ⟨fault | creations⟩ | told
  · cases fits
  · cases goesOn.2
  · have concludes := concludes_after_creating (fits creations rfl) goesOn
      fun exchange member => suits exchange (List.mem_cons_of_mem _ member)
    constructor
    · simpa [Exchange.creations] using concludes.created
    · simpa [Exchange.filters, Cycle.call] using concludes.filters
    · simpa [Exchange.deletions, Exchange.filters, Cycle.call] using concludes.deleted
    · simpa [Exchange.creations, Exchange.deletions] using concludes.report
  · cases fits

theorem Plan.concludes_with_plan
    (leads : (Cycle.withPlan settings plan tally).1.LeadsTo settings exchanges (.ok report))
    (suits : ∀ exchange ∈ exchanges, exchange.2.Suits exchange.1) :
    plan.Concludes settings [] exchanges report := by
  unfold Cycle.withPlan at leads
  split at leads
  · next nothing =>
    have created : ([] : List Creation).map (·.1) = plan.toCreate.toList :=
      ((SortedSet.is_empty_iff _).mp nothing).symm
    exact concludes_after_creating created leads suits
  · exact concludes_creating leads suits

/-- A cycle that ends with a report has first asked for the bindings and then carried its plan
out. -/
theorem ManagedCluster.Dialogue.concludes {managed : ManagedCluster} {tenants : List Tenant}
    {desired : BindingSet} (dialogue : managed.Dialogue exchanges (.ok report))
    (running : managed.cycle = some (.describing tenants desired))
    (suits : ∀ exchange ∈ exchanges, exchange.2.Suits exchange.1) :
    ∃ found rest, exchanges = (.describe .any, .described (.ok found)) :: rest ∧
      Plan.Concludes managed.settings
        (.ofFound managed.settings tenants desired (.ofList (onManagedTypes found))) [] rest
        report := by
  rcases dialogue.first running with ⟨answer, tally, rest, rfl, goesOn⟩
  have fits : answer.Suits (.describe .any) := suits _ List.mem_cons_self
  rcases answer with ⟨fault | found⟩ | told | told
  · cases goesOn.2
  · exact ⟨found, rest, rfl, Plan.concludes_with_plan goesOn
      fun exchange member => suits exchange (List.mem_cons_of_mem _ member)⟩
  · cases fits
  · cases fits

end Concludes

/-! ## What a report adds up to -/

/-- The outcomes of the bindings that were sent, in the order of the calls. -/
def creationOutcomes (exchanges : List Exchange) : List (Outcome Unit) :=
  (exchanges.flatMap Exchange.creations).map (·.2)

/-- The outcomes of the filters that were sent, in the order of the calls. -/
def removalOutcomes (exchanges : List Exchange) : List (Outcome (List Binding)) :=
  (exchanges.flatMap Exchange.deletions).map (·.2)

/-- The parts of a report fit each other, what was desired and found, and the outcomes. -/
structure Report.AddsUp (settings : ClusterSettings) (desired actual : BindingSet)
    (exchanges : List Exchange) (report : Report) : Prop where
  unskipped : report.skipped = none
  /-- Both lists are in increasing order, without repetition, and have no binding in common. -/
  toCreate : SortedSet.Lists report.toCreate (desired.members \ actual.members)
  toDelete : SortedSet.Lists report.toDelete (actual.members \ desired.members)
  disjoint : report.toCreate.Disjoint report.toDelete
  sizes : report.desired = desired.size ∧ report.actual = actual.size
  /-- The bindings that are both desired and there are counted alike on both sides. -/
  balance : report.toCreate.length ≤ report.desired ∧ report.toDelete.length ≤ report.actual ∧
    report.desired - report.toCreate.length = report.actual - report.toDelete.length
  created : report.created = withOutcome true report.toCreate (creationOutcomes exchanges)
  deleted : report.deleted = removedBy (removalOutcomes exchanges)
  failed : report.failed =
    withOutcome false report.toCreate (creationOutcomes exchanges) ++
      withOutcome false report.toDelete (removalOutcomes exchanges)
  /-- What was created and what was not are made up of the bindings to create, in their order. -/
  split : (report.created ++
      withOutcome false report.toCreate (creationOutcomes exchanges)).Perm report.toCreate ∧
    ∀ success,
      (withOutcome success report.toCreate (creationOutcomes exchanges)).Sublist report.toCreate
  filters : exchanges.flatMap Exchange.filters =
    if settings.dropUnsynced then report.toDelete.map BindingFilter.exactly else []
  /-- Of the filters sent, one alone matches a binding to remove. -/
  single : settings.dropUnsynced = true → ∀ binding ∈ report.toDelete,
    (exchanges.flatMap Exchange.filters).filter (·.isMatch binding) = [.exactly binding]
  withheld : report.withheld = true ↔ settings.dropUnsynced = false ∧ report.toDelete ≠ []
  kept : report.withheld = true → report.deleted = []
  outOfScope : ∀ binding ∈ report.outOfScope, binding ∉ desired ∧ binding ∉ report.toDelete
  converged : report.isConverged = true ↔ desired = actual

theorem Wire.with_outcome_sublist {Value : Type} (success : Bool) {bindings : List Binding}
    {outcomes : List (Outcome Value)} (length : outcomes.length = bindings.length) :
    (withOutcome success bindings outcomes).Sublist bindings := by
  have parts := (List.filter_sublist (p := fun entry : Binding × Outcome Value =>
    entry.2.isOk == success) (l := bindings.zip outcomes)).map Prod.fst
  rwa [List.map_fst_zip (Nat.le_of_eq length.symm)] at parts

/-- The only exact filter that matches a binding is its own. -/
theorem filter_exactly {bindings : List Binding} (distinct : bindings.Nodup) {binding : Binding}
    (member : binding ∈ bindings) :
    (bindings.map BindingFilter.exactly).filter (·.isMatch binding) = [.exactly binding] := by
  have own : (fun other => (BindingFilter.exactly other).isMatch binding) = (· == binding) := by
    funext other
    rw [Bool.eq_iff_iff, BindingFilter.is_match_exactly, beq_iff_eq]
  rw [List.filter_map]
  change (bindings.filter fun other => (BindingFilter.exactly other).isMatch binding).map _ = _
  rw [own, List.filter_beq, distinct.count, if_pos member]
  rfl

namespace Plan

variable {settings : ClusterSettings} {plan : Plan} {report : Report} {exchanges : List Exchange}

theorem Concludes.creation_batch (concludes : plan.Concludes settings [] exchanges report) :
    (creationOutcomes exchanges).length = plan.toCreate.toList.length ∧
      Batch.ofCreations (exchanges.flatMap Exchange.creations) =
        { succeeded := withOutcome true plan.toCreate.toList (creationOutcomes exchanges)
          failed := withOutcome false plan.toCreate.toList (creationOutcomes exchanges) } := by
  have created := concludes.created
  rw [List.nil_append] at created
  have paired : exchanges.flatMap Exchange.creations =
      plan.toCreate.toList.zip (creationOutcomes exchanges) := by
    rw [← created, creationOutcomes, List.zip_map', List.map_id']
  constructor
  · rw [← created, creationOutcomes, List.length_map, List.length_map]
  · rw [paired]
    exact Wire.of_creations_zip _ _

/-- Without filters there are no outcomes either, so what was kept needs no case of its own. -/
theorem Concludes.removal_batch (concludes : plan.Concludes settings [] exchanges report) :
    Batch.ofDeletions plan.toDelete.toList (exchanges.flatMap Exchange.deletions) =
      { succeeded := removedBy (removalOutcomes exchanges)
        failed := withOutcome false plan.toDelete.toList (removalOutcomes exchanges) } := by
  have told := concludes.deleted
  rw [concludes.filters] at told
  split at told
  · have paired : exchanges.flatMap Exchange.deletions =
        (plan.toDelete.toList.map BindingFilter.exactly).zip (removalOutcomes exchanges) := by
      rw [← told, removalOutcomes, List.zip_map', List.map_id']
    have length : (removalOutcomes exchanges).length = plan.toDelete.toList.length := by
      rw [← List.length_map (f := BindingFilter.exactly), ← told, removalOutcomes, List.length_map,
        List.length_map]
    rw [paired]
    exact Wire.of_deletions_zip _ _ length
  · have none : exchanges.flatMap Exchange.deletions = [] := List.map_eq_nil_iff.mp told
    rw [removalOutcomes, none, Batch.of_no_deletions, List.map_nil, withOutcome,
      List.zip_nil_right]
    rfl

theorem is_converged_report (cluster : String) (creations deletions : Batch) (withheld : Bool) :
    (plan.report cluster creations deletions withheld).isConverged = true ↔
      plan.desired = plan.actual := by
  have nothing (set : BindingSet) : set.toList.isEmpty = true ↔ set.members = ∅ :=
    ⟨SortedSet.members_eq_empty, SortedSet.is_empty_of_members⟩
  simp only [Report.isConverged, Plan.report, Option.isNone_none, Bool.true_and, Bool.and_eq_true,
    nothing, to_create_members, to_delete_members, Set.sdiff_eq_empty]
  constructor
  · rintro ⟨within, beyond⟩
    exact SortedSet.eq_of_members (within.antisymm beyond)
  · intro same
    rw [same]
    exact ⟨subset_rfl, subset_rfl⟩

theorem withheld_iff :
    (!settings.dropUnsynced && !plan.toDelete.isEmpty) = true ↔
      settings.dropUnsynced = false ∧ plan.toDelete.toList ≠ [] := by
  rw [Bool.and_eq_true, Bool.not_eq_true', Bool.not_eq_true',
    ← Bool.not_eq_true plan.toDelete.isEmpty, SortedSet.is_empty_iff]

theorem Concludes.adds_up (concludes : plan.Concludes settings [] exchanges report)
    (outOfScope : ∀ binding ∈ plan.outOfScope, binding ∉ plan.desired ∧ binding ∉ plan.actual) :
    report.AddsUp settings plan.desired plan.actual exchanges := by
  rcases concludes.creation_batch with ⟨length, creations⟩
  have same := concludes.report
  rw [List.nil_append, creations, concludes.removal_batch] at same
  have sent := concludes.filters
  subst same
  rcases SortedSet.size_difference_balance plan.desired plan.actual with
    ⟨common, wanted, present⟩
  constructor
  · rfl
  · exact plan.to_create_members ▸ plan.toCreate.to_list_lists
  · exact plan.to_delete_members ▸ plan.toDelete.to_list_lists
  · intro binding creating deleting
    exact ((SortedSet.mem_difference _ _ _).mp deleting).2
      ((SortedSet.mem_difference _ _ _).mp creating).1
  · exact ⟨rfl, rfl⟩
  · change plan.toCreate.size ≤ plan.desired.size ∧ plan.toDelete.size ≤ plan.actual.size ∧
      plan.desired.size - plan.toCreate.size = plan.actual.size - plan.toDelete.size
    have creating : plan.toCreate.size + common = plan.desired.size := wanted
    have deleting : plan.toDelete.size + common = plan.actual.size := present
    omega
  · rfl
  · rfl
  · rfl
  · exact ⟨Wire.with_outcome_perm length, fun success => Wire.with_outcome_sublist success length⟩
  · exact sent
  · intro drops binding unwanted
    rw [sent, if_pos drops]
    exact filter_exactly plan.toDelete.to_list_nodup unwanted
  · exact withheld_iff
  · intro withheld
    have keeps := (Bool.and_eq_true_iff.mp withheld).1
    have told := concludes.deleted
    rw [sent, Bool.not_eq_true' _ |>.mp keeps] at told
    change removedBy (removalOutcomes exchanges) = []
    rw [removalOutcomes, List.map_eq_nil_iff.mp told]
    rfl
  · intro binding foreign
    rcases outOfScope binding foreign with ⟨undesired, unseen⟩
    refine ⟨undesired, fun deleting => unseen ?_⟩
    exact ((SortedSet.mem_difference _ _ _).mp deleting).1
  · exact is_converged_report _ _ _ _

/-- The order and the repetitions of what a broker tells make no difference. -/
theorem against_of_list (settings : ClusterSettings) (tenants : List Tenant) (desired : BindingSet)
    (found : List Binding) :
    ofFound settings tenants desired (.ofList (onManagedTypes found)) =
      against settings tenants desired (.ofList found) := by
  have same : SortedSet.ofList (onManagedTypes found) =
      .ofList (onManagedTypes (SortedSet.ofList found).toList) := by
    apply SortedSet.eq_of_members
    ext binding
    simp only [SortedSet.mem_members, SortedSet.mem_of_list, onManagedTypes, List.mem_filter,
      SortedSet.mem_to_list]
  rw [against, same]

theorem not_managed_of_out_of_scope {tenants : List Tenant} {desired held : BindingSet}
    {binding : Binding}
    (beyond : binding ∈ (against settings tenants desired held).outOfScope) :
    settings.managedUsersOnly = true ∧
      ¬(managedPrincipals tenants).contains binding.principal = true := by
  unfold against ofFound at beyond
  split at beyond
  · next only =>
    rw [SortedSet.mem_filter, Bool.not_eq_true', ← Bool.not_eq_true] at beyond
    exact ⟨only, beyond.2⟩
  · exact absurd beyond (SortedSet.not_mem_empty binding)

end Plan

/-- What is desired is for everyone or for the user of a tenant, whatever the stores answer. -/
theorem ResourceQuery.desired_is_for {query : ResourceQuery} {tenants : List Tenant}
    {desired : BindingSet} (found : query.desiredBindings tenants = .ok desired)
    {binding : Binding} (asked : binding ∈ desired) :
    ∃ tenant ∈ tenants, binding.IsFor tenant := by
  simp only [desiredBindings, Outcome.bind_eq_ok, Outcome.pure_eq_ok] at found
  rcases found with ⟨parts, worked, rfl⟩
  rw [SortedSet.mem_of_list, List.mem_flatten] at asked
  rcases asked with ⟨part, inParts, inPart⟩
  rcases (Outcome.mem_of_map_ok worked part).mp inParts with ⟨tenant, inTenants, atTenant⟩
  refine ⟨tenant, inTenants, ?_⟩
  simp only [tenantBindings, Outcome.bind_eq_ok, Outcome.pure_eq_ok] at atTenant
  rcases atTenant with ⟨entries, -, granted, expanded, streams, -, rfl⟩
  rcases List.mem_append.mp inPart with fromEntry | fromStream
  · rcases List.mem_flatten.mp fromEntry with ⟨bindings, inGranted, member⟩
    rcases (Outcome.mem_of_map_ok expanded bindings).mp inGranted with ⟨entry, -, atEntry⟩
    rcases expand_entry_ok entry tenant with ⟨all, same, managed⟩
    cases atEntry.symm.trans same
    exact (managed binding member).2
  · rcases List.mem_flatMap.mp fromStream with ⟨stream, -, member⟩
    exact (mem_expand_stream member).2

namespace ManagedCluster

/-- A trigger without a result has started a cycle with what the stores answered. -/
theorem trigger_begins {managed started : ManagedCluster} {query : ResourceQuery}
    {tally counted : Tally} (triggered : managed.trigger query tally = (started, counted, none)) :
    ∃ tenants desired, query.tenantsOn managed.settings.name = .ok tenants ∧
      query.desiredBindings tenants = .ok desired ∧
      started = { managed with cycle := some (.describing tenants desired) } := by
  by_cases manages : managed.settings.manageAcls = true
  · cases running : managed.cycle with
    | some cycle =>
        rw [trigger_busy query tally manages running] at triggered
        cases triggered
    | none =>
        rcases trigger_idle query tally manages running with
          ⟨fault, failed⟩ | ⟨cycle, begun, began⟩
        · rw [failed] at triggered
          cases triggered
        · rw [began] at triggered
          cases triggered
          simp only [Cycle.begin, Outcome.bind_eq_ok, Outcome.pure_eq_ok] at begun
          rcases begun with ⟨tenants, hosted, desired, asked, rfl⟩
          exact ⟨tenants, desired, hosted, asked, rfl⟩
  · rw [trigger, Bool.eq_false_of_not_eq_true manages] at triggered
    cases triggered

/-- Whatever the stores hold and whatever the broker answers, as long as it has one outcome for each
item, the report of a cycle adds up: to what the stored resources ask for and what the cycle looked
at of the bindings that it was told of, and to the outcomes of what it then sent. -/
theorem report_adds_up {managed started : ManagedCluster} {query : ResourceQuery}
    {tally counted : Tally} {exchanges : List Exchange} {report : Report}
    (triggered : managed.trigger query tally = (started, counted, none))
    (dialogue : started.Dialogue exchanges (.ok report))
    (suits : ∀ exchange ∈ exchanges, exchange.2.Suits exchange.1) :
    ∃ tenants desired found actual later,
      query.tenantsOn managed.settings.name = .ok tenants ∧
      query.desiredBindings tenants = .ok desired ∧
      exchanges = (.describe .any, .described (.ok found)) :: later ∧
      (∀ binding, binding ∈ actual ↔
        binding ∈ found ∧ binding.OnManagedType ∧
          (managed.settings.managedUsersOnly = true →
            binding.principal = "User:*" ∨
              ∃ tenant ∈ tenants, binding.principal = "User:" ++ tenant.kafkaUser)) ∧
      report.AddsUp managed.settings desired actual later := by
  rcases trigger_begins triggered with ⟨tenants, desired, hosted, asked, rfl⟩
  rcases dialogue.concludes rfl suits with ⟨found, later, rfl, concludes⟩
  rw [Plan.against_of_list] at concludes
  have looked (binding : Binding) :
      binding ∈ (Plan.against managed.settings tenants desired (.ofList found)).actual ↔ _ :=
    Plan.mem_actual binding
  have addsUp := concludes.adds_up fun binding beyond => by
    rcases Plan.not_managed_of_out_of_scope beyond with ⟨only, stranger⟩
    constructor
    · intro wanted
      rw [Plan.against_desired] at wanted
      rcases query.desired_is_for asked wanted with ⟨tenant, known, isFor⟩
      rw [Plan.mem_managed_principals] at stranger
      exact stranger (isFor.imp_right fun user => ⟨tenant, known, user⟩)
    · intro seen
      exact stranger (((looked binding).mp seen).2.2 only)
  rw [Plan.against_desired] at addsUp
  refine ⟨tenants, desired, found, _, later, hosted, asked, rfl, ?_, addsUp⟩
  intro binding
  rw [looked, SortedSet.mem_of_list, Plan.mem_managed_types, Plan.mem_managed_principals]
  rfl

open Site (tillMay othersRead shopCatalog)

/-- A broker that tells of its bindings in no order, one of them twice, and creates two of the three
bindings that it is sent. -/
def patchyExchanges : List Exchange := [
  (.describe .any,
    .described (.ok [tillMay .read .literal "orders", othersRead, tillMay .read .literal "old",
      othersRead])),
  (.create [tillMay .create .prefixed "flow", tillMay .delete .prefixed "flow",
      .allow .transactionalId "flow" .prefixed "User:till" .write],
    .created (.ok [(tillMay .create .prefixed "flow", .ok ()),
      (tillMay .delete .prefixed "flow", .error (.brokerTimeout "east" 10)),
      (.allow .transactionalId "flow" .prefixed "User:till" .write, .ok ())])),
  (.delete [.exactly (tillMay .read .literal "old")],
    .deleted (.ok [(.exactly (tillMay .read .literal "old"), .ok [])]))]

theorem report_adds_up_patchy :
    ∃ started counted report,
      trigger { settings := Upkeep.shopSettings, timeout := 10 } shopCatalog.query {} =
        (started, counted, none) ∧
      started.Dialogue patchyExchanges (.ok report) ∧
      (∀ exchange ∈ patchyExchanges, exchange.2.Suits exchange.1) ∧
      report.toDelete = [tillMay .read .literal "old"] ∧
      report.failed = [tillMay .delete .prefixed "flow"] ∧
      report.outOfScope = [othersRead] ∧ ¬report.isConverged = true := by
  rcases show ∃ started counted report,
      trigger { settings := Upkeep.shopSettings, timeout := 10 } shopCatalog.query {} =
        (started, counted, none) ∧
      started.Dialogue patchyExchanges (.ok report) ∧
      report.toCreate = [tillMay .create .prefixed "flow", tillMay .delete .prefixed "flow",
        .allow .transactionalId "flow" .prefixed "User:till" .write] ∧
      report.toDelete = [tillMay .read .literal "old"] ∧ report.outOfScope = [othersRead] from
      ⟨_, _, _, rfl, .goesOn {} rfl rfl rfl
          (.goesOn {} rfl (by decide) rfl (.ends {} rfl (by decide) rfl)), by decide, by decide,
        by decide⟩ with
    ⟨started, counted, report, triggered, dialogue, creating, removing, beyond⟩
  have suits : ∀ exchange ∈ patchyExchanges, exchange.2.Suits exchange.1 := by
    simp [patchyExchanges, AdminAnswer.Suits]
  rcases report_adds_up triggered dialogue suits with
    ⟨tenants, desired, found, actual, later, -, -, same, -, addsUp⟩
  cases same
  have failed := addsUp.failed
  rw [creating, removing] at failed
  refine ⟨started, counted, report, triggered, dialogue, suits, removing,
    failed.trans (by decide), beyond, ?_⟩
  intro converged
  have nothing := addsUp.converged.mp converged
  have unwanted := (addsUp.toDelete.complete (tillMay .read .literal "old")).mp
    (by rw [removing]; decide)
  rw [nothing] at unwanted
  exact unwanted.2 unwanted.1

end ManagedCluster

end BrokerTenancy
