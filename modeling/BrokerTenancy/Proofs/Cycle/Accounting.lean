import BrokerTenancy.Proofs.Cycle.Foreign

/-!
The counters of a cluster account for its broker. A creation is counted exactly when the broker then
holds one binding more, because a cycle creates only what was not there when it looked and nothing
but cycles creates; a removal is counted by the bindings that it took. So the broker holds what it
held at first and what was created, less what was deleted, whatever calls fail, whatever is refused,
and whatever targeted removals come between the calls of a cycle.
-/

namespace BrokerTenancy

namespace Tally

/-- What a counter shows. One that was never touched shows zero. -/
def value (counter : Option Nat) : Nat := counter.getD 0

theorem value_raised (counter : Option Nat) (amount : Nat) :
    value (raised counter amount) = value counter + amount := rfl

/-- Counting creations touches two counters. One of them goes up by the successful creations. -/
theorem count_creations_eq (tally : Tally) (creations : List Creation) :
    ∃ created failed, tally.countCreations creations = { tally with created, failed } ∧
      value created =
        value tally.created + (Batch.ofCreations creations).succeeded.length := by
  induction creations generalizing tally with
  | nil => exact ⟨tally.created, tally.failed, rfl, rfl⟩
  | cons creation rest induction =>
      obtain ⟨created, failed, counted, raised⟩ := induction (tally.countCreation creation)
      obtain ⟨binding, ok | fault⟩ := creation
      · refine ⟨created, failed, counted, ?_⟩
        exact raised
      · refine ⟨created, failed, counted, ?_⟩
        rw [raised]
        simp only [countCreation, value_raised, Batch.ofCreations, List.filterMap_cons,
          List.length_cons]
        omega

/-- How many bindings the filter of a deletion took away. -/
def taken (deletion : Deletion) : Nat :=
  match deletion.2 with
  | .ok removed => removed.length
  | .error _ => 0

def takenAll : List Deletion → Nat
  | [] => 0
  | deletion :: rest => taken deletion + takenAll rest

/-- Counting deletions touches two counters. One of them goes up by the bindings taken away. -/
theorem count_deletions_eq (tally : Tally) (deletions : List Deletion) :
    ∃ deleted failed, tally.countDeletions deletions = { tally with deleted, failed } ∧
      value deleted = value tally.deleted + takenAll deletions := by
  induction deletions generalizing tally with
  | nil => exact ⟨tally.deleted, tally.failed, rfl, rfl⟩
  | cons deletion rest induction =>
      obtain ⟨deleted, failed, counted, raised⟩ := induction (tally.countDeletion deletion)
      obtain ⟨filter, fault | removed⟩ := deletion
      · refine ⟨deleted, failed, counted, ?_⟩
        rw [raised, takenAll, taken, Nat.zero_add]
        rfl
      · refine ⟨deleted, failed, counted, ?_⟩
        rw [raised, takenAll, taken, countDeletion, value_raised, Nat.add_assoc]

/-- The broker holds what it held at first and what was created, less what was deleted. -/
def Balances (initial : Nat) (held : BindingSet) (tally : Tally) : Prop :=
  held.size + value tally.deleted = initial + value tally.created

end Tally

namespace Broker

theorem delete_matching_cases (refused : List Binding) (bindings : BindingSet)
    (filter : BindingFilter) :
    (∃ fault, deleteMatching refused bindings filter = (bindings, (filter, .error fault))) ∨
      deleteMatching refused bindings filter =
        (bindings.filter fun binding => !filter.isMatch binding,
          (filter, .ok (bindings.filter filter.isMatch).toList)) := by
  simp only [deleteMatching]
  split
  · exact .inl ⟨_, rfl⟩
  · exact .inr rfl

theorem size_delete_matching (refused : List Binding) (bindings : BindingSet)
    (filter : BindingFilter) :
    (deleteMatching refused bindings filter).1.size +
      Tally.taken (deleteMatching refused bindings filter).2 = bindings.size := by
  obtain ⟨fault, blocked⟩ | removed := delete_matching_cases refused bindings filter
  · rw [blocked]
    rfl
  · rw [removed]
    exact (Nat.add_comm _ _).trans (bindings.size_filter filter.isMatch)

/-- What a call leaves and what its filters took make up what was there. -/
theorem size_delete_all (refused : List Binding) (bindings : BindingSet)
    (filters : List BindingFilter) :
    (deleteAll refused bindings filters).1.size +
      Tally.takenAll (deleteAll refused bindings filters).2 = bindings.size := by
  induction filters generalizing bindings with
  | nil => rfl
  | cons filter rest induction =>
      have first := size_delete_matching refused bindings filter
      have others := induction (deleteMatching refused bindings filter).1
      simp only [deleteAll, Tally.takenAll]
      omega

theorem length_delete_all (refused : List Binding) (bindings : BindingSet)
    (filters : List BindingFilter) :
    (deleteAll refused bindings filters).2.length = filters.length := by
  induction filters generalizing bindings with
  | nil => rfl
  | cons filter rest induction => exact congrArg Nat.succ (induction _)

theorem held_of_delete_all {refused : List Binding} {bindings : BindingSet}
    {filters : List BindingFilter} {binding : Binding}
    (left : binding ∈ (deleteAll refused bindings filters).1) : binding ∈ bindings := by
  induction filters generalizing bindings with
  | nil => exact left
  | cons filter rest induction =>
      have earlier : binding ∈ (deleteMatching refused bindings filter).1 := induction left
      obtain ⟨fault, blocked⟩ | removed := delete_matching_cases refused bindings filter
      · rwa [blocked] at earlier
      · rw [removed, SortedSet.mem_filter] at earlier
        exact earlier.1

end Broker

/-- The plan is to create what is not among the bindings. -/
def Plan.CreatesMissing (held : BindingSet) (plan : Plan) : Prop :=
  ∀ binding ∈ plan.toCreate, binding ∉ held

/-- The cycle creates nothing that the broker holds already, and removes where the settings have
unwanted bindings dropped. -/
def Cycle.Ready (settings : ClusterSettings) (held : BindingSet) : Cycle → Prop
  | .describing tenants desired =>
      ∀ found : BindingSet, (Plan.against settings tenants desired found).CreatesMissing found
  | .creating plan => plan.CreatesMissing held
  | .deleting _ _ => settings.dropUnsynced = true

def Turn.Ready (settings : ClusterSettings) (held : BindingSet) : Turn → Prop
  | .continues cycle => cycle.Ready settings held
  | .ends _ => True

section CreatesMissing

variable {settings : ClusterSettings} {held fewer : BindingSet} {plan : Plan} {cycle : Cycle}
  {tally : Tally}

/-- A cycle looks at all that it may create, so it misses nothing of it that is there. -/
theorem Plan.against_creates_missing {catalog : Catalog} {tenants : List Tenant}
    {desired : BindingSet}
    (hosted : ∀ tenant, tenant ∈ tenants ↔ catalog.Hosts settings.name tenant)
    (asked : desired.members = catalog.desired settings.name) (found : BindingSet) :
    (against settings tenants desired found).CreatesMissing found := by
  intro binding missing present
  rw [← SortedSet.mem_members, to_create_members, actual_members hosted, against_desired,
    asked] at missing
  exact missing.2 ⟨present, catalog.manages_of_desired settings missing.1⟩

theorem Cycle.begin_ready {catalog : Catalog}
    (begun : Cycle.begin settings catalog.query = .ok cycle) :
    cycle.Ready settings held := by
  obtain ⟨tenants, desired, rfl, hosted, asked⟩ := Cycle.begin_ok begun
  exact Plan.against_creates_missing hosted asked

theorem Cycle.Ready.mono (ready : cycle.Ready settings held)
    (within : ∀ binding ∈ fewer, binding ∈ held) : cycle.Ready settings fewer := by
  cases cycle with
  | describing tenants desired => exact ready
  | creating plan =>
      intro binding wanted present
      exact ready binding wanted (within binding present)
  | deleting plan creations => exact ready

theorem Cycle.after_creating_ready (settings : ClusterSettings) (held : BindingSet) (plan : Plan)
    (creations : Batch) (tally : Tally) :
    (afterCreating settings plan creations tally).1.Ready settings held := by
  unfold afterCreating
  split
  · next drops =>
    split
    · trivial
    · exact drops
  · trivial

theorem Plan.CreatesMissing.with_plan (missing : plan.CreatesMissing held) :
    (Cycle.withPlan settings plan tally).1.Ready settings held := by
  unfold Cycle.withPlan
  split
  · exact Cycle.after_creating_ready settings held plan _ tally
  · exact missing

end CreatesMissing

section Balances

variable {settings : ClusterSettings} {broker : Broker} {plan : Plan} {cycle : Cycle}
  {tally : Tally} {initial : Nat}

theorem Cycle.after_creating_counts (settings : ClusterSettings) (plan : Plan) (creations : Batch)
    (tally : Tally) :
    ∃ pendingDelete,
      (afterCreating settings plan creations tally).2 = { tally with pendingDelete } := by
  unfold afterCreating
  split
  · split <;> exact ⟨_, rfl⟩
  · exact ⟨_, rfl⟩

theorem Cycle.with_plan_counts (settings : ClusterSettings) (plan : Plan) (tally : Tally) :
    ∃ pendingDelete, (withPlan settings plan tally).2 = { tally with pendingDelete } := by
  unfold withPlan
  split
  · exact after_creating_counts settings plan {} tally
  · exact ⟨_, rfl⟩

/-- Every binding that a broker accepts to create, and does not hold, makes one more. -/
theorem Broker.size_create_all (broker : Broker) {wanted : BindingSet}
    (missing : ∀ binding ∈ wanted, binding ∉ broker.bindings) :
    (broker.createAll wanted.toList).1.bindings.size =
      broker.bindings.size +
        (Batch.ofCreations (wanted.toList.map broker.creation)).succeeded.length := by
  have accepted : (wanted.toList.filter fun binding => !broker.refused.contains binding) =
      wanted.toList.filter (· ∉ broker.refused) := by
    simp
  rw [of_creations, Batch.split, createAll, accepted]
  apply SortedSet.size_insert_all
  · exact wanted.to_list_nodup.filter _
  · intro binding member
    exact missing binding (List.mem_filter.mp member).1

/-- Removing keeps the balance, when what the filters took is counted. -/
theorem Tally.Balances.removed (balances : tally.Balances initial broker.bindings)
    (available : broker.available = true) (unwanted : List Binding) :
    ∃ after deletions,
      broker.perform (Cycle.removing unwanted) = (after, .deleted (.ok deletions)) ∧
      (tally.countDeletions (deletions.take unwanted.length)).Balances initial after.bindings ∧
      ∀ binding ∈ after.bindings, binding ∈ broker.bindings := by
  have parted := Broker.size_delete_all broker.refused broker.bindings
    (unwanted.map BindingFilter.exactly)
  have all := Broker.length_delete_all broker.refused broker.bindings
    (unwanted.map BindingFilter.exactly)
  rw [List.length_map] at all
  refine ⟨_, _, Broker.perform_removing available unwanted, ?_,
    fun binding left => Broker.held_of_delete_all left⟩
  rw [← all, List.take_length]
  generalize (Broker.deleteAll broker.refused broker.bindings
    (unwanted.map BindingFilter.exactly)).2 = deletions at parted
  obtain ⟨deleted, failed, counted, raised⟩ := count_deletions_eq tally deletions
  rw [counted]
  unfold Balances at balances ⊢
  simp only
  omega

/-- A call that reaches the broker keeps the balance, when its answer is counted. -/
theorem Tally.Balances.performed (balances : tally.Balances initial broker.bindings)
    (ready : cycle.Ready settings broker.bindings)
    (available : broker.available = true) :
    (cycle.answered settings tally (broker.perform cycle.call).2).2.Balances initial
        (broker.perform cycle.call).1.bindings ∧
      (cycle.answered settings tally (broker.perform cycle.call).2).1.Ready settings
        (broker.perform cycle.call).1.bindings := by
  cases cycle with
  | describing tenants desired =>
      rw [Cycle.call, Broker.perform_describe available]
      obtain ⟨pending, counted⟩ := Cycle.with_plan_counts settings
        (Plan.against settings tenants desired broker.bindings) tally
      refine ⟨?_, (ready broker.bindings).with_plan⟩
      change (Cycle.withPlan settings (Plan.against settings tenants desired broker.bindings)
        tally).2.Balances initial broker.bindings
      rw [counted]
      exact balances
  | creating plan =>
      have grown := (broker.recordCall (.create plan.toCreate.toList)).size_create_all ready
      rw [Cycle.call, Broker.perform_creating available, Cycle.answered]
      refine ⟨?_, Cycle.after_creating_ready settings _ plan _ _⟩
      change _ = broker.bindings.size + (Batch.ofCreations
        (plan.toCreate.toList.map broker.creation)).succeeded.length at grown
      generalize plan.toCreate.toList.map broker.creation = creations at grown ⊢
      obtain ⟨pending, waiting⟩ := Cycle.after_creating_counts settings plan
        (.ofCreations creations) (tally.countCreations creations)
      obtain ⟨created, failed, counted, raised⟩ := count_creations_eq tally creations
      rw [waiting, counted]
      unfold Balances at balances ⊢
      simp only
      omega
  | deleting plan creations =>
      obtain ⟨after, deletions, performed, balanced, -⟩ :=
        balances.removed available plan.toDelete.toList
      rw [Cycle.call, performed, Cycle.answered]
      exact ⟨balanced, trivial⟩

end Balances

/-- How many bindings are pending after a cycle with this result. -/
def ClusterSettings.pendingAfter (settings : ClusterSettings) : Outcome Report → Nat
  | .ok report => if settings.dropUnsynced then 0 else report.toDelete.length
  | .error _ => 0

def Turn.result : Turn → Option (Outcome Report)
  | .continues _ => none
  | .ends result => some result

namespace Tally

/-- What the counters tell of cycles that have ended, by their results. -/
structure Records (settings : ClusterSettings) (results : List (Outcome Report))
    (tally : Tally) : Prop where
  aborted : value tally.aborted = results.countP fun result => !result.isOk
  pending : value tally.pendingDelete = results.getLast?.elim 0 settings.pendingAfter

variable {settings : ClusterSettings} {results : List (Outcome Report)} {tally counted : Tally}

theorem Records.ended {result : Outcome Report} (records : tally.Records settings results)
    (aborted : value counted.aborted = value tally.aborted + if result.isOk then 0 else 1)
    (pending : value counted.pendingDelete = settings.pendingAfter result) :
    counted.Records settings (results ++ [result]) where
  aborted := by
    rw [aborted, records.aborted, List.countP_append, List.countP_singleton]
    cases result <;> rfl
  pending := by
    rw [pending, List.getLast?_concat]
    rfl

theorem Records.aborts (records : tally.Records settings results) (fault : Fault) :
    tally.cycleAborted.Records settings (results ++ [.error fault]) :=
  records.ended rfl rfl

/-- Where unwanted bindings are dropped, none is ever pending. -/
theorem Records.pending_eq_zero (records : tally.Records settings results)
    (drops : settings.dropUnsynced = true) : value tally.pendingDelete = 0 := by
  rw [records.pending]
  obtain none | ⟨fault | report⟩ := results.getLast?
  · rfl
  · rfl
  · exact if_pos drops

theorem Records.after_creating (records : tally.Records settings results) (plan : Plan)
    (creations : Batch) :
    let turned := Cycle.afterCreating settings plan creations tally
    turned.2.cycles = tally.cycles ∧
      turned.2.Records settings (results ++ turned.1.result.toList) := by
  simp only [Cycle.afterCreating]
  split
  · next drops =>
    split
    · exact ⟨rfl, records.ended rfl (if_pos drops).symm⟩
    · have nothing := records.pending_eq_zero drops
      refine ⟨rfl, ?_⟩
      simp only [Turn.result, Option.toList_none, List.append_nil]
      exact ⟨records.aborted, nothing.symm.trans records.pending⟩
  · next keeps => exact ⟨rfl, records.ended rfl (if_neg keeps).symm⟩

theorem Records.with_plan (records : tally.Records settings results) (plan : Plan) :
    let turned := Cycle.withPlan settings plan tally
    turned.2.cycles = tally.cycles ∧
      turned.2.Records settings (results ++ turned.1.result.toList) := by
  simp only [Cycle.withPlan]
  split
  · exact records.after_creating plan {}
  · simp only [Turn.result, Option.toList_none, List.append_nil]
    exact ⟨trivial, records⟩

/-- Whatever the answer, a turn of a cycle is recorded when it ends the cycle. -/
theorem Records.answered {cycle : Cycle} {held : BindingSet}
    (records : tally.Records settings results) (ready : cycle.Ready settings held)
    (answer : AdminAnswer) :
    let turned := cycle.answered settings tally answer
    turned.2.cycles = tally.cycles ∧
      turned.2.Records settings (results ++ turned.1.result.toList) := by
  intro turned
  unfold turned Cycle.answered
  split
  · exact records.with_plan _
  · next plan creations =>
    obtain ⟨created, failed, counted, -⟩ := count_creations_eq tally creations
    rw [counted]
    have unaffected : Records settings results { tally with created, failed } :=
      ⟨records.aborted, records.pending⟩
    exact unaffected.after_creating plan _
  · next plan creations deletions =>
    obtain ⟨deleted, failed, counted, -⟩ :=
      count_deletions_eq tally (deletions.take plan.toDelete.toList.length)
    have drops : settings.dropUnsynced = true := ready
    have nothing := records.pending_eq_zero drops
    simp only [counted]
    exact ⟨trivial, records.ended rfl (nothing.trans (if_pos drops).symm)⟩
  · exact ⟨rfl, records.aborts _⟩
  · exact ⟨rfl, records.aborts _⟩
  · exact ⟨rfl, records.aborts _⟩
  · simp only [Turn.result, Option.toList_none, List.append_nil]
    exact ⟨trivial, records⟩

end Tally

/-- Whether a trigger with this result has started no cycle. -/
def skips : Outcome Report → Bool
  | .ok report => report.skipped.isSome
  | .error _ => false

/-- The counters of a site account for its broker and for its cycles, of which so many have started
and these results have come. -/
structure Site.Accounts (settings : ClusterSettings) (initial started : Nat)
    (results : List (Outcome Report)) (site : Site) : Prop where
  configured : site.managed.settings = settings
  balances : site.tally.Balances initial site.broker.bindings
  ready : ∀ cycle, site.managed.cycle = some cycle → cycle.Ready settings site.broker.bindings
  cycles : Tally.value site.tally.cycles = started
  underway : results.length + site.managed.cycle.toList.length = started
  records : site.tally.Records settings results

namespace ManagedCluster

variable {managed : ManagedCluster} (query : ResourceQuery) (tally : Tally)

theorem trigger_busy {cycle : Cycle} (manages : managed.settings.manageAcls = true)
    (running : managed.cycle = some cycle) :
    managed.trigger query tally = (managed, tally, some (.ok (managed.skip .cycleInProgress))) := by
  simp only [trigger, manages, running, Bool.not_true, Bool.false_eq_true, if_false]

theorem trigger_idle (manages : managed.settings.manageAcls = true)
    (idle : managed.cycle = none) :
    (∃ fault, managed.trigger query tally =
        managed.take (Cycle.abort fault tally.cycleStarted)) ∨
      ∃ cycle, Cycle.begin managed.settings query = .ok cycle ∧
        managed.trigger query tally = managed.take (.continues cycle, tally.cycleStarted) := by
  simp only [trigger, manages, idle, Bool.not_true, Bool.false_eq_true, if_false]
  split
  · next fault failed => exact .inl ⟨fault, rfl⟩
  · next cycle begun => exact .inr ⟨cycle, begun, rfl⟩

end ManagedCluster

namespace Site

variable {settings : ClusterSettings} {initial started : Nat} {results : List (Outcome Report)}
  {site : Site}

/-- A trigger is skipped, or its cycle fails at once, or its cycle is under way. -/
theorem trigger_cases (site : Site) (query : ResourceQuery) :
    (∃ reason, site.trigger query = (site, some (.ok (site.managed.skip reason)))) ∨
      site.managed.cycle = none ∧
        ((∃ fault, site.trigger query =
            ({ site with
                managed := { site.managed with cycle := none }
                tally := site.tally.cycleStarted.cycleAborted }, some (.error fault))) ∨
          ∃ cycle, Cycle.begin site.managed.settings query = .ok cycle ∧
            site.trigger query = (site.started cycle, none)) := by
  by_cases manages : site.managed.settings.manageAcls = true
  · cases running : site.managed.cycle with
    | some cycle =>
        refine .inl ⟨.cycleInProgress, ?_⟩
        rw [Site.trigger, ManagedCluster.trigger_busy query site.tally manages running]
    | none =>
        refine .inr ⟨rfl, ?_⟩
        obtain ⟨fault, failed⟩ | ⟨cycle, begun, -⟩ :=
          ManagedCluster.trigger_idle query site.tally manages running
        · exact .inl ⟨fault, by rw [Site.trigger, failed]; rfl⟩
        · exact .inr ⟨cycle, begun, trigger_starts manages running begun⟩
  · refine .inl ⟨.managementDisabled, ?_⟩
    rw [Site.trigger, ManagedCluster.trigger, Bool.eq_false_of_not_eq_true manages]
    rfl

theorem Accounts.trigger (accounts : site.Accounts settings initial started results)
    (catalog : Catalog) :
    let triggered := site.trigger catalog.query
    triggered.1.Accounts settings initial
      (started + if triggered.2.any skips then 0 else 1)
      (results ++ (triggered.2.filter fun result => !skips result).toList) := by
  obtain ⟨rfl, balances, ready, cycles, underway, records⟩ := accounts
  intro triggered
  obtain ⟨reason, skipped⟩ | ⟨idle, ⟨fault, failed⟩ | ⟨cycle, begun, started⟩⟩ :=
    site.trigger_cases catalog.query
  · have result : triggered = (site, some (.ok (site.managed.skip reason))) := skipped
    rw [result]
    simp only [Option.any_some, Option.filter_some, skips, ManagedCluster.skip, Option.isSome_some,
      if_true, Bool.not_true, Bool.false_eq_true, if_false, Option.toList_none, List.append_nil,
      Nat.add_zero]
    exact ⟨rfl, balances, ready, cycles, underway, records⟩
  · rw [idle] at underway
    have result : triggered = _ := failed
    rw [result]
    have counted : site.tally.cycleStarted.Records site.managed.settings results :=
      ⟨records.aborted, records.pending⟩
    refine ⟨rfl, balances, fun cycle running => ?_, congrArg Nat.succ cycles, ?_,
      counted.aborts fault⟩
    · cases running
    · rw [← underway]
      exact List.length_append
  · rw [idle] at underway
    have result : triggered = _ := started
    rw [result]
    simp only [Option.filter_none, Option.toList_none, List.append_nil]
    refine ⟨rfl, balances, fun next running => ?_, congrArg Nat.succ cycles,
      congrArg Nat.succ underway, ⟨records.aborted, records.pending⟩⟩
    cases running
    exact Cycle.begin_ready begun

/-- A turn of the cycle under way, made with what the broker has become. -/
theorem Accounts.turn {cycle : Cycle} {turned : Turn × Tally} {broker : Broker}
    (accounts : site.Accounts settings initial started results)
    (running : site.managed.cycle = some cycle)
    (balances : turned.2.Balances initial broker.bindings)
    (ready : turned.1.Ready settings broker.bindings)
    (same : turned.2.cycles = site.tally.cycles)
    (records : turned.2.Records settings (results ++ turned.1.result.toList)) (clock : Nat) :
    let (managed, tally, result) := site.managed.take turned
    Accounts settings initial started (results ++ result.toList)
      { managed, broker, tally, clock } := by
  obtain ⟨turn, counted⟩ := turned
  have underway := accounts.underway
  rw [running] at underway
  cases turn with
  | continues next =>
      refine ⟨accounts.configured, balances, ?_, ?_, ?_, records⟩
      · intro later onward
        cases onward
        exact ready
      · exact (congrArg Tally.value same).trans accounts.cycles
      · simpa using underway
  | ends result =>
      refine ⟨accounts.configured, balances, ?_, ?_, ?_, records⟩
      · intro later onward
        cases onward
      · exact (congrArg Tally.value same).trans accounts.cycles
      · simpa using underway

theorem Accounts.advance (accounts : site.Accounts settings initial started results) :
    site.advance.1.Accounts settings initial started (results ++ site.advance.2.toList) := by
  cases running : site.managed.cycle with
  | none =>
      simp only [Site.advance, running, Option.toList_none, List.append_nil]
      exact accounts
  | some cycle =>
      have ready := accounts.ready cycle running
      have configured := accounts.configured
      by_cases reached : site.broker.available = true ∧
          site.broker.latency ≤ site.managed.timeout
      · obtain ⟨clock, exchanged⟩ := exchange_in_time reached.2 cycle.call
        have performed := accounts.balances.performed ready reached.1
        have recorded := accounts.records.answered ready (site.broker.perform cycle.call).2
        have turned := accounts.turn running performed.1 performed.2 recorded.1 recorded.2 clock
        simp only [Site.advance, running, exchanged, ManagedCluster.answered, configured]
        exact turned
      · obtain ⟨clock, fault, exchanged⟩ := exchange_fails reached cycle.call
        have aborted : site.tally.cycleAborted.Records settings (results ++ [.error fault]) :=
          accounts.records.aborts fault
        simp only [Site.advance, running, exchanged, ManagedCluster.answered,
          Cycle.answered_failed]
        have ended : (Cycle.abort fault site.tally).1.Ready settings site.broker.bindings :=
          trivial
        exact accounts.turn running accounts.balances ended rfl aborted clock

theorem Accounts.remove (accounts : site.Accounts settings initial started results)
    (unwanted : List Binding) :
    (site.remove unwanted).1.Accounts settings initial started results := by
  unfold Site.remove
  split
  · exact accounts
  by_cases reached : site.broker.available = true ∧ site.broker.latency ≤ site.managed.timeout
  · obtain ⟨clock, exchanged⟩ := exchange_in_time reached.2 (Cycle.removing unwanted)
    obtain ⟨after, deletions, performed, balances, fewer⟩ :=
      accounts.balances.removed reached.1 unwanted
    obtain ⟨deleted, failed, counted, -⟩ :=
      Tally.count_deletions_eq site.tally (deletions.take unwanted.length)
    rw [exchanged, performed]
    refine ⟨accounts.configured, balances, ?_, ?_, accounts.underway, ?_⟩
    · intro cycle running
      exact (accounts.ready cycle running).mono fewer
    · simp only [counted]
      exact accounts.cycles
    · simp only [counted]
      exact ⟨accounts.records.aborted, accounts.records.pending⟩
  · obtain ⟨clock, fault, exchanged⟩ := exchange_fails reached (Cycle.removing unwanted)
    rw [exchanged]
    exact ⟨accounts.configured, accounts.balances, accounts.ready, accounts.cycles,
      accounts.underway, accounts.records⟩

end Site

namespace UpkeepEvent

/-- Apart from the cycles and the removals nobody changes the bindings. -/
def LeavesBindings : UpkeepEvent → Prop
  | .broker change => ∀ broker : Broker, (change broker).bindings = broker.bindings
  | .resources _ | .trigger | .advance | .removeEntry _ _ | .removeStream _ _ => True

end UpkeepEvent

namespace Upkeep

/-- How many cycles the event starts. -/
def starts (upkeep : Upkeep) : UpkeepEvent → Nat
  | .trigger => if (upkeep.site.trigger upkeep.catalog.query).2.any skips then 0 else 1
  | _ => 0

/-- The result of the cycle that the event ends. -/
def ends (upkeep : Upkeep) : UpkeepEvent → Option (Outcome Report)
  | .trigger => (upkeep.site.trigger upkeep.catalog.query).2.filter fun result => !skips result
  | .advance => upkeep.site.advance.2
  | _ => none

/-- How many triggers were not skipped. -/
def cyclesStarted (upkeep : Upkeep) : List UpkeepEvent → Nat
  | [] => 0
  | event :: rest => upkeep.starts event + (upkeep.step event).cyclesStarted rest

/-- The results of the cycles that have ended, in their order. -/
def results (upkeep : Upkeep) : List UpkeepEvent → List (Outcome Report)
  | [] => []
  | event :: rest => (upkeep.ends event).toList ++ (upkeep.step event).results rest

variable {settings : ClusterSettings} {initial started : Nat} {results : List (Outcome Report)}
  {upkeep : Upkeep}

theorem accounts_step {event : UpkeepEvent}
    (accounts : upkeep.site.Accounts settings initial started results)
    (leaves : event.LeavesBindings) :
    (upkeep.step event).site.Accounts settings initial (started + upkeep.starts event)
      (results ++ (upkeep.ends event).toList) := by
  have silent {site : Site} (same : site.Accounts settings initial started results) :
      site.Accounts settings initial (started + 0) (results ++ none.toList) := by
    rw [Option.toList_none, List.append_nil]
    exact same
  cases event with
  | resources change => exact silent accounts
  | trigger => exact accounts.trigger upkeep.catalog
  | advance => exact accounts.advance
  | removeEntry tenant entry =>
      obtain ⟨bindings, expanded, -⟩ := expand_entry_ok entry tenant
      simp only [Upkeep.step, Site.removeEntry, expanded]
      exact silent (accounts.remove bindings)
  | removeStream tenant stream => exact silent (accounts.remove (expandStream stream tenant))
  | broker change =>
      have same := leaves upkeep.site.broker
      refine silent ⟨accounts.configured, ?_, ?_, accounts.cycles, accounts.underway,
        accounts.records⟩
      · exact same ▸ accounts.balances
      · exact same ▸ accounts.ready

theorem accounts_run {events : List UpkeepEvent}
    (accounts : upkeep.site.Accounts settings initial started results)
    (leaves : ∀ event ∈ events, event.LeavesBindings) :
    (upkeep.run events).site.Accounts settings initial (started + upkeep.cyclesStarted events)
      (results ++ upkeep.results events) := by
  induction events generalizing upkeep started results with
  | nil =>
      rw [Upkeep.results, List.append_nil]
      exact accounts
  | cons event rest induction =>
      have stepped := accounts_step accounts (leaves event List.mem_cons_self)
      have ran := induction stepped fun later member =>
        leaves later (List.mem_cons_of_mem _ member)
      rw [Nat.add_assoc, List.append_assoc] at ran
      exact ran

theorem accounts_fresh (settings : ClusterSettings) (timeout : Nat) (broker : Broker)
    (catalog : Catalog) :
    (fresh settings timeout broker catalog).site.Accounts settings broker.bindings.size 0 [] where
  configured := rfl
  balances := rfl
  ready := by simp [fresh]
  cycles := rfl
  underway := rfl
  records := ⟨rfl, rfl⟩

/-- As long as nobody else changes the bindings, the broker holds what it held at first and what was
created, less what was deleted. No more cycles were aborted than counted, the cycles counted are the
triggers that were not skipped, and what is pending is what the last cycle that ended has left. -/
theorem run_accounts (settings : ClusterSettings) (timeout : Nat) (broker : Broker)
    (catalog : Catalog) (events : List UpkeepEvent)
    (leaves : ∀ event ∈ events, event.LeavesBindings) :
    let start := fresh settings timeout broker catalog
    let reached := (start.run events).site
    reached.broker.bindings.size + Tally.value reached.tally.deleted =
        broker.bindings.size + Tally.value reached.tally.created ∧
      Tally.value reached.tally.aborted ≤ Tally.value reached.tally.cycles ∧
      Tally.value reached.tally.cycles = start.cyclesStarted events ∧
      Tally.value reached.tally.pendingDelete =
        (start.results events).getLast?.elim 0 settings.pendingAfter := by
  intro start reached
  have accounts := accounts_run (accounts_fresh settings timeout broker catalog) leaves
  rw [Nat.zero_add, List.nil_append] at accounts
  refine ⟨accounts.balances, ?_, accounts.cycles, accounts.records.pending⟩
  -- Every aborted cycle has a result, and every result is of a cycle that was started.
  calc Tally.value reached.tally.aborted
      = (start.results events).countP fun result => !result.isOk := accounts.records.aborted
    _ ≤ (start.results events).length := List.countP_le_length
    _ ≤ start.cyclesStarted events := Nat.le.intro accounts.underway
    _ = Tally.value reached.tally.cycles := accounts.cycles.symm

/-- Settings that have unwanted bindings kept. -/
def keepingSettings : ClusterSettings :=
  { name := "east", manageAcls := true, dropUnsynced := false }

/-- A second trigger comes while a cycle creates. The next cycle is cut off after its stream was
removed, and a third one puts it back. -/
def crossing : List UpkeepEvent :=
  [.trigger, .advance, .trigger, .advance,
    .trigger, .removeStream
      { metadata := { name := "shop", cluster := "east" }, kafkaUser := "till" }
      { metadata := { name := "flow", namespaceName := "shop", cluster := "east" } },
    .broker fun broker => { broker with available := false }, .advance,
    .broker fun broker => { broker with available := true }, .trigger, .advance, .advance]

theorem run_accounts_crossing :
    let reached := ((fresh keepingSettings 10 shopBroker Site.shopCatalog).run crossing).site
    reached.tally.created = some 7 ∧ reached.tally.deleted = some 3 ∧
      reached.broker.bindings.size = 6 ∧ Tally.value reached.tally.cycles = 3 ∧
      Tally.value reached.tally.pendingDelete = 1 := by
  intro reached
  have leaves : ∀ event ∈ crossing, event.LeavesBindings := by
    simp [crossing, UpkeepEvent.LeavesBindings]
  obtain ⟨balanced, -, cycles, pending⟩ :=
    run_accounts keepingSettings 10 shopBroker Site.shopCatalog crossing leaves
  have created : reached.tally.created = some 7 := by decide
  have deleted : reached.tally.deleted = some 3 := by decide
  refine ⟨created, deleted, ?_, cycles.trans (by decide), pending.trans (by decide)⟩
  have initial : shopBroker.bindings.size = 2 := by decide
  change reached.broker.bindings.size + Tally.value reached.tally.deleted =
    shopBroker.bindings.size + Tally.value reached.tally.created at balanced
  rw [created, deleted, initial] at balanced
  exact Nat.add_right_cancel balanced

end Upkeep

end BrokerTenancy
