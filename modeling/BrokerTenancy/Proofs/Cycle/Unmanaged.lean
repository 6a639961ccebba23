import BrokerTenancy.Proofs.Cycle.Fleet
import BrokerTenancy.Proofs.Cycle.Removal

/-!
A cluster whose bindings are not managed. It gets no schedule, and a cycle that is triggered there
is skipped before it looks at anything, so cycles leave it and its broker as they are. Targeted
removals do not ask whether the bindings are managed: what an entry or a stream stands for is
requested to be deleted there as anywhere else. These are the only requests that its broker gets.
-/

namespace BrokerTenancy

/-- The requests by which bindings are removed: one, if there are any. -/
def Cycle.removalRequests (bindings : List Binding) : List AdminCall :=
  if bindings.isEmpty then [] else [removing bindings]

namespace Site

/-- A call of the site reaches its broker. -/
def Reaches (site : Site) : Prop :=
  site.broker.available = true ∧ site.broker.latency ≤ site.managed.timeout

instance (site : Site) : Decidable site.Reaches := inferInstanceAs (Decidable (_ ∧ _))

variable {site : Site}

theorem trigger_unmanaged (off : site.managed.settings.manageAcls = false)
    (query : ResourceQuery) :
    site.trigger query = (site, some (.ok (site.managed.skip .managementDisabled))) := by
  rw [trigger, ManagedCluster.trigger, off]
  rfl

theorem run_unmanaged (off : site.managed.settings.manageAcls = false) (query : ResourceQuery) :
    site.run query = (site, some (.ok (site.managed.skip .managementDisabled))) := by
  rw [run, trigger_unmanaged off]

theorem finish_idle (idle : site.managed.cycle = none) : site.finish = (site, none) := by
  rw [finish, idle]
  rfl

theorem remove_calls (site : Site) (bindings : List Binding) :
    (site.remove bindings).1.broker.calls =
      site.broker.calls ++ if site.Reaches then Cycle.removalRequests bindings else [] := by
  cases nothing : bindings.isEmpty with
  | true => simp [remove, Cycle.removalRequests, nothing]
  | false =>
      simp only [remove, Cycle.removalRequests, nothing, Bool.false_eq_true, if_false]
      by_cases reaches : site.Reaches
      · obtain ⟨clock, exchanged⟩ := exchange_in_time reaches.2 (Cycle.removing bindings)
        rw [exchanged, if_pos reaches, Broker.perform_removing reaches.1]
        rfl
      · obtain ⟨clock, fault, exchanged⟩ := exchange_fails reaches (Cycle.removing bindings)
        rw [exchanged, if_neg reaches, List.append_nil]
        rfl

theorem remove_managed (site : Site) (bindings : List Binding) :
    (site.remove bindings).1.managed = site.managed := by
  have same : (site.exchange (Cycle.removing bindings)).1.managed = site.managed := rfl
  rw [remove]
  generalize site.exchange (Cycle.removing bindings) = outcome at same
  obtain ⟨asked, answer⟩ := outcome
  split
  · rfl
  · rcases answer with described | created | fault | deletions <;> exact same

theorem remove_unrequested {bindings : List Binding}
    (nothing : Cycle.removalRequests bindings = []) : (site.remove bindings).1 = site := by
  unfold Cycle.removalRequests at nothing
  split at nothing
  · next empty => rw [remove, if_pos empty]
  · cases nothing

end Site

/-- What is asked of a fleet. -/
inductive FleetEvent where
  /-- A cycle of one cluster. -/
  | reconcile (query : ResourceQuery) (name : String)
  /-- Cycles that are triggered while others may be under way. -/
  | reconcileTogether (query : ResourceQuery) (names : List String)
  /-- The schedules run for a while. -/
  | schedule (query : ResourceQuery) (settings : CycleSettings) (milliseconds : Nat)
  /-- What a grant of a tenant stands for is removed. -/
  | remove (tenant : Tenant) (grant : Grant)

/-- What the event requests of a cluster whose bindings are not managed. -/
def FleetEvent.requestsAt (name : String) : FleetEvent → List AdminCall
  | .remove tenant grant =>
      if name = tenant.cluster then
        match grant.expand tenant with
        | .ok expansion => Cycle.removalRequests expansion
        | .error _ => []
      else []
  | .reconcile _ _ | .reconcileTogether _ _ | .schedule _ _ _ => []

namespace Fleet

def removeGrant (fleet : Fleet) (tenant : Tenant) : Grant → Fleet × Outcome (List Binding)
  | .byEntry entry => fleet.removeEntry tenant entry
  | .byStream stream => fleet.removeStream tenant stream

def step (fleet : Fleet) : FleetEvent → Fleet
  | .reconcile query name => (fleet.run query name).1
  | .reconcileTogether query names => (fleet.runTogether query names).1
  | .schedule query settings milliseconds => fleet.runSchedules query settings milliseconds
  | .remove tenant grant => (fleet.removeGrant tenant grant).1

def steps (fleet : Fleet) (events : List FleetEvent) : Fleet := events.foldl step fleet

variable {fleet : Fleet} {name : String} {site : Site}

theorem remove_grant_eq (fleet : Fleet) (tenant : Tenant) (grant : Grant) :
    (fleet.removeGrant tenant grant).1 =
      fleet.update tenant.cluster fun site => (site.removeGrant tenant grant).1 := by
  cases grant with
  | byEntry entry => exact at_site_eq fleet tenant.cluster _
  | byStream stream => exact at_site_eq fleet tenant.cluster _

/-! ## Cycles -/

section Cycles

variable (found : fleet.site name = .ok site) (off : site.managed.settings.manageAcls = false)
  (query : ResourceQuery) (other : String)

include found

theorem finish_keeps_idle (idle : site.managed.cycle = none) :
    (fleet.finishAt other).1.site name = .ok site := by
  rw [finishAt, cycle_at_eq]
  apply update_still found
  intro _
  rw [Site.finish_idle idle]

include off

theorem run_keeps_unmanaged : (fleet.run query other).1.site name = .ok site := by
  rw [Fleet.run, cycle_at_eq]
  apply update_still found
  intro _
  rw [Site.run_unmanaged off]

theorem trigger_keeps_unmanaged : (fleet.triggerAt query other).1.site name = .ok site := by
  rw [triggerAt, cycle_at_eq]
  apply update_still found
  intro _
  rw [Site.run_unmanaged off, Site.trigger_unmanaged off, ite_self]

theorem run_together_keeps_unmanaged (idle : site.managed.cycle = none) (names : List String) :
    (fleet.runTogether query names).1.site name = .ok site := by
  induction names generalizing fleet with
  | nil => exact found
  | cons first rest induction =>
      have triggered := trigger_keeps_unmanaged found off query first
      rw [runTogether]
      split
      · next next result at_first =>
          rw [at_first] at triggered
          exact induction triggered
      · next next at_first =>
          rw [at_first] at triggered
          exact finish_keeps_idle (induction triggered) first idle

theorem run_schedules_keeps_unmanaged (settings : CycleSettings) (milliseconds : Nat) :
    (fleet.runSchedules query settings milliseconds).site name = .ok site := by
  have unscheduled : name ∉ fleet.scheduled := by
    rw [mem_scheduled]
    rintro ⟨managed, listed, manages⟩
    cases (find_of_site found).symm.trans listed
    rw [off] at manages
    cases manages
  rw [run_schedules_eq]
  generalize fleet.scheduled = names at unscheduled
  induction names generalizing fleet with
  | nil => exact found
  | cons first rest induction =>
      obtain ⟨apart, later⟩ := not_or.mp (List.mem_cons.not.mp unscheduled)
      exact induction (update_still found fun same => absurd same apart) later

end Cycles

/-! ## Every sequence of operations -/

/-- The site of a cluster whose bindings are not managed, after some requests. -/
structure Dormant (fleet : Fleet) (name : String) (start current : Site)
    (requests : List AdminCall) : Prop where
  found : fleet.site name = .ok current
  managed : current.managed = start.managed
  broker : start.broker.Alike current.broker
  calls : current.broker.calls = start.broker.calls ++ if start.Reaches then requests else []
  untouched : requests = [] → current = start

variable {start current : Site} {requests : List AdminCall}

theorem Dormant.still (dormant : fleet.Dormant name start current requests) {next : Fleet}
    (found : next.site name = .ok current) : next.Dormant name start current (requests ++ []) := by
  rw [List.append_nil]
  exact ⟨found, dormant.managed, dormant.broker, dormant.calls, dormant.untouched⟩

theorem Dormant.reaches (dormant : fleet.Dormant name start current requests) :
    current.Reaches ↔ start.Reaches := by
  unfold Site.Reaches
  rw [dormant.managed, dormant.broker.available, dormant.broker.latency]

theorem Dormant.remove (dormant : fleet.Dormant name start current requests) (tenant : Tenant)
    (grant : Grant) :
    ∃ later, (fleet.removeGrant tenant grant).1.Dormant name start later
      (requests ++ (FleetEvent.remove tenant grant).requestsAt name) := by
  rw [remove_grant_eq, FleetEvent.requestsAt]
  by_cases here : name = tenant.cluster
  · obtain ⟨expansion, expanded⟩ := grant.expand_ok tenant
    obtain ⟨keeps, -⟩ := current.remove_keeps expansion
    simp only [if_pos here, expanded]
    refine ⟨{ (current.remove expansion).1 with clock := 0 }, ?_, ?_, ?_, ?_, ?_⟩
    · rw [site_update, if_pos here, dormant.found, Except.map, Site.remove_grant_eq expanded]
    · exact (current.remove_managed expansion).trans dormant.managed
    · exact ⟨keeps.broker.refused.trans dormant.broker.refused,
        keeps.broker.available.trans dormant.broker.available,
        keeps.broker.latency.trans dormant.broker.latency⟩
    · change (current.remove expansion).1.broker.calls = _
      rw [Site.remove_calls, dormant.calls, List.append_assoc]
      simp only [dormant.reaches]
      split <;> simp
    · intro none_requested
      obtain ⟨before, nothing⟩ := List.append_eq_nil_iff.mp none_requested
      rw [Site.remove_unrequested nothing, ← dormant.untouched before,
        ← clock_of_site dormant.found]
  · rw [if_neg here]
    refine ⟨current, dormant.still ?_⟩
    rw [site_update, if_neg here, dormant.found]

theorem Dormant.step (dormant : fleet.Dormant name start current requests)
    (off : start.managed.settings.manageAcls = false) (idle : start.managed.cycle = none)
    (event : FleetEvent) :
    ∃ later, (fleet.step event).Dormant name start later (requests ++ event.requestsAt name) := by
  rw [← dormant.managed] at off idle
  cases event with
  | reconcile query other =>
      exact ⟨current, dormant.still (run_keeps_unmanaged dormant.found off query other)⟩
  | reconcileTogether query names =>
      have keeps := run_together_keeps_unmanaged dormant.found off query idle names
      exact ⟨current, dormant.still keeps⟩
  | schedule query settings milliseconds =>
      have keeps := run_schedules_keeps_unmanaged dormant.found off query settings milliseconds
      exact ⟨current, dormant.still keeps⟩
  | remove tenant grant => exact dormant.remove tenant grant

theorem Dormant.steps (dormant : fleet.Dormant name start current requests)
    (off : start.managed.settings.manageAcls = false) (idle : start.managed.cycle = none)
    (events : List FleetEvent) :
    ∃ later, (fleet.steps events).Dormant name start later
      (requests ++ events.flatMap (FleetEvent.requestsAt name)) := by
  induction events generalizing fleet current requests with
  | nil =>
      rw [List.flatMap_nil, List.append_nil]
      exact ⟨current, dormant⟩
  | cons event rest induction =>
      obtain ⟨next, stepped⟩ := dormant.step off idle event
      rw [List.flatMap_cons, ← List.append_assoc]
      exact induction stepped

/-- A cluster whose bindings are not managed gets no schedule, and its broker gets no requests but
those of targeted removals, one for each that has something to remove and reaches it. Without such
removals the cluster, its broker and its counters stay as they are. -/
theorem steps_unmanaged {settings : Settings} {cluster : ClusterSettings}
    (follows : fleet.Follows settings) (last : settings.lastCluster name = some cluster)
    (off : cluster.manageAcls = false) (events : List FleetEvent) :
    let requests := events.flatMap (FleetEvent.requestsAt name)
    name ∉ fleet.scheduled ∧
      ∃ start reached, fleet.site name = .ok start ∧ (fleet.steps events).site name = .ok reached ∧
        reached.broker.calls =
          start.broker.calls ++ (if start.Reaches then requests else []) ∧
        (requests = [] → reached = start) := by
  intro requests
  have listed : fleet.managed.find? name = some (.ofSettings cluster settings.cycle) := by
    rw [follows.managed, last]
    rfl
  constructor
  · rw [follows.mem_scheduled]
    rintro ⟨other, again, manages⟩
    cases last.symm.trans again
    rw [off] at manages
    cases manages
  · obtain ⟨start, found, managed⟩ := site_of_find listed
    have dormant : fleet.Dormant name start start [] := by
      refine ⟨found, rfl, ⟨rfl, rfl, rfl⟩, ?_, fun _ => rfl⟩
      rw [ite_self, List.append_nil]
    obtain ⟨reached, stayed⟩ := dormant.steps (managed ▸ off) (managed ▸ rfl) events
    exact ⟨start, reached, found, stayed.found, stayed.calls, stayed.untouched⟩

/-- Cycles by all ways there are, and removals at both clusters. -/
def mixedEvents : List FleetEvent :=
  [.reconcile Site.twiceGranted.query "east",
    .reconcileTogether Site.twiceGranted.query ["west", "east", "east"],
    .remove Site.shopTenant Site.readingGrant,
    .remove { Site.shopTenant with metadata := { name := "depot", cluster := "west" } }
      Site.readingGrant,
    .schedule Site.twiceGranted.query {} 100]

theorem steps_unmanaged_mixed :
    mixedFleet.scheduled = ["west"] ∧
      ∃ reached, (mixedFleet.steps mixedEvents).site "east" = .ok reached ∧
        reached.broker.calls =
          [Cycle.removing [Site.tillMay .read .literal "orders"]] := by
  obtain ⟨-, start, reached, found, reaches, calls, -⟩ :=
    @steps_unmanaged mixedFleet "east" mixedSettings { name := "east", manageAcls := false }
      mixed_fleet_follows rfl rfl mixedEvents
  refine ⟨rfl, reached, reaches, ?_⟩
  cases found
  rw [calls]
  decide

/-- A removal makes a request of the broker, although the bindings there are not managed. -/
theorem removal_reaches_unmanaged :
    mixedFleet.Follows mixedSettings ∧
      mixedSettings.lastCluster "east" = some { name := "east", manageAcls := false } ∧
      ∃ start reached, mixedFleet.site "east" = .ok start ∧
        (mixedFleet.steps [.remove Site.shopTenant Site.readingGrant]).site "east" = .ok reached ∧
        start.broker.calls = [] ∧
        reached.broker.calls = [Cycle.removing [Site.tillMay .read .literal "orders"]] :=
  ⟨mixed_fleet_follows, rfl, _, _, rfl, rfl, rfl, by decide⟩

end Fleet

end BrokerTenancy
