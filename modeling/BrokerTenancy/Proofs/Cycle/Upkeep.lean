import BrokerTenancy.Proofs.Cycle.Synchronization

/-!
The upkeep of a cluster over time. Resources come and go, cycles are triggered and make their calls,
targeted removals come in between, and the broker may change in any way: in what it refuses, in
whether and how fast it answers, and in the bindings that others give or take. Whatever happens, a
cycle creates nothing but bindings of the resource types that it looks at.
-/

namespace BrokerTenancy

/-- The bindings that a call has created, by its answer. -/
def AdminAnswer.createdBindings : AdminAnswer → List Binding
  | .created (.ok creations) => (Batch.ofCreations creations).succeeded
  | _ => []

namespace Site

/-- The bindings that the next call of the cycle under way creates. -/
def creates (site : Site) : List Binding :=
  match site.managed.cycle with
  | none => []
  | some cycle => (site.exchange cycle.call).2.createdBindings

/-- What cycles and removals at a site leave alone. -/
structure Keeps (before after : Site) : Prop where
  settings : after.managed.settings = before.managed.settings
  timeout : after.managed.timeout = before.managed.timeout
  broker : before.broker.Alike after.broker

theorem Keeps.refl (site : Site) : site.Keeps site := ⟨rfl, rfl, ⟨rfl, rfl, rfl⟩⟩

theorem Keeps.trans {first second third : Site} (before : first.Keeps second)
    (behind : second.Keeps third) : first.Keeps third where
  settings := behind.settings.trans before.settings
  timeout := behind.timeout.trans before.timeout
  broker := {
    refused := behind.broker.refused.trans before.broker.refused
    available := behind.broker.available.trans before.broker.available
    latency := behind.broker.latency.trans before.broker.latency }

theorem exchange_keeps (site : Site) (call : AdminCall) : site.Keeps (site.exchange call).1 :=
  ⟨rfl, rfl, Broker.perform_within_alike site.broker _ _ call⟩

theorem take_keeps (managed : ManagedCluster) (turned : Turn × Tally) :
    (managed.take turned).1.settings = managed.settings ∧
      (managed.take turned).1.timeout = managed.timeout ∧
      ((managed.take turned).2.2 ≠ none → (managed.take turned).1.cycle = none) := by
  obtain ⟨turn, tally⟩ := turned
  cases turn with
  | continues cycle => exact ⟨rfl, rfl, fun ended => absurd rfl ended⟩
  | ends result => exact ⟨rfl, rfl, fun _ => rfl⟩

theorem trigger_keeps (site : Site) (query : ResourceQuery) :
    site.Keeps (site.trigger query).1 := by
  refine ⟨?_, ?_, ⟨rfl, rfl, rfl⟩⟩
  all_goals
    simp only [trigger, ManagedCluster.trigger]
    split
    · rfl
    · cases site.managed.cycle with
      | some cycle => rfl
      | none => cases Cycle.begin site.managed.settings query <;> rfl

theorem advance_keeps (site : Site) :
    site.Keeps site.advance.1 ∧
      (site.advance.2 ≠ none → site.advance.1.managed.cycle = none) := by
  rw [advance]
  cases running : site.managed.cycle with
  | none => exact ⟨.refl site, fun ended => absurd rfl ended⟩
  | some cycle =>
      obtain ⟨settings, timeout, broker⟩ := site.exchange_keeps cycle.call
      have same : (site.exchange cycle.call).1.managed.cycle = some cycle := running
      simp only [ManagedCluster.answered, same]
      obtain ⟨settled, bounded, idle⟩ := take_keeps (site.exchange cycle.call).1.managed
        (cycle.answered (site.exchange cycle.call).1.managed.settings
          (site.exchange cycle.call).1.tally (site.exchange cycle.call).2)
      exact ⟨⟨settled.trans settings, bounded.trans timeout, broker⟩, idle⟩

theorem advance_for_keeps (calls : Nat) (site : Site) :
    site.Keeps (advanceFor calls site).1 ∧
      ((advanceFor calls site).2 ≠ none → (advanceFor calls site).1.managed.cycle = none) := by
  induction calls generalizing site with
  | zero => exact ⟨.refl site, fun ended => absurd rfl ended⟩
  | succ calls induction =>
      obtain ⟨keeps, idle⟩ := site.advance_keeps
      rw [advanceFor]
      split
      · next next stepped =>
        rw [stepped] at keeps
        obtain ⟨onward, ended⟩ := induction next
        exact ⟨keeps.trans onward, ended⟩
      · exact ⟨keeps, idle⟩

theorem run_keeps {site : Site} {query : ResourceQuery} {cycle : Cycle}
    (manages : site.managed.settings.manageAcls = true) (idle : site.managed.cycle = none)
    (begun : Cycle.begin site.managed.settings query = .ok cycle) :
    site.Keeps (site.run query).1 ∧
      ((site.run query).2 ≠ none → (site.run query).1.managed.cycle = none) := by
  rw [run_started manages idle begun]
  obtain ⟨keeps, ended⟩ := advance_for_keeps cycle.callsLeft (site.started cycle)
  exact ⟨⟨keeps.settings, keeps.timeout, keeps.broker⟩, ended⟩

theorem remove_keeps (site : Site) (bindings : List Binding) :
    site.Keeps (site.remove bindings).1 ∧
      (site.remove bindings).1.managed.cycle = site.managed.cycle := by
  have keeps := site.exchange_keeps (Cycle.removing bindings)
  have same : (site.exchange (Cycle.removing bindings)).1.managed.cycle = site.managed.cycle := rfl
  rw [remove]
  generalize site.exchange (Cycle.removing bindings) = outcome at keeps same
  obtain ⟨asked, answer⟩ := outcome
  split
  · exact ⟨.refl site, rfl⟩
  · rcases answer with described | created | fault | deletions
    · exact ⟨keeps, same⟩
    · exact ⟨keeps, same⟩
    · exact ⟨keeps, same⟩
    · exact ⟨⟨keeps.settings, keeps.timeout, keeps.broker⟩, same⟩

end Site

/-- What the cycle found to be desired when it began. -/
def Cycle.desired : Cycle → BindingSet
  | .describing _ desired => desired
  | .creating plan => plan.desired
  | .deleting plan _ => plan.desired

namespace Cycle

variable {settings : ClusterSettings} {tally counted : Tally} {next : Cycle}

theorem after_creating_desired {plan : Plan} {creations : Batch}
    (goesOn : afterCreating settings plan creations tally = (.continues next, counted)) :
    next.desired = plan.desired := by
  unfold afterCreating at goesOn
  split at goesOn
  · split at goesOn
    · simp at goesOn
    · cases goesOn
      rfl
  · simp at goesOn

theorem with_plan_desired {plan : Plan}
    (goesOn : withPlan settings plan tally = (.continues next, counted)) :
    next.desired = plan.desired := by
  unfold withPlan at goesOn
  split at goesOn
  · exact after_creating_desired goesOn
  · cases goesOn
    rfl

theorem answered_desired {cycle : Cycle} {answer : AdminAnswer}
    (goesOn : cycle.answered settings tally answer = (.continues next, counted)) :
    next.desired = cycle.desired := by
  unfold answered at goesOn
  split at goesOn
  · rw [with_plan_desired goesOn]
    exact Plan.of_found_desired
  · exact after_creating_desired goesOn
  · simp at goesOn
  · simp [abort] at goesOn
  · simp [abort] at goesOn
  · simp [abort] at goesOn
  · cases goesOn
    rfl

end Cycle

section Created

variable {broker : Broker} {bound : Nat} {late : Fault} {call : AdminCall} {binding : Binding}

theorem AdminCall.created_failed (call : AdminCall) (fault : Fault) :
    (call.failedWith fault).createdBindings = [] := by
  cases call <;> rfl

theorem Broker.created_bindings (broker : Broker) (bindings : List Binding) :
    (AdminAnswer.created (.ok (bindings.map broker.creation))).createdBindings =
      bindings.filter (· ∉ broker.refused) := by
  rw [AdminAnswer.createdBindings, of_creations, Batch.split]

theorem Broker.perform_creates
    (created : binding ∈ (broker.performWithin bound late call).2.createdBindings) :
    ∃ bindings, call = .create bindings ∧ binding ∈ bindings := by
  unfold performWithin at created
  split at created
  · rw [AdminCall.created_failed] at created
    exact absurd created List.not_mem_nil
  · unfold perform at created
    split at created
    · rw [AdminCall.created_failed] at created
      exact absurd created List.not_mem_nil
    -- Only a call that creates is answered with creations, and it names what it creates.
    · cases call with
      | describe filter => exact absurd created List.not_mem_nil
      | delete filters => exact absurd created List.not_mem_nil
      | create bindings =>
          refine ⟨bindings, rfl, ?_⟩
          simp only [createAll, created_bindings] at created
          exact (List.mem_filter.mp created).1

end Created

theorem Site.creates_desired {site : Site} {binding : Binding}
    (created : binding ∈ site.creates) :
    ∃ cycle, site.managed.cycle = some cycle ∧ binding ∈ cycle.desired := by
  unfold creates at created
  split at created
  · exact absurd created List.not_mem_nil
  · next cycle running =>
    obtain ⟨bindings, creating, named⟩ := Broker.perform_creates created
    refine ⟨cycle, running, ?_⟩
    cases cycle with
    | describing tenants desired => cases creating
    | deleting plan creations => cases creating
    -- Of what was desired the plan names the bindings that the cycle did not find.
    | creating plan =>
        cases creating
        exact ((SortedSet.mem_difference _ _ _).mp named).1

/-- The cycle that is under way after a trigger was so before, or begins with what the resources
ask for. -/
theorem Site.trigger_cycle {site : Site} {catalog : Catalog} {cycle : Cycle}
    (running : (site.trigger catalog.query).1.managed.cycle = some cycle) :
    site.managed.cycle = some cycle ∨
      ∃ tenants desired, cycle = .describing tenants desired ∧
        (∀ tenant, tenant ∈ tenants ↔ catalog.Hosts site.managed.settings.name tenant) ∧
        desired.members = catalog.desired site.managed.settings.name := by
  simp only [trigger, ManagedCluster.trigger] at running
  split at running
  · exact .inl running
  · split at running
    · exact .inl running
    · split at running
      · cases running
      · next begun =>
        cases running
        exact .inr (Cycle.begin_ok begun)

theorem Site.advance_cycle {site : Site} {next : Cycle}
    (running : site.advance.1.managed.cycle = some next) :
    ∃ cycle, site.managed.cycle = some cycle ∧ next.desired = cycle.desired := by
  rw [advance] at running
  cases before : site.managed.cycle with
  | none =>
      rw [before] at running
      have nothing := before.symm.trans running
      cases nothing
  | some cycle =>
      have same : (site.exchange cycle.call).1.managed.cycle = some cycle := before
      simp only [before, ManagedCluster.answered, same] at running
      generalize turned : cycle.answered (site.exchange cycle.call).1.managed.settings
        (site.exchange cycle.call).1.tally (site.exchange cycle.call).2 = outcome at running
      obtain ⟨turn, tally⟩ := outcome
      cases turn with
      | ends result => cases running
      | continues later =>
          cases running
          exact ⟨cycle, rfl, Cycle.answered_desired turned⟩

/-- A site and the stored resources, as time goes on. -/
structure Upkeep where
  site : Site
  catalog : Catalog
  /-- The bindings that cycles have created so far. -/
  created : List Binding := []

inductive UpkeepEvent where
  /-- Somebody stores or removes resources. -/
  | resources (change : Catalog → Catalog)
  | trigger
  /-- The cycle under way makes its next call. -/
  | advance
  | removeEntry (tenant : Tenant) (entry : AccessControlEntry)
  | removeStream (tenant : Tenant) (stream : Stream)
  /-- The broker changes by itself, or others change it. -/
  | broker (change : Broker → Broker)

namespace Upkeep

/-- A cluster that no cycle has looked at. -/
def fresh (settings : ClusterSettings) (timeout : Nat) (broker : Broker) (catalog : Catalog) :
    Upkeep :=
  { site := { managed := { settings, timeout }, broker }, catalog }

def step (upkeep : Upkeep) : UpkeepEvent → Upkeep
  | .resources change => { upkeep with catalog := change upkeep.catalog }
  | .trigger => { upkeep with site := (upkeep.site.trigger upkeep.catalog.query).1 }
  | .advance =>
      { upkeep with
        site := upkeep.site.advance.1
        created := upkeep.created ++ upkeep.site.creates }
  | .removeEntry tenant entry =>
      { upkeep with site := (upkeep.site.removeEntry tenant entry).1 }
  | .removeStream tenant stream =>
      { upkeep with site := (upkeep.site.removeStream tenant stream).1 }
  | .broker change =>
      { upkeep with site := { upkeep.site with broker := change upkeep.site.broker } }

def run (upkeep : Upkeep) (events : List UpkeepEvent) : Upkeep := events.foldl step upkeep

/-- The site keeps its settings, and what its cycles want or have created is on managed types. -/
structure Sound (settings : ClusterSettings) (timeout : Nat) (upkeep : Upkeep) : Prop where
  settings : upkeep.site.managed.settings = settings
  timeout : upkeep.site.managed.timeout = timeout
  cycle : ∀ cycle, upkeep.site.managed.cycle = some cycle →
    ∀ binding ∈ cycle.desired, binding.OnManagedType
  created : ∀ binding ∈ upkeep.created, binding.OnManagedType

variable {settings : ClusterSettings} {timeout : Nat} {upkeep : Upkeep}

theorem sound_fresh (settings : ClusterSettings) (timeout : Nat) (broker : Broker)
    (catalog : Catalog) : Sound settings timeout (fresh settings timeout broker catalog) where
  settings := rfl
  timeout := rfl
  cycle := by simp [fresh]
  created := by simp [fresh]

theorem Sound.trigger (sound : upkeep.Sound settings timeout) :
    (upkeep.step .trigger).Sound settings timeout := by
  have keeps := upkeep.site.trigger_keeps upkeep.catalog.query
  refine ⟨keeps.settings.trans sound.settings, keeps.timeout.trans sound.timeout, ?_,
    sound.created⟩
  intro cycle running binding wanted
  obtain before | ⟨tenants, desired, rfl, -, asked⟩ := Site.trigger_cycle running
  · exact sound.cycle cycle before binding wanted
  -- A new cycle has just read what the resources ask for.
  · rw [← SortedSet.mem_members, Cycle.desired, asked] at wanted
    exact Catalog.desired_on_managed_type wanted

theorem Sound.advance (sound : upkeep.Sound settings timeout) :
    (upkeep.step .advance).Sound settings timeout := by
  obtain ⟨keeps, -⟩ := upkeep.site.advance_keeps
  refine ⟨keeps.settings.trans sound.settings, keeps.timeout.trans sound.timeout, ?_, ?_⟩
  · intro cycle running binding wanted
    obtain ⟨earlier, before, same⟩ := Site.advance_cycle running
    exact sound.cycle earlier before binding (same ▸ wanted)
  · intro binding member
    obtain earlier | now := List.mem_append.mp member
    · exact sound.created binding earlier
    · obtain ⟨cycle, running, wanted⟩ := Site.creates_desired now
      exact sound.cycle cycle running binding wanted

theorem Sound.remove (sound : upkeep.Sound settings timeout) (bindings : List Binding) :
    Sound settings timeout { upkeep with site := (upkeep.site.remove bindings).1 } := by
  obtain ⟨keeps, same⟩ := upkeep.site.remove_keeps bindings
  refine ⟨keeps.settings.trans sound.settings, keeps.timeout.trans sound.timeout, ?_,
    sound.created⟩
  rw [same]
  exact sound.cycle

theorem Sound.step (sound : upkeep.Sound settings timeout) (event : UpkeepEvent) :
    (upkeep.step event).Sound settings timeout := by
  cases event with
  | resources change => exact ⟨sound.settings, sound.timeout, sound.cycle, sound.created⟩
  | trigger => exact sound.trigger
  | advance => exact sound.advance
  | removeEntry tenant entry =>
      obtain ⟨bindings, expanded, -⟩ := expand_entry_ok entry tenant
      simp only [Upkeep.step, Site.removeEntry, expanded]
      exact sound.remove bindings
  | removeStream tenant stream => exact sound.remove (expandStream stream tenant)
  | broker change => exact ⟨sound.settings, sound.timeout, sound.cycle, sound.created⟩

theorem Sound.run (sound : upkeep.Sound settings timeout) (events : List UpkeepEvent) :
    (upkeep.run events).Sound settings timeout := by
  induction events generalizing upkeep with
  | nil => exact sound
  | cons event rest induction => exact induction (sound.step event)

theorem sound_run (settings : ClusterSettings) (timeout : Nat) (broker : Broker)
    (catalog : Catalog) (events : List UpkeepEvent) :
    Sound settings timeout ((fresh settings timeout broker catalog).run events) := by
  apply Sound.run
  exact sound_fresh settings timeout broker catalog

end Upkeep

end BrokerTenancy
