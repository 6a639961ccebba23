import BrokerTenancy.Proofs.Cycle.Convergence

/-!
Bindings that are none of a cluster's business: those on types that are not kept in step and, where
only managed users count, those of users whom no tenant on the cluster has. Whatever becomes of the
resources and however the calls end, no call of a cycle names such a binding, so it stays on the
broker or off it, and every cycle that comes to its end reports the ones that it has put aside.
-/

namespace BrokerTenancy

/-- The call is to create the binding, or has a filter that it matches. -/
def AdminCall.Names (binding : Binding) : AdminCall → Prop
  | .describe _ => False
  | .create bindings => binding ∈ bindings
  | .delete filters => ∃ filter ∈ filters, filter.isMatch binding = true

namespace Broker

variable {binding : Binding}

theorem mem_delete_all_unmatched {refused : List Binding} {filters : List BindingFilter}
    (unmatched : ∀ filter ∈ filters, ¬filter.isMatch binding = true) (bindings : BindingSet) :
    binding ∈ (deleteAll refused bindings filters).1 ↔ binding ∈ bindings := by
  induction filters generalizing bindings with
  | nil => exact Iff.rfl
  | cons filter rest induction =>
      have first := unmatched filter List.mem_cons_self
      have others := induction fun later member =>
        unmatched later (List.mem_cons_of_mem _ member)
      simp only [deleteAll, others, deleteMatching]
      split
      · exact Iff.rfl
      · rw [SortedSet.mem_filter, Bool.not_eq_true', ← Bool.not_eq_true]
        exact and_iff_left first

/-- A call changes nothing about a binding that it does not name. -/
theorem mem_perform_unnamed (broker : Broker) (bound : Nat) (late : Fault) {call : AdminCall}
    (unnamed : ¬call.Names binding) :
    binding ∈ (broker.performWithin bound late call).1.bindings ↔ binding ∈ broker.bindings := by
  unfold performWithin
  split
  · exact Iff.rfl
  unfold perform
  split
  · exact Iff.rfl
  cases call with
  | describe filter => exact Iff.rfl
  | create bindings =>
      apply (mem_create_all _ bindings binding).trans
      exact or_iff_left fun created => unnamed created.1
  | delete filters =>
      apply mem_delete_all_unmatched
      intro filter member isMatch
      exact unnamed ⟨filter, member, isMatch⟩

theorem described_all (broker : Broker) (bound : Nat) (late : Fault) {found : List Binding}
    (answer : (broker.performWithin bound late (.describe .any)).2 = .described (.ok found)) :
    found = broker.bindings.toList := by
  unfold performWithin at answer
  split at answer
  · cases answer
  · by_cases available : broker.available = true
    · rw [perform_describe available] at answer
      cases answer
      rfl
    · have gone : broker.available = false := Bool.not_eq_true _ ▸ available
      simp only [perform, gone, Bool.not_false, if_true] at answer
      cases answer

end Broker

/-- A plan neither wants nor looks at a binding, and has put it aside if the broker holds it. -/
structure Plan.Spares (binding : Binding) (held : Prop) (plan : Plan) : Prop where
  undesired : binding ∉ plan.desired
  unseen : binding ∉ plan.actual
  aside : held → binding.OnManagedType → binding ∈ plan.outOfScope

/-- A cycle leaves a binding alone. -/
def Cycle.Spares (settings : ClusterSettings) (binding : Binding) (held : Prop) : Cycle → Prop
  | .describing tenants desired =>
      ∃ catalog : Catalog,
        (∀ tenant, tenant ∈ tenants ↔ catalog.Hosts settings.name tenant) ∧
          desired.members = catalog.desired settings.name ∧ ¬catalog.Manages settings binding
  | .creating plan => plan.Spares binding held
  | .deleting plan _ => plan.Spares binding held

structure Report.Spares (binding : Binding) (held : Prop) (report : Report) : Prop where
  kept : binding ∉ report.toCreate ∧ binding ∉ report.toDelete
  aside : held → binding.OnManagedType → binding ∈ report.outOfScope

def Turn.Spares (settings : ClusterSettings) (binding : Binding) (held : Prop) : Turn → Prop
  | .continues cycle => cycle.Spares settings binding held
  | .ends result => ∀ report, result = .ok report → report.Spares binding held

section Spared

variable {settings : ClusterSettings} {binding : Binding} {held : Prop} {plan : Plan}

theorem Catalog.undesired_of_unmanaged {catalog : Catalog}
    (foreign : ¬catalog.Manages settings binding) : binding ∉ catalog.desired settings.name :=
  fun asked => foreign (catalog.manages_of_desired settings asked)

theorem Plan.spares_against {catalog : Catalog} {tenants : List Tenant} {desired : BindingSet}
    (hosted : ∀ tenant, tenant ∈ tenants ↔ catalog.Hosts settings.name tenant)
    (asked : desired.members = catalog.desired settings.name)
    (foreign : ¬catalog.Manages settings binding) (bindings : BindingSet) :
    (against settings tenants desired bindings).Spares binding (binding ∈ bindings) where
  undesired := by
    rw [against_desired, ← SortedSet.mem_members, asked]
    exact catalog.undesired_of_unmanaged foreign
  unseen := by
    rw [← SortedSet.mem_members, actual_members hosted]
    exact fun looked => foreign looked.2
  aside := by
    intro present onType
    rw [← SortedSet.mem_members, out_of_scope_members hosted]
    exact ⟨present, onType, foreign⟩

theorem Plan.Spares.to_create (spares : plan.Spares binding held) : binding ∉ plan.toCreate := by
  intro missing
  rw [← SortedSet.mem_members, Plan.to_create_members] at missing
  exact spares.undesired missing.1

theorem Plan.Spares.to_delete (spares : plan.Spares binding held) : binding ∉ plan.toDelete := by
  intro unwanted
  rw [← SortedSet.mem_members, Plan.to_delete_members] at unwanted
  exact spares.unseen unwanted.1

theorem Plan.Spares.report (spares : plan.Spares binding held) (cluster : String)
    (creations deletions : Batch) (withheld : Bool) :
    (plan.report cluster creations deletions withheld).Spares binding held where
  kept := ⟨spares.to_create, spares.to_delete⟩
  aside := spares.aside

theorem Cycle.Spares.unnamed {cycle : Cycle} (spares : cycle.Spares settings binding held) :
    ¬cycle.call.Names binding := by
  cases cycle with
  | describing tenants desired => exact id
  | creating plan => exact Plan.Spares.to_create spares
  -- A filter of the call fits one binding alone, which is one to delete.
  | deleting plan creations =>
      rintro ⟨filter, member, isMatch⟩
      obtain ⟨unwanted, among, rfl⟩ := List.mem_map.mp member
      rw [BindingFilter.is_match_exactly] at isMatch
      subst isMatch
      exact Plan.Spares.to_delete spares among

variable {tally : Tally}

theorem Plan.Spares.after_creating (spares : plan.Spares binding held) (creations : Batch) :
    (Cycle.afterCreating settings plan creations tally).1.Spares settings binding held := by
  have ended (deletions : Batch) (withheld : Bool) (report : Report)
      (same : Except.ok (plan.report settings.name creations deletions withheld) =
        (.ok report : Outcome Report)) : report.Spares binding held := by
    cases same
    exact spares.report _ _ _ _
  unfold Cycle.afterCreating
  split
  · split
    · exact ended _ _
    · exact spares
  · exact ended _ _

theorem Plan.Spares.with_plan (spares : plan.Spares binding held) :
    (Cycle.withPlan settings plan tally).1.Spares settings binding held := by
  unfold Cycle.withPlan
  split
  · exact spares.after_creating _
  · exact spares

/-- A cycle leaves the binding alone after an answer of a broker, too. -/
theorem Cycle.Spares.answered {cycle : Cycle} {broker : Broker}
    (spares : cycle.Spares settings binding (binding ∈ broker.bindings)) (bound : Nat)
    (late : Fault) (tally : Tally) :
    (cycle.answered settings tally (broker.performWithin bound late cycle.call).2).1.Spares
      settings binding (binding ∈ broker.bindings) := by
  have aborted (fault : Fault) :
      (Cycle.abort fault tally).1.Spares settings binding (binding ∈ broker.bindings) := by
    intro report same
    cases same
  generalize answered : (broker.performWithin bound late cycle.call).2 = answer
  unfold Cycle.answered
  split
  · next tenants desired bindings =>
    obtain ⟨catalog, hosted, asked, foreign⟩ := spares
    rw [broker.described_all bound late answered]
    exact Plan.Spares.with_plan (Plan.spares_against hosted asked foreign broker.bindings)
  · exact Plan.Spares.after_creating spares _
  · intro report same
    cases same
    exact Plan.Spares.report spares _ _ _ _
  · exact aborted _
  · exact aborted _
  · exact aborted _
  · exact spares

end Spared

/-- The cycle at a site, if one is under way, leaves a binding alone. -/
structure Site.Spares (settings : ClusterSettings) (binding : Binding) (held : Prop)
    (site : Site) : Prop where
  configured : site.managed.settings = settings
  bindings : binding ∈ site.broker.bindings ↔ held
  cycle : ∀ cycle, site.managed.cycle = some cycle → cycle.Spares settings binding held

namespace Site

variable {settings : ClusterSettings} {binding : Binding} {held : Prop} {site : Site}

theorem Spares.advance (spares : site.Spares settings binding held) :
    site.advance.1.Spares settings binding held ∧
      ∀ report, site.advance.2 = some (.ok report) → report.Spares binding held := by
  obtain ⟨rfl, present, ofCycle⟩ := spares
  rw [← propext present] at ofCycle ⊢
  cases running : site.managed.cycle with
  | none =>
      rw [Site.advance, running]
      refine ⟨⟨rfl, Iff.rfl, ofCycle⟩, ?_⟩
      intro report same
      cases same
  | some cycle =>
      have spared := ofCycle cycle running
      have same : (site.exchange cycle.call).1.managed.cycle = some cycle := running
      have frame : binding ∈ (site.exchange cycle.call).1.broker.bindings ↔
          binding ∈ site.broker.bindings :=
        Broker.mem_perform_unnamed site.broker _ _ spared.unnamed
      have fits := spared.answered site.managed.timeout site.managed.timedOut site.tally
      change (cycle.answered (site.exchange cycle.call).1.managed.settings
        (site.exchange cycle.call).1.tally (site.exchange cycle.call).2).1.Spares _ _ _ at fits
      simp only [Site.advance, running, ManagedCluster.answered, same]
      generalize cycle.answered (site.exchange cycle.call).1.managed.settings
        (site.exchange cycle.call).1.tally (site.exchange cycle.call).2 = outcome at fits ⊢
      obtain ⟨turn, tally⟩ := outcome
      cases turn with
      | continues later =>
          refine ⟨⟨rfl, frame, ?_⟩, fun report same => by cases same⟩
          intro next onward
          cases onward
          exact fits
      | ends result =>
          refine ⟨⟨rfl, frame, fun next onward => by cases onward⟩, ?_⟩
          intro report ended
          exact fits report (Option.some.inj ended)

theorem Spares.trigger {catalog : Catalog} (spares : site.Spares settings binding held)
    (foreign : ¬catalog.Manages settings binding) :
    (site.trigger catalog.query).1.Spares settings binding held where
  configured := (site.trigger_keeps catalog.query).settings.trans spares.configured
  bindings := spares.bindings
  cycle := by
    intro cycle running
    rcases trigger_cycle running with before | ⟨tenants, desired, rfl, hosted, asked⟩
    · exact spares.cycle cycle before
    · rw [spares.configured] at hosted asked
      exact ⟨catalog, hosted, asked, foreign⟩

end Site

/-- The event belongs to the cycles, the resources or the broker, and only a cycle may change
whether the broker holds the binding. -/
def UpkeepEvent.LeavesAlone (binding : Binding) : UpkeepEvent → Prop
  | .trigger | .advance | .resources _ => True
  | .broker change =>
      ∀ broker : Broker, binding ∈ (change broker).bindings ↔ binding ∈ broker.bindings
  | .removeEntry _ _ | .removeStream _ _ => False

namespace Upkeep

/-- The binding is on a type that is not kept in step, or only managed users count and it is for
none of those that tenants on the cluster have, at whatever time. -/
def Foreign (upkeep : Upkeep) (settings : ClusterSettings) (events : List UpkeepEvent)
    (binding : Binding) : Prop :=
  binding.resourceType = .cluster ∨ binding.resourceType = .delegationToken ∨
    settings.managedUsersOnly = true ∧ binding.principal ≠ "User:*" ∧
      ∀ earlier, earlier <+: events → ∀ tenant,
        (upkeep.run earlier).catalog.Hosts settings.name tenant →
          binding.principal ≠ "User:" ++ tenant.kafkaUser

variable {settings : ClusterSettings} {binding : Binding} {held : Prop} {upkeep : Upkeep}

theorem Foreign.unmanaged {events earlier : List UpkeepEvent}
    (foreign : upkeep.Foreign settings events binding) (reached : earlier <+: events) :
    ¬(upkeep.run earlier).catalog.Manages settings binding := by
  rintro ⟨onType, isFor⟩
  rcases foreign with cluster | token | ⟨only, others, strangers⟩
  · rw [cluster] at onType
    simp at onType
  · rw [token] at onType
    simp at onType
  · rcases isFor only with everyone | ⟨tenant, hosts, user⟩
    · exact others everyone
    · exact strangers earlier reached tenant hosts user

theorem Foreign.after {event : UpkeepEvent} {rest : List UpkeepEvent}
    (foreign : upkeep.Foreign settings (event :: rest) binding) :
    (upkeep.step event).Foreign settings rest binding := by
  apply foreign.imp_right
  apply Or.imp_right
  rintro ⟨only, others, strangers⟩
  refine ⟨only, others, ?_⟩
  intro earlier reached
  exact strangers (event :: earlier) (List.cons_prefix_cons.mpr ⟨rfl, reached⟩)

theorem step_spares {event : UpkeepEvent} (spares : upkeep.site.Spares settings binding held)
    (foreign : ¬upkeep.catalog.Manages settings binding) (leaves : event.LeavesAlone binding) :
    (upkeep.step event).site.Spares settings binding held := by
  cases event with
  | resources change => exact spares
  | trigger => exact spares.trigger foreign
  | advance => exact spares.advance.1
  | broker change =>
      exact ⟨spares.configured, (leaves upkeep.site.broker).trans spares.bindings, spares.cycle⟩
  | removeEntry tenant entry | removeStream tenant stream => exact leaves.elim

theorem run_spares {events : List UpkeepEvent}
    (spares : upkeep.site.Spares settings binding held)
    (foreign : upkeep.Foreign settings events binding)
    (leaves : ∀ event ∈ events, event.LeavesAlone binding) :
    (upkeep.run events).site.Spares settings binding held := by
  induction events generalizing upkeep with
  | nil => exact spares
  | cons event rest induction =>
      apply induction
      · exact step_spares spares (foreign.unmanaged List.nil_prefix)
          (leaves event List.mem_cons_self)
      · exact foreign.after
      · intro later member
        exact leaves later (List.mem_cons_of_mem _ member)

/-- Cycles neither create nor remove a foreign binding: they make no call that names it, and it is
on the broker as it was. If it is of a type that is kept in step and on the broker, every cycle that
comes to its end reports it as out of scope. -/
theorem run_spares_foreign (settings : ClusterSettings) (timeout : Nat) (broker : Broker)
    (catalog : Catalog) (events : List UpkeepEvent) (binding : Binding)
    (leaves : ∀ event ∈ events, event.LeavesAlone binding)
    (foreign : (fresh settings timeout broker catalog).Foreign settings events binding) :
    let reached := (fresh settings timeout broker catalog).run events
    (binding ∈ reached.site.broker.bindings ↔ binding ∈ broker.bindings) ∧
      (∀ cycle, reached.site.managed.cycle = some cycle → ¬cycle.call.Names binding) ∧
      ∀ after report, reached.site.advance = (after, some (.ok report)) →
        binding ∉ report.toCreate ∧ binding ∉ report.toDelete ∧
          (binding ∈ broker.bindings → binding.OnManagedType → binding ∈ report.outOfScope) := by
  intro reached
  have fresh_spares : (fresh settings timeout broker catalog).site.Spares settings binding
      (binding ∈ broker.bindings) :=
    ⟨rfl, Iff.rfl, fun cycle running => by cases running⟩
  have spares := run_spares fresh_spares foreign leaves
  refine ⟨spares.bindings, ?_, ?_⟩
  · intro cycle running
    exact (spares.cycle cycle running).unnamed
  · intro after report ended
    have told := spares.advance.2 report
    rw [ended] at told
    obtain ⟨⟨uncreated, undeleted⟩, aside⟩ := told rfl
    exact ⟨uncreated, undeleted, aside⟩

/-- After a first cycle the shop gets another user; the next cycle is cut off, and one more
begins. -/
def rehousing : List UpkeepEvent :=
  [.trigger, .advance, .advance, .advance,
    .resources fun catalog =>
      { catalog with
        tenants := Site.serving [{
          metadata := { name := "shop", cluster := "east" }, kafkaUser := "desk" }] },
    .trigger, .broker fun broker => { broker with available := false }, .advance,
    .broker fun broker => { broker with available := true }, .trigger, .advance]

theorem rehousing_leaves : ∀ event ∈ rehousing, event.LeavesAlone Site.othersRead := by
  simp [rehousing, UpkeepEvent.LeavesAlone]

theorem rehousing_foreign :
    (fresh shopSettings 10 shopBroker Site.shopCatalog).Foreign shopSettings rehousing
      Site.othersRead := by
  refine .inr (.inr ⟨rfl, by decide, ?_⟩)
  intro earlier reached tenant hosts
  have each : ∀ count < 12, ∀ tenant ∈
      ((fresh shopSettings 10 shopBroker Site.shopCatalog).run
        (rehousing.take count)).catalog.tenants.store.snapshot.values,
        Site.othersRead.principal ≠ "User:" ++ tenant.kafkaUser := by
    decide
  rw [List.prefix_iff_eq_take.mp reached] at hosts
  exact each earlier.length (Nat.lt_succ_of_le reached.length_le) tenant hosts.1

theorem run_spares_foreign_rehoused :
    let reached := (fresh shopSettings 10 shopBroker Site.shopCatalog).run rehousing
    Site.othersRead ∈ reached.site.broker.bindings ∧
      ∃ after report, reached.site.advance = (after, some (.ok report)) ∧
        report.created ≠ [] ∧ Site.othersRead ∈ report.outOfScope := by
  intro reached
  have held : Site.othersRead ∈ shopBroker.bindings := by decide
  obtain ⟨present, -, told⟩ := run_spares_foreign shopSettings 10 shopBroker Site.shopCatalog
    rehousing Site.othersRead rehousing_leaves rehousing_foreign
  obtain ⟨after, report, ended, created⟩ : ∃ after report,
      reached.site.advance = (after, some (.ok report)) ∧ report.created ≠ [] :=
    ⟨_, _, rfl, by decide⟩
  obtain ⟨-, -, aside⟩ := told after report ended
  exact ⟨present.mpr held, after, report, ended, created, aside held (.inl rfl)⟩

end Upkeep

end BrokerTenancy
