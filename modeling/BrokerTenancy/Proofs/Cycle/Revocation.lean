import BrokerTenancy.Proofs.Cycle.Convergence

/-!
What becomes of a binding that a cycle created once nothing asks for it any more. The next cycle
that may remove and is refused nothing takes it away, however the grant was revoked. The exception
is a binding of a user that no namespace on the cluster has any longer, where only managed users
count: such a user is a stranger, whose bindings a cycle reports and leaves alone.
-/

namespace BrokerTenancy

namespace Undertaking

variable {undertaking : Undertaking} {catalog : Catalog}

theorem remaining_enlarged {binding : Binding} (left : binding ∈ undertaking.remaining) :
    binding ∈ undertaking.enlarged := by
  unfold remaining at left
  split at left
  · exact left.1
  · exact left

/-- What a cycle that may remove leaves of the managed types is desired, or was out of its scope. -/
theorem Follows.left_behind (follows : undertaking.Follows catalog) (clean : undertaking.Clean)
    (drops : undertaking.settings.dropUnsynced = true) {binding : Binding}
    (onType : binding.OnManagedType) (left : binding ∈ undertaking.remaining) :
    binding ∈ catalog.desired undertaking.settings.name ∨
      ¬catalog.Manages undertaking.settings binding ∧
        binding ∈ undertaking.report.outOfScope := by
  by_cases manages : catalog.Manages undertaking.settings binding
  · left
    have scope := follows.remaining_in_scope clean
    rw [if_pos drops] at scope
    rw [← scope]
    exact ⟨left, manages⟩
  · right
    refine ⟨manages, ?_⟩
    have present := remaining_enlarged left
    rw [enlarged_eq, follows.desired] at present
    -- A cycle creates only what it also looks at, so the binding was there before.
    have held := present.resolve_right fun asked =>
      manages (Catalog.manages_of_desired _ asked.1)
    change binding ∈ undertaking.plan.outOfScope.members
    rw [plan, Plan.out_of_scope_members follows.hosted]
    exact ⟨held, onType, manages⟩

end Undertaking

namespace Site

/-- A cycle that began with the resources of a catalog is under way at a site that reaches its
broker, or none is under way. -/
def Pursues (site : Site) (catalog : Catalog) : Prop :=
  (∃ undertaking cycle, Undertaking.Follows undertaking catalog ∧
      undertaking.Underway site cycle) ∨ site.managed.cycle = none

variable {site after : Site} {catalog : Catalog} {report : Report}

theorem trigger_pursues (idle : site.managed.cycle = none)
    (available : site.broker.available = true)
    (inTime : site.broker.latency ≤ site.managed.timeout) :
    (site.trigger catalog.query).1.Pursues catalog := by
  by_cases manages : site.managed.settings.manageAcls = true
  · cases begun : Cycle.begin site.managed.settings catalog.query with
    | ok cycle =>
        obtain ⟨tenants, desired, rfl, hosted, asked⟩ := Cycle.begin_ok begun
        rw [trigger_starts manages idle begun]
        exact .inl ⟨_, _, ⟨hosted, asked⟩, underway_started available inTime⟩
    | error fault =>
        right
        simp only [trigger, ManagedCluster.trigger, manages, idle, begun, Cycle.abort,
          ManagedCluster.take, Bool.not_true, Bool.false_eq_true, if_false]
  · right
    simp only [trigger, ManagedCluster.trigger, manages, Bool.not_false, if_true, idle]

theorem advance_idle (idle : site.managed.cycle = none) : site.advance = (site, none) := by
  rw [advance, idle]

theorem advance_pursues (pursues : site.Pursues catalog) : site.advance.1.Pursues catalog := by
  obtain ⟨undertaking, cycle, follows, underway⟩ | idle := pursues
  · obtain ⟨next, later, step, onward, -⟩ | ⟨last, step, -⟩ := advance_underway underway
    · rw [step]
      exact .inl ⟨undertaking, later, follows, onward⟩
    · right
      apply site.advance_keeps.2
      rw [step]
      nofun
  · rw [advance_idle idle]
    exact .inr idle

theorem advance_reaches (ended : site.advance = (after, some (.ok report))) :
    site.broker.available = true ∧ site.broker.latency ≤ site.managed.timeout := by
  by_contra missed
  cases running : site.managed.cycle with
  | none =>
      rw [advance_idle running] at ended
      cases ended
  | some cycle =>
      obtain ⟨stopped, fault, step, -⟩ := advance_missed running missed
      rw [step] at ended
      cases ended

theorem advance_carries_out (pursues : site.Pursues catalog)
    (ended : site.advance = (after, some (.ok report))) :
    ∃ undertaking, undertaking.settings = site.managed.settings ∧
      Undertaking.Follows undertaking catalog ∧ report = undertaking.report ∧
      after.broker.bindings.members = undertaking.remaining := by
  obtain ⟨undertaking, cycle, follows, underway⟩ | idle := pursues
  · obtain ⟨next, later, step, -⟩ | ⟨last, step, remaining⟩ := advance_underway underway
    · rw [step] at ended
      cases ended
    · rw [step] at ended
      cases ended
      exact ⟨undertaking, underway.settings.symm, follows, rfl, remaining⟩
  · rw [advance_idle idle] at ended
    cases ended

end Site

/-- The event lets the cycle under way go on, or changes resources that the cycle has read. -/
def UpkeepEvent.isQuiet : UpkeepEvent → Bool
  | .advance | .resources _ => true
  | .trigger | .removeEntry _ _ | .removeStream _ _ | .broker _ => false

namespace Upkeep

theorem step_quiet {upkeep : Upkeep} {catalog : Catalog} {event : UpkeepEvent}
    (quiet : event.isQuiet = true) :
    upkeep.site.Keeps (upkeep.step event).site ∧
      (upkeep.site.Pursues catalog → (upkeep.step event).site.Pursues catalog) := by
  cases event with
  | advance => exact ⟨upkeep.site.advance_keeps.1, Site.advance_pursues⟩
  | resources change => exact ⟨.refl _, id⟩
  | trigger | removeEntry tenant entry | removeStream tenant stream | broker change =>
      cases quiet

theorem run_quiet {upkeep : Upkeep} {catalog : Catalog} (events : List UpkeepEvent)
    (quiet : ∀ event ∈ events, event.isQuiet = true) :
    upkeep.site.Keeps (upkeep.run events).site ∧
      (upkeep.site.Pursues catalog → (upkeep.run events).site.Pursues catalog) := by
  induction events generalizing upkeep with
  | nil => exact ⟨.refl _, id⟩
  | cons event rest induction =>
      obtain ⟨keeps, pursues⟩ :=
        @step_quiet upkeep catalog event (quiet event List.mem_cons_self)
      obtain ⟨onward, last⟩ := induction fun later member =>
        quiet later (List.mem_cons_of_mem _ member)
      exact ⟨keeps.trans onward, last ∘ pursues⟩

/-- When a cycle that may remove ends and was refused nothing, a binding that this or an earlier
cycle created is gone from the broker unless the resources that the cycle read ask for it. Only
where managed users alone count does a binding stay that is for no user in view, and it is
reported. -/
theorem run_revokes (settings : ClusterSettings) (timeout : Nat) (broker : Broker)
    (catalog : Catalog) (events during : List UpkeepEvent)
    (drops : settings.dropUnsynced = true)
    (quiet : ∀ event ∈ during, event.isQuiet = true) :
    let reached := (fresh settings timeout broker catalog).run events
    let ending := reached.run (.trigger :: during)
    reached.site.managed.cycle = none →
    ∀ after report, ending.site.advance = (after, some (.ok report)) → report.failed = [] →
      ∀ binding ∈ (ending.step .advance).created, binding ∈ after.broker.bindings →
        binding ∈ reached.catalog.desired settings.name ∨
          settings.managedUsersOnly = true ∧ binding.principal ≠ "User:*" ∧
            (∀ tenant, reached.catalog.Hosts settings.name tenant →
              binding.principal ≠ "User:" ++ tenant.kafkaUser) ∧
            binding ∈ report.outOfScope := by
  intro reached ending idle after report ended failed binding created left
  have sound : reached.Sound settings timeout :=
    sound_run settings timeout broker catalog events
  have ending_sound : ending.Sound settings timeout := sound.run (.trigger :: during)
  have onType : binding.OnManagedType := (ending_sound.step .advance).created binding created
  -- The last call reached the broker, and nothing since the trigger could have changed that.
  obtain ⟨available, inTime⟩ := Site.advance_reaches ended
  obtain ⟨keeps, pursues⟩ :=
    @run_quiet (reached.step .trigger) reached.catalog during quiet
  have kept := (reached.site.trigger_keeps reached.catalog.query).trans keeps
  have pursued : ending.site.Pursues reached.catalog := by
    apply pursues
    apply Site.trigger_pursues idle
    · exact kept.broker.available.symm.trans available
    · have timely := inTime
      rw [ending_sound.timeout] at timely
      rw [sound.timeout, ← kept.broker.latency]
      exact timely
  obtain ⟨undertaking, same, follows, rfl, remaining⟩ := Site.advance_carries_out pursued ended
  have ofSettings : undertaking.settings = settings := same.trans ending_sound.settings
  rw [← SortedSet.mem_members, remaining] at left
  have outcome := follows.left_behind (Undertaking.clean_of_failed failed)
    (ofSettings ▸ drops) onType left
  rw [ofSettings] at outcome
  apply outcome.imp_right
  rintro ⟨beyond, reported⟩
  obtain ⟨only, others, strangers⟩ := Catalog.not_manages onType beyond
  exact ⟨only, others, strangers, reported⟩

def followed {Value : Type} (hosted : HostedStore Value) : HostedStore Value :=
  { hosted with store := { hosted.store with loop := some (.following 0) } }

/-- The shop without its stream, in stores that take writes. -/
def openShop : Catalog :=
  { Site.shopCatalog with
    tenants := followed Site.shopCatalog.tenants
    accessControlEntries := followed Site.shopCatalog.accessControlEntries
    streams := Site.serving [] }

def ordersGrant : Binding := Site.tillMay .read .literal "orders"

/-- A cycle lets the shop read the orders, and then something happens. -/
def afterOpening (event : UpkeepEvent) : Upkeep :=
  (fresh shopSettings 10 { cluster := "east" } openShop).run [.trigger, .advance, .advance, event]

def revokeReading : UpkeepEvent :=
  .resources fun catalog =>
    { catalog with
      accessControlEntries := (catalog.accessControlEntries.delete "shop/reading" 0).1 }

theorem run_revokes_reading :
    let reached := afterOpening revokeReading
    let ending := reached.run [.trigger, .advance]
    ∃ after report, ending.site.advance = (after, some (.ok report)) ∧
      ordersGrant ∈ reached.site.broker.bindings ∧ ordersGrant ∈ reached.created ∧
      ordersGrant ∉ after.broker.bindings := by
  intro reached ending
  obtain ⟨after, report, ended, failed⟩ : ∃ after report,
      ending.site.advance = (after, some (.ok report)) ∧ report.failed = [] :=
    ⟨_, _, rfl, by decide⟩
  refine ⟨after, report, ended, by decide, by decide, ?_⟩
  intro left
  have created : ordersGrant ∈ (ending.step .advance).created := by decide
  have outcome := run_revokes shopSettings 10 { cluster := "east" } openShop
    [.trigger, .advance, .advance, revokeReading] [.advance] rfl (by decide) rfl after report ended
    failed ordersGrant created left
  rcases outcome with asked | ⟨-, -, strangers, -⟩
  · rcases asked with ⟨tenant, -, ⟨entry, bindings, ⟨stored, -⟩, -⟩ | ⟨stream, ⟨stored, -⟩, -⟩⟩
    · have revoked : reached.catalog.accessControlEntries.store.snapshot.values = [] := by decide
      exact absurd (revoked ▸ stored) List.not_mem_nil
    · have nowhere : reached.catalog.streams.store.snapshot.values = [] := by decide
      exact absurd (nowhere ▸ stored) List.not_mem_nil
  · have hosted : reached.catalog.Hosts "east"
        { metadata := { name := "shop", cluster := "east" }, kafkaUser := "till" } :=
      ⟨List.mem_cons_self, rfl⟩
    exact strangers _ hosted rfl

def removeShop : UpkeepEvent :=
  .resources fun catalog => { catalog with tenants := (catalog.tenants.delete "shop" 0).1 }

/-- With the shop its user is gone, so what a cycle created for that user is out of scope and
stays. -/
theorem removed_tenant_keeps_grant :
    let reached := afterOpening removeShop
    let ending := reached.run [.trigger]
    shopSettings.manageAcls = true ∧ shopSettings.dropUnsynced = true ∧
      reached.site.managed.cycle = none ∧
      ∃ after report, ending.site.advance = (after, some (.ok report)) ∧
        ending.site.broker.refused = [] ∧ report.failed = [] ∧
        ordersGrant ∈ reached.created ∧ ordersGrant ∈ after.broker.bindings ∧
        ordersGrant ∉ ending.catalog.desired "east" := by
  intro reached ending
  refine ⟨rfl, rfl, rfl, _, _, rfl, rfl, by decide, by decide, by decide, ?_⟩
  rintro ⟨tenant, ⟨stored, -⟩, -⟩
  have deserted : ending.catalog.tenants.store.snapshot.values = [] := by decide
  exact absurd (deserted ▸ stored) List.not_mem_nil

end Upkeep

end BrokerTenancy
