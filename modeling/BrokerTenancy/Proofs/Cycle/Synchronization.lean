import BrokerTenancy.Cycle.Site
import BrokerTenancy.Proofs.Broker.Batches
import BrokerTenancy.Proofs.Cycle.Plan
import Mathlib.Order.BooleanAlgebra.Set

/-!
A cycle that nobody disturbs, from its trigger to its end. The step lemma says what the call of a
stage brings about; by it, a cycle at a site that reaches its broker carries its plan out. A cycle
that ends without a fault was at such a site, so its end is known in terms of the stored resources
and of the bindings that the broker held and refused.
-/

namespace BrokerTenancy

/-- What a cycle was told when it began, and the broker as it was then. -/
structure Undertaking where
  settings : ClusterSettings
  tenants : List Tenant
  desired : BindingSet
  start : Broker

namespace Undertaking

variable (undertaking : Undertaking)

def plan : Plan :=
  .against undertaking.settings undertaking.tenants undertaking.desired undertaking.start.bindings

/-- The bindings on the broker between the creations and the removals. -/
def enlarged : Set Binding :=
  undertaking.start.bindings.members ∪
    (undertaking.plan.toCreate.members \ undertaking.start.rejects)

/-- The bindings on the broker at the end. -/
def remaining : Set Binding :=
  if undertaking.settings.dropUnsynced then
    undertaking.enlarged \ (undertaking.plan.toDelete.members \ undertaking.start.rejects)
  else undertaking.enlarged

def creations : Batch := .split undertaking.start.refused undertaking.plan.toCreate.toList

def deletions : Batch :=
  if undertaking.settings.dropUnsynced then
    .split undertaking.start.refused undertaking.plan.toDelete.toList
  else {}

def report : Report :=
  undertaking.plan.report undertaking.settings.name undertaking.creations undertaking.deletions
    (!undertaking.settings.dropUnsynced && !undertaking.plan.toDelete.isEmpty)

/-- How the broker stands while a cycle waits for an answer. -/
def Stage (broker : Broker) : Cycle → Prop
  | .describing tenants desired =>
      tenants = undertaking.tenants ∧ desired = undertaking.desired ∧
        broker.bindings = undertaking.start.bindings
  | .creating plan =>
      plan = undertaking.plan ∧ broker.bindings = undertaking.start.bindings
  | .deleting plan creations =>
      plan = undertaking.plan ∧ creations = undertaking.creations ∧
        undertaking.settings.dropUnsynced = true ∧
        broker.bindings.members = undertaking.enlarged

/-- A turn that leaves the broker so: the cycle goes on with fewer calls left, or it has carried out
what it was to do. -/
def Fits (broker : Broker) (calls : Nat) : Turn → Prop
  | .continues cycle => undertaking.Stage broker cycle ∧ cycle.callsLeft < calls
  | .ends result =>
      result = .ok undertaking.report ∧ broker.bindings.members = undertaking.remaining

/-- The undertaking of a cycle that began with the resources of a catalog. -/
structure Follows (catalog : Catalog) : Prop where
  hosted : ∀ tenant,
    tenant ∈ undertaking.tenants ↔ catalog.Hosts undertaking.settings.name tenant
  desired : undertaking.desired.members = catalog.desired undertaking.settings.name

variable {undertaking} {broker : Broker} {catalog : Catalog}

theorem enlarged_eq :
    undertaking.enlarged =
      undertaking.start.bindings.members ∪
        (undertaking.desired.members \ undertaking.start.rejects) := by
  rw [enlarged, Plan.to_create_members, plan, Plan.against_desired]
  ext binding
  constructor
  · rintro (present | ⟨⟨asked, _⟩, accepted⟩)
    · exact .inl present
    · exact .inr ⟨asked, accepted⟩
  · rintro (present | ⟨asked, accepted⟩)
    · exact .inl present
    -- A desired binding that the cycle found was on the broker before, refused or not.
    · by_cases looked : binding ∈ undertaking.plan.actual
      · exact .inl (Plan.actual_held looked)
      · exact .inr ⟨⟨asked, looked⟩, accepted⟩

theorem not_mem_to_delete {binding : Binding} (asked : binding ∈ undertaking.desired) :
    binding ∉ undertaking.plan.toDelete := by
  rw [← SortedSet.mem_members, Plan.to_delete_members, plan, Plan.against_desired]
  intro unwanted
  exact unwanted.2 asked

theorem Follows.to_create (follows : undertaking.Follows catalog) :
    undertaking.plan.toCreate.members =
      catalog.desired undertaking.settings.name \
        catalog.inScope undertaking.settings undertaking.start.bindings.members := by
  rw [Plan.to_create_members, plan, Plan.against_desired, Plan.actual_members follows.hosted,
    follows.desired]

theorem Follows.to_delete (follows : undertaking.Follows catalog) :
    undertaking.plan.toDelete.members =
      catalog.inScope undertaking.settings undertaking.start.bindings.members \
        catalog.desired undertaking.settings.name := by
  rw [Plan.to_delete_members, plan, Plan.against_desired, Plan.actual_members follows.hosted,
    follows.desired]

theorem fits_after_creating {calls : Nat} (tally : Tally) (left : 1 < calls)
    (enlarged : broker.bindings.members = undertaking.enlarged) :
    undertaking.Fits broker calls
      (Cycle.afterCreating undertaking.settings undertaking.plan undertaking.creations
        tally).1 := by
  unfold Cycle.afterCreating
  by_cases drops : undertaking.settings.dropUnsynced = true
  · rw [if_pos drops]
    split
    · next nothing =>
        have none : undertaking.plan.toDelete.toList = [] :=
          (SortedSet.is_empty_iff _).mp nothing
        refine ⟨?_, ?_⟩
        · simp only [report, deletions, drops, none, if_true, Bool.not_true, Bool.false_and]
          rfl
        · have noMembers : undertaking.plan.toDelete.members = ∅ :=
            SortedSet.members_eq_empty nothing
          rw [enlarged, remaining, if_pos drops, noMembers, Set.empty_sdiff, Set.sdiff_empty]
    · exact ⟨⟨rfl, rfl, drops, enlarged⟩, left⟩
  · have keeps : undertaking.settings.dropUnsynced = false := Bool.not_eq_true _ ▸ drops
    rw [if_neg drops]
    refine ⟨?_, ?_⟩
    · simp only [report, deletions, keeps, Bool.false_eq_true, if_false, Bool.not_false,
        Bool.true_and]
    · rw [enlarged, remaining, if_neg drops]

theorem fits_with_plan (tally : Tally)
    (untouched : broker.bindings = undertaking.start.bindings) :
    undertaking.Fits broker 3
      (Cycle.withPlan undertaking.settings undertaking.plan tally).1 := by
  unfold Cycle.withPlan
  split
  · next nothing =>
      have none : undertaking.plan.toCreate.toList = [] :=
        (SortedSet.is_empty_iff _).mp nothing
      have noCreations : undertaking.creations = {} := by
        rw [creations, none]
        rfl
      have enlarged : broker.bindings.members = undertaking.enlarged := by
        rw [Undertaking.enlarged, SortedSet.members_eq_empty nothing, Set.empty_sdiff,
          Set.union_empty, untouched]
      rw [← noCreations]
      exact fits_after_creating tally (by omega) enlarged
  · exact ⟨⟨rfl, untouched⟩, by simp only [Cycle.callsLeft]; omega⟩

/-- What the call of a stage brings about at a broker that answers. -/
theorem fits_answered {cycle : Cycle} (tally : Tally)
    (available : broker.available = true) (refused : broker.refused = undertaking.start.refused)
    (stage : undertaking.Stage broker cycle) :
    undertaking.Fits (broker.perform cycle.call).1 cycle.callsLeft
      (cycle.answered undertaking.settings tally (broker.perform cycle.call).2).1 := by
  cases cycle with
  | describing tenants desired =>
      obtain ⟨rfl, rfl, untouched⟩ := stage
      rw [Cycle.call, Broker.perform_describe available, Cycle.answered, untouched]
      exact fits_with_plan tally untouched
  | creating plan =>
      obtain ⟨rfl, untouched⟩ := stage
      obtain ⟨answer, added⟩ := Broker.perform_create available undertaking.plan.toCreate
      have rejects := Broker.rejects_of_refused refused
      have creations : Batch.ofCreations (undertaking.plan.toCreate.toList.map broker.creation) =
          undertaking.creations := by
        rw [Broker.of_creations, refused, Undertaking.creations]
      rw [Cycle.call, answer, Cycle.answered, creations]
      apply fits_after_creating _ Nat.one_lt_two
      rw [added, untouched, rejects, enlarged]
  | deleting plan creations =>
      obtain ⟨rfl, rfl, drops, enlarged⟩ := stage
      have rejects := Broker.rejects_of_refused refused
      -- What is to be removed was there when the cycle looked, and creating removes nothing.
      have held : undertaking.plan.toDelete.members ⊆ broker.bindings.members := by
        intro binding unwanted
        rw [Plan.to_delete_members] at unwanted
        rw [enlarged]
        exact .inl (Plan.actual_held unwanted.1)
      obtain ⟨deletions, answer, batch, removed⟩ :=
        Broker.perform_delete available undertaking.plan.toDelete held
      rw [Cycle.call, answer, Cycle.answered]
      refine ⟨?_, ?_⟩
      · simp only [batch, refused, report, Undertaking.deletions, drops, if_true, Bool.not_true,
          Bool.false_and]
      · rw [removed, enlarged, rejects, remaining, if_pos drops]

/-- A cycle is under way at a site that reaches its broker. -/
structure Underway (undertaking : Undertaking) (site : Site) (cycle : Cycle) : Prop where
  settings : site.managed.settings = undertaking.settings
  running : site.managed.cycle = some cycle
  available : site.broker.available = true
  inTime : site.broker.latency ≤ site.managed.timeout
  refused : site.broker.refused = undertaking.start.refused
  stage : undertaking.Stage site.broker cycle

end Undertaking

theorem Cycle.answered_failed (settings : ClusterSettings) (tally : Tally) (cycle : Cycle)
    (fault : Fault) :
    cycle.answered settings tally (cycle.call.failedWith fault) = abort fault tally := by
  cases cycle <;> rfl

namespace Site

theorem exchange_in_time {site : Site} (inTime : site.broker.latency ≤ site.managed.timeout)
    (call : AdminCall) :
    ∃ clock, site.exchange call =
      ({ site with broker := (site.broker.perform call).1, clock },
        (site.broker.perform call).2) := by
  refine ⟨site.clock + min site.broker.latency site.managed.timeout, ?_⟩
  simp only [exchange, Broker.performWithin, if_neg (Nat.not_lt.mpr inTime)]

/-- A call that does not reach the broker fails and changes nothing there. -/
theorem exchange_fails {site : Site}
    (missed : ¬(site.broker.available = true ∧ site.broker.latency ≤ site.managed.timeout))
    (call : AdminCall) :
    ∃ clock fault, site.exchange call = ({ site with clock }, call.failedWith fault) := by
  refine ⟨site.clock + min site.broker.latency site.managed.timeout, ?_⟩
  simp only [exchange, Broker.performWithin]
  split
  · exact ⟨_, rfl⟩
  · next inTime =>
      have gone : site.broker.available = false := by
        rw [← Bool.not_eq_true]
        exact fun available => missed ⟨available, Nat.not_lt.mp inTime⟩
      refine ⟨site.broker.disconnected, ?_⟩
      simp only [Broker.perform, gone, Bool.not_false, if_true]

theorem advance_missed {site : Site} {cycle : Cycle} (running : site.managed.cycle = some cycle)
    (missed : ¬(site.broker.available = true ∧ site.broker.latency ≤ site.managed.timeout)) :
    ∃ after fault, site.advance = (after, some (.error fault)) ∧ after.broker = site.broker := by
  obtain ⟨clock, fault, exchanged⟩ := exchange_fails missed cycle.call
  simp only [advance, running, exchanged, ManagedCluster.answered, Cycle.answered_failed,
    Cycle.abort, ManagedCluster.take]
  exact ⟨_, fault, rfl, rfl⟩

theorem advance_underway {undertaking : Undertaking} {site : Site} {cycle : Cycle}
    (underway : undertaking.Underway site cycle) :
    (∃ next later, site.advance = (next, none) ∧ undertaking.Underway next later ∧
        later.callsLeft < cycle.callsLeft) ∨
      ∃ after, site.advance = (after, some (.ok undertaking.report)) ∧
        after.broker.bindings.members = undertaking.remaining := by
  obtain ⟨clock, exchanged⟩ := exchange_in_time underway.inTime cycle.call
  have alike := Broker.perform_alike site.broker cycle.call
  have fits := Undertaking.fits_answered site.tally underway.available underway.refused
    underway.stage
  rw [← underway.settings] at fits
  generalize performed : site.broker.perform cycle.call = outcome at exchanged alike fits
  generalize turned : cycle.answered site.managed.settings site.tally outcome.2 = turn at fits
  obtain ⟨turn, tally⟩ := turn
  simp only [advance, underway.running, exchanged, ManagedCluster.answered, turned]
  cases turn with
  | continues later =>
      refine .inl ⟨_, later, rfl, ?_, fits.2⟩
      exact {
        settings := underway.settings
        running := rfl
        available := alike.available.trans underway.available
        inTime := alike.latency.symm ▸ underway.inTime
        refused := alike.refused.trans underway.refused
        stage := fits.1 }
  | ends result =>
      obtain ⟨rfl, remaining⟩ := fits
      exact .inr ⟨_, rfl, remaining⟩

theorem advance_for_underway {undertaking : Undertaking} (calls : Nat) {site : Site}
    {cycle : Cycle} (underway : undertaking.Underway site cycle)
    (enough : cycle.callsLeft ≤ calls) :
    ∃ after, advanceFor calls site = (after, some (.ok undertaking.report)) ∧
      after.broker.bindings.members = undertaking.remaining := by
  -- Every call leaves fewer of them to make, so the bound is never what ends the cycle.
  induction calls generalizing site cycle with
  | zero => cases cycle <;> simp only [Cycle.callsLeft] at enough <;> omega
  | succ calls induction =>
      rcases advance_underway underway with
        ⟨next, later, step, onward, fewer⟩ | ⟨after, step, ended⟩
      · simp only [advanceFor, step]
        exact induction onward (by omega)
      · exact ⟨after, by simp only [advanceFor, step], ended⟩

/-- The site right after a trigger has started a cycle. -/
def started (site : Site) (cycle : Cycle) : Site :=
  { site with
    managed := { site.managed with cycle := some cycle }
    tally := site.tally.cycleStarted }

theorem trigger_starts {site : Site} {query : ResourceQuery} {cycle : Cycle}
    (manages : site.managed.settings.manageAcls = true) (idle : site.managed.cycle = none)
    (begun : Cycle.begin site.managed.settings query = .ok cycle) :
    site.trigger query = (site.started cycle, none) := by
  simp only [trigger, ManagedCluster.trigger, manages, Bool.not_true, Bool.false_eq_true, if_false,
    idle, begun, ManagedCluster.take, started]

theorem run_started {site : Site} {query : ResourceQuery} {cycle : Cycle}
    (manages : site.managed.settings.manageAcls = true) (idle : site.managed.cycle = none)
    (begun : Cycle.begin site.managed.settings query = .ok cycle) :
    site.run query = advanceFor cycle.callsLeft (site.started cycle) := by
  rw [run, trigger_starts manages idle begun]
  rfl

theorem underway_started {site : Site} {tenants : List Tenant} {desired : BindingSet}
    (available : site.broker.available = true)
    (inTime : site.broker.latency ≤ site.managed.timeout) :
    Undertaking.Underway ⟨site.managed.settings, tenants, desired, site.broker⟩
      (site.started (.describing tenants desired)) (.describing tenants desired) where
  settings := rfl
  running := rfl
  available
  inTime
  refused := rfl
  stage := ⟨rfl, rfl, rfl⟩

/-- A cycle that begins at a site that reaches its broker ends without a fault. -/
theorem run_carries_out {site : Site} {query : ResourceQuery} {tenants : List Tenant}
    {desired : BindingSet} (manages : site.managed.settings.manageAcls = true)
    (idle : site.managed.cycle = none)
    (begun : Cycle.begin site.managed.settings query = .ok (.describing tenants desired))
    (available : site.broker.available = true)
    (inTime : site.broker.latency ≤ site.managed.timeout) :
    let undertaking : Undertaking :=
      ⟨site.managed.settings, tenants, desired, site.broker⟩
    ∃ after, site.run query = (after, some (.ok undertaking.report)) ∧
      after.broker.bindings.members = undertaking.remaining := by
  intro undertaking
  rw [run_started manages idle begun]
  exact advance_for_underway _ (underway_started available inTime) (Nat.le_refl _)

/-- A cycle that ended without a fault had begun and reached its broker. -/
theorem run_completed {site after : Site} {catalog : Catalog} {report : Report}
    (manages : site.managed.settings.manageAcls = true) (idle : site.managed.cycle = none)
    (completed : site.run catalog.query = (after, some (.ok report))) :
    ∃ tenants desired,
      Cycle.begin site.managed.settings catalog.query = .ok (.describing tenants desired) ∧
        site.broker.available = true ∧ site.broker.latency ≤ site.managed.timeout := by
  cases begun : Cycle.begin site.managed.settings catalog.query with
  | error fault =>
      simp [run, trigger, ManagedCluster.trigger, manages, idle, begun, Cycle.abort,
        ManagedCluster.take] at completed
  | ok cycle =>
      obtain ⟨tenants, desired, rfl, _⟩ := Cycle.begin_ok begun
      refine ⟨tenants, desired, rfl, ?_⟩
      by_contra missed
      -- The first call asks for the bindings on the broker, and it would have failed.
      rw [run_started manages idle begun, Cycle.callsLeft, advanceFor] at completed
      obtain ⟨stopped, fault, step, _⟩ :=
        @advance_missed (site.started (.describing tenants desired)) _ rfl missed
      rw [step] at completed
      cases completed

/-- A cycle ends without a fault exactly if it can begin and reaches its broker. What it then leaves
on the broker and what its report says is told by the bindings that are desired, those that the
cycle looked at and those that the broker refused. -/
theorem run_synchronizes (catalog : Catalog) (site : Site)
    (manages : site.managed.settings.manageAcls = true) (idle : site.managed.cycle = none) :
    let settings := site.managed.settings
    let held := site.broker.bindings.members
    let refused := site.broker.rejects
    let desired := catalog.desired settings.name
    let actual := catalog.inScope settings held
    ((∃ after report, site.run catalog.query = (after, some (.ok report))) ↔
      (∃ cycle, Cycle.begin settings catalog.query = .ok cycle) ∧
        site.broker.available = true ∧ site.broker.latency ≤ site.managed.timeout) ∧
    ∀ after report, site.run catalog.query = (after, some (.ok report)) →
      after.broker.bindings.members =
          (if settings.dropUnsynced then
            (held ∪ (desired \ refused)) \ ((actual \ desired) \ refused)
          else held ∪ (desired \ refused)) ∧
        SortedSet.Lists report.toCreate (desired \ actual) ∧
        SortedSet.Lists report.toDelete (actual \ desired) ∧
        report.created = report.toCreate.filter (· ∉ site.broker.refused) ∧
        report.deleted =
          (if settings.dropUnsynced then report.toDelete.filter (· ∉ site.broker.refused)
          else []) ∧
        report.failed = report.toCreate.filter (· ∈ site.broker.refused) ++
          (if settings.dropUnsynced then report.toDelete.filter (· ∈ site.broker.refused)
          else []) := by
  intro settings held refused desired actual
  refine ⟨⟨?_, ?_⟩, ?_⟩
  · rintro ⟨after, report, completed⟩
    obtain ⟨tenants, wanted, begun, reached⟩ := run_completed manages idle completed
    exact ⟨⟨_, begun⟩, reached⟩
  · rintro ⟨⟨cycle, begun⟩, available, inTime⟩
    obtain ⟨tenants, wanted, rfl, -⟩ := Cycle.begin_ok begun
    obtain ⟨after, ran, -⟩ := run_carries_out manages idle begun available inTime
    exact ⟨after, _, ran⟩
  intro after report completed
  obtain ⟨tenants, wanted, begun, available, inTime⟩ := run_completed manages idle completed
  obtain ⟨ended, ran, remaining⟩ := run_carries_out manages idle begun available inTime
  rw [completed] at ran
  cases ran
  obtain ⟨_, _, same, hosted, asked⟩ := Cycle.begin_ok begun
  cases same
  generalize told : Undertaking.mk site.managed.settings tenants wanted site.broker = undertaking
    at remaining ⊢
  have ofSettings : undertaking.settings = settings := told ▸ rfl
  have ofStart : undertaking.start = site.broker := told ▸ rfl
  have follows : undertaking.Follows catalog := told ▸ ⟨hosted, asked⟩
  have toCreate := follows.to_create
  have toDelete := follows.to_delete
  have enlarged := undertaking.enlarged_eq
  rw [ofSettings, ofStart] at toCreate toDelete
  rw [ofStart, follows.desired, ofSettings] at enlarged
  refine ⟨?_, toCreate ▸ SortedSet.to_list_lists _, toDelete ▸ SortedSet.to_list_lists _, ?_, ?_,
    ?_⟩
  · rw [remaining, Undertaking.remaining, enlarged, toDelete, ofSettings, ofStart]
  · simp only [Undertaking.report, Plan.report, Undertaking.creations, ofStart]
    rfl
  · simp only [Undertaking.report, Plan.report, Undertaking.deletions, ofSettings, ofStart]
    split <;> rfl
  · simp only [Undertaking.report, Plan.report, Undertaking.creations, Undertaking.deletions,
      ofSettings, ofStart]
    split <;> rfl

/-- A serving store that holds the given resources. -/
def serving {Value : Type} [Resource Value] (values : List Value) : HostedStore Value where
  store := {
    name := "", limits := {}
    snapshot := .ofList (values.map fun value => (Resource.key value, value))
    status := { ready := true } }
  log := default

/-- A tenant that may read the orders and runs a stream. -/
def shopCatalog : Catalog where
  tenants := serving [{
    metadata := { name := "shop", cluster := "east" }
    kafkaUser := "till" }]
  accessControlEntries := serving [{
    metadata := { name := "reading", namespaceName := "shop", cluster := "east" }
    resourceType := .topic
    resource := "orders"
    patternType := .literal
    permission := .read
    grantedTo := "shop" }]
  streams := serving [{
    metadata := { name := "flow", namespaceName := "shop", cluster := "east" } }]
  connectors := serving []
  roleBindings := serving []

def tillMay (operation : Operation) (patternType : PatternType) (topic : String) : Binding :=
  .allow .topic topic patternType "User:till" operation

def othersRead : Binding := .allow .topic "orders" .literal "User:audit" .read

/-- A broker that keeps two old grants, one of which it refuses to remove, and a foreign one. -/
def shopSite : Site where
  managed := { settings := { name := "east", manageAcls := true }, timeout := 10 }
  broker := {
    cluster := "east"
    bindings := .ofList [tillMay .read .literal "old", tillMay .read .literal "stuck", othersRead]
    refused := [tillMay .read .literal "stuck", tillMay .create .prefixed "flow"] }

theorem run_synchronizes_shop :
    ∃ after report, shopSite.run shopCatalog.query = (after, some (.ok report)) ∧
      report.deleted = [tillMay .read .literal "old"] ∧
      report.failed = [tillMay .create .prefixed "flow", tillMay .read .literal "stuck"] ∧
      tillMay .read .literal "orders" ∈ after.broker.bindings ∧
      othersRead ∈ after.broker.bindings := by
  obtain ⟨after, report, ran, creating, removing⟩ : ∃ after report,
      shopSite.run shopCatalog.query = (after, some (.ok report)) ∧
        report.toCreate = [tillMay .create .prefixed "flow", tillMay .delete .prefixed "flow",
          tillMay .read .literal "orders",
          .allow .transactionalId "flow" .prefixed "User:till" .write] ∧
        report.toDelete = [tillMay .read .literal "old", tillMay .read .literal "stuck"] :=
    ⟨_, _, rfl, by decide, by decide⟩
  obtain ⟨bindings, toCreate, toDelete, created, deleted, failed⟩ :=
    (run_synchronizes shopCatalog shopSite rfl rfl).2 after report ran
  have drops : shopSite.managed.settings.dropUnsynced = true := rfl
  rw [if_pos drops] at bindings deleted failed
  rw [creating, removing] at failed
  rw [removing] at deleted
  refine ⟨after, report, ran, deleted.trans (by decide), failed.trans (by decide), ?_, ?_⟩
  · have asked := (toCreate.complete (tillMay .read .literal "orders")).mp
      (by rw [creating]; decide)
    have accepted : tillMay .read .literal "orders" ∉ shopSite.broker.refused := by decide
    rw [← SortedSet.mem_members, bindings]
    exact ⟨.inr ⟨asked.1, accepted⟩, fun unwanted => unwanted.1.2 asked.1⟩
  · have held : othersRead ∈ shopSite.broker.bindings := by decide
    have spared : othersRead ∉ report.toDelete := by
      rw [removing]
      decide
    rw [← SortedSet.mem_members, bindings]
    exact ⟨.inl held, fun unwanted => spared ((toDelete.complete othersRead).mpr unwanted.1)⟩

end Site

end BrokerTenancy
