import BrokerTenancy.Proofs.Cycle.Removal
import BrokerTenancy.Proofs.Cycle.Accounting

/-!
A cycle that ends with a fault, wherever it is cut off. The stores may not answer, or one of its
calls may miss the broker, whatever others do to the broker in between. Such a cycle has taken
nothing away: what it removes it removes with its last call, and a call that misses the broker
changes nothing there. It is counted as one cycle and as one aborted cycle.
-/

namespace BrokerTenancy

/-- The resources ask for these bindings on a cluster. -/
def ResourceQuery.Desires (query : ResourceQuery) (cluster : String) (desired : BindingSet) :
    Prop :=
  ∃ tenants, query.tenantsOn cluster = .ok tenants ∧ query.desiredBindings tenants = .ok desired

namespace Site

/-- What may become of a site between two calls of its cycle. Others do to the broker what they do,
and removals beside the cycle are counted. -/
structure Meanwhile (others : Broker → Broker → Prop) (before after : Site) : Prop where
  broker : others before.broker after.broker
  managed : after.managed = before.managed
  cycles : after.tally.cycles = before.tally.cycles
  aborted : after.tally.aborted = before.tally.aborted

/-- A cycle under way makes its calls until one of them ends it. The list has the site as each call
found it. -/
inductive Completes (others : Broker → Broker → Prop) :
    Site → List Site → Outcome Report → Site → Prop
  | last {site found after : Site} {result : Outcome Report}
      (waited : site.Meanwhile others found) (ended : found.advance = (after, some result)) :
      Completes others site [found] result after
  | more {site found next after : Site} {later : List Site} {result : Outcome Report}
      (waited : site.Meanwhile others found) (went : found.advance = (next, none))
      (rest : Completes others next later result after) :
      Completes others site (found :: later) result after

/-- A cycle from its trigger to its end. -/
inductive Cycles (others : Broker → Broker → Prop) (query : ResourceQuery) :
    Site → List Site → Outcome Report → Site → Prop
  | atOnce {site after : Site} {result : Outcome Report}
      (ended : site.trigger query = (after, some result)) :
      Cycles others query site [] result after
  | underWay {site begun after : Site} {calls : List Site} {result : Outcome Report}
      (started : site.trigger query = (begun, none))
      (completes : Completes others begun calls result after) :
      Cycles others query site calls result after

theorem Meanwhile.same {others : Broker → Broker → Prop} {site : Site}
    (alone : others site.broker site.broker) : site.Meanwhile others site :=
  ⟨alone, rfl, rfl, rfl⟩

theorem completes_of_advance_for {others : Broker → Broker → Prop}
    (alone : ∀ broker, others broker broker) {limit : Nat} {site after : Site}
    {result : Outcome Report} (ended : site.advanceFor limit = (after, some result)) :
    ∃ calls, Completes others site calls result after := by
  induction limit generalizing site with
  | zero => cases ended
  | succ limit induction =>
      rw [advanceFor] at ended
      split at ended
      · next next went =>
          rcases induction ended with ⟨later, rest⟩
          exact ⟨site :: later, .more (.same (alone _)) went rest⟩
      · exact ⟨[site], .last (.same (alone _)) ended⟩

/-- A cycle that is run to its end at once is one of these cycles. -/
theorem cycles_of_run {others : Broker → Broker → Prop} (alone : ∀ broker, others broker broker)
    {query : ResourceQuery} {site after : Site} {result : Outcome Report}
    (ended : site.run query = (after, some result)) :
    ∃ calls, Cycles others query site calls result after := by
  rw [run] at ended
  split at ended
  · next begun started =>
      rcases completes_of_advance_for alone ended with ⟨calls, completes⟩
      exact ⟨calls, .underWay started completes⟩
  · exact ⟨[], .atOnce ended⟩

/-- The call that the cycle under way makes next. -/
def nextCall (site : Site) : Option AdminCall := site.managed.cycle.map Cycle.call

/-- The next call creates bindings and fails as a whole. -/
def CreationFails (site : Site) : Prop :=
  ∃ bindings fault, site.nextCall = some (.create bindings) ∧
    (site.exchange (.create bindings)).2 = .created (.error fault)

/-- The next call removes nothing from the broker and adds only some bindings. -/
structure AddsOnly (site : Site) (wanted : BindingSet) : Prop where
  kept : ∀ binding ∈ site.broker.bindings, binding ∈ site.advance.1.broker.bindings
  added : ∀ binding ∈ site.advance.1.broker.bindings,
    binding ∈ site.broker.bindings ∨ binding ∈ wanted

variable {site : Site} {cycle : Cycle}

theorem AddsOnly.unchanged {wanted : BindingSet}
    (same : site.advance.1.broker.bindings = site.broker.bindings) : site.AddsOnly wanted := by
  constructor
  · intro binding held
    rw [same]
    exact held
  · intro binding held
    rw [same] at held
    exact .inl held

/-- A call that misses the broker aborts the cycle. -/
theorem advance_aborts (running : site.managed.cycle = some cycle)
    (missed : ¬(site.broker.available = true ∧ site.broker.latency ≤ site.managed.timeout)) :
    ∃ clock fault, site.advance =
      ({ site with
          managed := { site.managed with cycle := none }
          tally := site.tally.cycleAborted
          clock }, some (.error fault)) := by
  rcases exchange_fails missed cycle.call with ⟨clock, fault, exchanged⟩
  simp only [advance, running, exchanged, ManagedCluster.answered, Cycle.answered_failed,
    Cycle.abort, ManagedCluster.take]
  exact ⟨clock, fault, rfl⟩

end Site

/-- A turn aborts nothing. -/
structure Proceeds (tally : Tally) (turned : Turn × Tally) : Prop where
  cycles : turned.2.cycles = tally.cycles
  aborted : turned.2.aborted = tally.aborted
  sound : ∀ fault, turned.1 ≠ .ends (.error fault)

theorem Proceeds.counted {tally earlier : Tally} {turned : Turn × Tally}
    (proceeds : Proceeds tally turned) (cycles : tally.cycles = earlier.cycles)
    (aborted : tally.aborted = earlier.aborted) : Proceeds earlier turned :=
  ⟨proceeds.cycles.trans cycles, proceeds.aborted.trans aborted, proceeds.sound⟩

theorem Tally.count_creations_same (tally : Tally) (creations : List Creation) :
    (tally.countCreations creations).cycles = tally.cycles ∧
      (tally.countCreations creations).aborted = tally.aborted := by
  rcases tally.count_creations_eq creations with ⟨created, failed, counted, -⟩
  rw [counted]
  exact ⟨rfl, rfl⟩

theorem Tally.count_deletions_same (tally : Tally) (deletions : List Deletion) :
    (tally.countDeletions deletions).cycles = tally.cycles ∧
      (tally.countDeletions deletions).aborted = tally.aborted := by
  rcases tally.count_deletions_eq deletions with ⟨deleted, failed, counted, -⟩
  rw [counted]
  exact ⟨rfl, rfl⟩

namespace Cycle

variable {settings : ClusterSettings} {tally : Tally} {broker : Broker}

theorem desires_of_begin {query : ResourceQuery} {cycle : Cycle}
    (begun : begin settings query = .ok cycle) : query.Desires settings.name cycle.desired := by
  simp only [begin, Outcome.bind_eq_ok, Outcome.pure_eq_ok] at begun
  rcases begun with ⟨tenants, hosted, desired, wanted, rfl⟩
  exact ⟨tenants, hosted, wanted⟩

theorem after_creating_proceeds (plan : Plan) (creations : Batch) :
    Proceeds tally (afterCreating settings plan creations tally) := by
  rcases after_creating_counts settings plan creations tally with ⟨pending, counted⟩
  constructor
  · rw [counted]
  · rw [counted]
  · intro fault
    unfold afterCreating
    split
    · split <;> exact nofun
    · exact nofun

theorem with_plan_proceeds (plan : Plan) : Proceeds tally (withPlan settings plan tally) := by
  unfold withPlan
  split
  · exact after_creating_proceeds plan {}
  · exact ⟨rfl, rfl, nofun⟩

theorem created_proceeds (plan : Plan) (creations : List Creation) :
    Proceeds tally ((creating plan).answered settings tally (.created (.ok creations))) := by
  rcases Tally.count_creations_same tally creations with ⟨cycles, aborted⟩
  exact (after_creating_proceeds plan (.ofCreations creations)).counted cycles aborted

theorem deleted_proceeds (plan : Plan) (creations : Batch) (deletions : List Deletion) :
    Proceeds tally
      ((deleting plan creations).answered settings tally (.deleted (.ok deletions))) := by
  rcases Tally.count_deletions_same tally (deletions.take plan.toDelete.toList.length) with
    ⟨cycles, aborted⟩
  exact ⟨cycles, aborted, nofun⟩

theorem performed_proceeds (settings : ClusterSettings) (tally : Tally) (cycle : Cycle)
    (available : broker.available = true) :
    Proceeds tally (cycle.answered settings tally (broker.perform cycle.call).2) := by
  cases cycle with
  | describing tenants desired =>
      rw [call, Broker.perform_describe available]
      exact with_plan_proceeds _
  | creating plan =>
      rw [call, Broker.perform_creating available]
      exact created_proceeds plan _
  | deleting plan creations =>
      rw [call, Broker.perform_removing available]
      exact deleted_proceeds plan creations _

/-- A call that removes is the last one of its cycle. -/
theorem deleting_ends (settings : ClusterSettings) (tally : Tally) (plan : Plan)
    (creations : Batch) (available : broker.available = true) :
    ∃ report, ((deleting plan creations).answered settings tally
      (broker.perform (deleting plan creations).call).2).1 = .ends (.ok report) := by
  rw [call, Broker.perform_removing available]
  exact ⟨_, rfl⟩

end Cycle

namespace Site

variable {site next : Site} {cycle : Cycle}

theorem advance_performs (running : site.managed.cycle = some cycle)
    (inTime : site.broker.latency ≤ site.managed.timeout) :
    ∃ clock, site.advance =
      let turned := cycle.answered site.managed.settings site.tally
        (site.broker.perform cycle.call).2
      let taken := site.managed.take turned
      ({ site with
          managed := taken.1
          broker := (site.broker.perform cycle.call).1
          tally := taken.2.1
          clock }, taken.2.2) := by
  rcases exchange_in_time inTime cycle.call with ⟨clock, exchanged⟩
  simp only [advance, running, exchanged, ManagedCluster.answered]
  exact ⟨clock, rfl⟩

/-- A call that does not end its cycle has reached the broker. -/
theorem advance_goes_on (running : site.managed.cycle = some cycle)
    (went : site.advance = (next, none)) :
    site.broker.available = true ∧ site.broker.latency ≤ site.managed.timeout ∧
      ∃ later tally, next.managed.cycle = some later ∧ next.tally = tally ∧
        next.broker = (site.broker.perform cycle.call).1 ∧
        cycle.answered site.managed.settings site.tally (site.broker.perform cycle.call).2 =
          (.continues later, tally) := by
  by_cases reached :
    site.broker.available = true ∧ site.broker.latency ≤ site.managed.timeout
  · rcases advance_performs running reached.2 with ⟨clock, advanced⟩
    rw [went] at advanced
    apply And.intro reached.1
    apply And.intro reached.2
    generalize cycle.answered site.managed.settings site.tally
      (site.broker.perform cycle.call).2 = turned at advanced
    rcases turned with ⟨later | result, tally⟩
    · cases advanced
      exact ⟨later, tally, rfl, rfl, rfl, rfl⟩
    · cases advanced
  · rcases advance_aborts running reached with ⟨clock, fault, aborted⟩
    rw [went] at aborted
    cases aborted

/-- A call that does not end its cycle is no call that removes. -/
theorem not_deleting_of_goes_on (running : site.managed.cycle = some cycle)
    (went : site.advance = (next, none)) (plan : Plan) (creations : Batch) :
    cycle ≠ .deleting plan creations := by
  rintro rfl
  rcases advance_goes_on running went with ⟨available, -, later, tally, -, -, -, answered⟩
  rcases Cycle.deleting_ends site.managed.settings site.tally plan creations available with
    ⟨report, ended⟩
  rw [answered] at ended
  cases ended

theorem adds_only_of_goes_on (running : site.managed.cycle = some cycle)
    (went : site.advance = (next, none)) : site.AddsOnly cycle.desired := by
  rcases advance_goes_on running went with ⟨available, -, later, tally, -, -, performed, -⟩
  have unlimited := not_deleting_of_goes_on running went
  cases cycle with
  | describing tenants desired =>
      rw [Cycle.call, Broker.perform_describe available] at performed
      apply AddsOnly.unchanged
      rw [went, performed]
      rfl
  | creating plan =>
      rw [Cycle.call, Broker.perform_creating available] at performed
      have created (binding : Binding) := Broker.mem_create_all
        (site.broker.recordCall (.create plan.toCreate.toList)) plan.toCreate.toList binding
      constructor
      · intro binding held
        rw [went, performed, created]
        exact .inl held
      · intro binding held
        rw [went, performed, created] at held
        apply held.imp_right
        intro wanted
        exact ((SortedSet.mem_difference _ _ _).mp wanted.1).1
  | deleting plan creations => exact absurd rfl (unlimited plan creations)

theorem not_creation_fails_of_goes_on (running : site.managed.cycle = some cycle)
    (went : site.advance = (next, none)) : ¬site.CreationFails := by
  rintro ⟨bindings, fault, asked, failed⟩
  rcases advance_goes_on running went with ⟨available, inTime, -⟩
  rcases exchange_in_time inTime (.create bindings) with ⟨clock, exchanged⟩
  rw [exchanged, Broker.perform_creating available] at failed
  cases failed

/-- A call of an aborted cycle that ends it has missed the broker. -/
theorem advance_fails (running : site.managed.cycle = some cycle) {fault : Fault}
    (ended : site.advance = (next, some (.error fault))) :
    next.broker = site.broker ∧ next.tally = site.tally.cycleAborted := by
  by_cases reached :
    site.broker.available = true ∧ site.broker.latency ≤ site.managed.timeout
  · rcases advance_performs running reached.2 with ⟨clock, advanced⟩
    have sound :=
      (Cycle.performed_proceeds site.managed.settings site.tally cycle reached.1).sound fault
    rw [ended] at advanced
    generalize cycle.answered site.managed.settings site.tally
      (site.broker.perform cycle.call).2 = turned at advanced sound
    rcases turned with ⟨later | result, tally⟩
    · cases advanced
    · cases advanced
      exact absurd rfl sound
  · rcases advance_aborts running reached with ⟨clock, cause, advanced⟩
    rw [ended] at advanced
    cases advanced
    exact ⟨rfl, rfl⟩

/-- What a cycle that was cut off has done, from some site on. -/
structure Interrupted (others : Broker → Broker → Prop) (wanted : BindingSet) (site : Site)
    (calls : List Site) (after : Site) : Prop where
  adds : ∀ found ∈ calls, found.AddsOnly wanted
  undeleted : (∃ found ∈ calls, found.CreationFails) →
    ∀ found ∈ calls, ∀ filters, found.nextCall ≠ some (.delete filters)
  cycles : after.tally.cycles = site.tally.cycles
  aborted : after.tally.aborted = Tally.raised site.tally.aborted 1
  pending : after.tally.pendingDelete = some 0
  /-- Where others leave the bindings alone, the broker has lost none and got only wanted ones. -/
  kept : (∀ before changed, others before changed → changed.bindings = before.bindings) →
    (∀ binding ∈ site.broker.bindings, binding ∈ after.broker.bindings) ∧
      ∀ binding ∈ after.broker.bindings, binding ∈ site.broker.bindings ∨ binding ∈ wanted

variable {others : Broker → Broker → Prop} {found after : Site} {wanted : BindingSet}
  {fault : Fault}

theorem interrupted_last (waited : site.Meanwhile others found)
    (running : found.managed.cycle = some cycle)
    (ended : found.advance = (after, some (.error fault))) :
    Interrupted others wanted site [found] after := by
  rcases advance_fails running ended with ⟨broker, tally⟩
  constructor
  · intro call member
    rw [List.mem_singleton.mp member]
    apply AddsOnly.unchanged
    rw [ended, broker]
  · rintro ⟨call, member, bindings, cause, asked, -⟩ other last filters deletes
    rw [List.mem_singleton.mp last, ← List.mem_singleton.mp member, asked] at deletes
    cases deletes
  · rw [tally]
    exact waited.cycles
  · rw [tally, ← waited.aborted]
    rfl
  · rw [tally]
    rfl
  · intro spared
    rw [broker, spared _ _ waited.broker]
    exact ⟨fun binding held => held, fun binding held => .inl held⟩

theorem Interrupted.more {later : List Site} (waited : site.Meanwhile others found)
    (running : found.managed.cycle = some cycle) (went : found.advance = (next, none))
    (interrupted : Interrupted others cycle.desired next later after) :
    Interrupted others cycle.desired site (found :: later) after := by
  have adds := adds_only_of_goes_on running went
  rcases advance_goes_on running went with ⟨available, -, following, tally, -, same, -, answered⟩
  have proceeds := Cycle.performed_proceeds found.managed.settings found.tally cycle available
  rw [answered] at proceeds
  constructor
  · intro call member
    rcases List.mem_cons.mp member with rfl | behind
    · exact adds
    · exact interrupted.adds call behind
  · rintro ⟨call, member, failed⟩ other either filters deletes
    -- Creation can only fail later on, and the call at hand is none that removes.
    rcases List.mem_cons.mp member with rfl | behind
    · exact not_creation_fails_of_goes_on running went failed
    · rcases List.mem_cons.mp either with rfl | last
      · rw [nextCall, running] at deletes
        cases cycle with
        | deleting plan creations =>
            exact not_deleting_of_goes_on running went plan creations rfl
        | _ => cases deletes
      · exact interrupted.undeleted ⟨call, behind, failed⟩ other last filters deletes
  · rw [interrupted.cycles, same, ← waited.cycles]
    exact proceeds.cycles
  · rw [interrupted.aborted, same, ← waited.aborted]
    exact congrArg (Tally.raised · 1) proceeds.aborted
  · exact interrupted.pending
  · intro spared
    rcases interrupted.kept spared with ⟨kept, added⟩
    have bindings := spared _ _ waited.broker
    rcases adds with ⟨keptBefore, addedBefore⟩
    rw [went] at keptBefore addedBefore
    constructor
    · intro binding held
      rw [← bindings] at held
      exact kept binding (keptBefore binding held)
    · intro binding held
      rw [← bindings]
      rcases added binding held with before | desired
      · exact addedBefore binding before
      · exact .inr desired

theorem Completes.interrupted {calls : List Site} {result : Outcome Report}
    (completes : Completes others site calls result after) (failed : result = .error fault)
    (running : site.managed.cycle = some cycle) :
    Interrupted others cycle.desired site calls after := by
  induction completes generalizing cycle with
  | last waited ended =>
      subst failed
      rw [← waited.managed] at running
      exact interrupted_last waited running ended
  | more waited went rest induction =>
      rw [← waited.managed] at running
      rcases advance_goes_on running went with ⟨-, -, following, tally, onward, -, -, answered⟩
      have same := Cycle.answered_desired answered
      have interrupted := induction failed onward
      rw [same] at interrupted
      exact interrupted.more waited running went

/-- A removal that fails has missed the broker. -/
theorem remove_fails {unwanted : List Binding}
    (failed : (site.remove unwanted).2 = .error fault) :
    (site.remove unwanted).1.broker = site.broker := by
  by_cases nothing : unwanted.isEmpty = true
  · rw [remove, if_pos nothing]
  · by_cases reached :
      site.broker.available = true ∧ site.broker.latency ≤ site.managed.timeout
    · rcases exchange_in_time reached.2 (Cycle.removing unwanted) with ⟨clock, exchanged⟩
      simp only [remove, if_neg nothing, exchanged, Broker.perform_removing reached.1] at failed
      cases failed
    · rcases exchange_fails reached (Cycle.removing unwanted) with ⟨clock, cause, exchanged⟩
      simp only [remove, if_neg nothing, exchanged]
      rfl

theorem remove_grant_fails {tenant : Tenant} {grant : Grant}
    (failed : (site.removeGrant tenant grant).2 = .error fault) :
    (site.removeGrant tenant grant).1.broker = site.broker := by
  rcases grant.expand_ok tenant with ⟨expansion, expanded⟩
  rw [remove_grant_eq expanded] at failed ⊢
  exact remove_fails failed

/-- A cycle that ends with a fault, wherever it was cut off and whatever others do to the broker
between its calls, has removed nothing and added only what is desired. If its call to create failed,
it has made none to remove. It is counted as a cycle and as an aborted one, and nothing is pending.
A removal beside the cycles that ends with a fault leaves the broker as it was. -/
theorem interrupted_cycle_spares (others : Broker → Broker → Prop) (query : ResourceQuery)
    (site after : Site) (calls : List Site) (fault : Fault)
    (cycled : Cycles others query site calls (.error fault) after) :
    (∀ found ∈ calls, ∃ desired,
      query.Desires site.managed.settings.name desired ∧ found.AddsOnly desired) ∧
    ((∃ found ∈ calls, found.CreationFails) →
      ∀ found ∈ calls, ∀ filters, found.nextCall ≠ some (.delete filters)) ∧
    Tally.value after.tally.cycles = Tally.value site.tally.cycles + 1 ∧
    Tally.value after.tally.aborted = Tally.value site.tally.aborted + 1 ∧
    after.tally.pendingDelete = some 0 ∧
    ((∀ before changed, others before changed → changed.bindings = before.bindings) →
      (∀ binding ∈ site.broker.bindings, binding ∈ after.broker.bindings) ∧
        ∀ binding ∈ after.broker.bindings, binding ∈ site.broker.bindings ∨
          ∃ desired, query.Desires site.managed.settings.name desired ∧ binding ∈ desired) ∧
    ∀ (removing : Site) (tenant : Tenant) (grant : Grant) (cause : Fault),
      (removing.removeGrant tenant grant).2 = .error cause →
        (removing.removeGrant tenant grant).1.broker = removing.broker := by
  have removals : ∀ (removing : Site) (tenant : Tenant) (grant : Grant) (cause : Fault),
      (removing.removeGrant tenant grant).2 = .error cause →
        (removing.removeGrant tenant grant).1.broker = removing.broker :=
    fun removing tenant grant cause failed => remove_grant_fails failed
  rcases cycled with ended | ⟨started, completes⟩
  · rcases site.trigger_cases query with
      ⟨reason, skipped⟩ | ⟨-, ⟨cause, failed⟩ | ⟨cycle, -, begun⟩⟩
    · rw [ended] at skipped
      cases skipped
    -- The stores did not answer, and no call was made.
    · rw [ended] at failed
      cases failed
      refine ⟨fun found none => ?_, fun _ found none => ?_, rfl, rfl, rfl, ?_, removals⟩
      · cases none
      · cases none
      · intro spared
        exact ⟨fun binding held => held, fun binding held => .inl held⟩
    · rw [ended] at begun
      cases begun
  · rcases site.trigger_cases query with
      ⟨reason, skipped⟩ | ⟨-, ⟨cause, failed⟩ | ⟨cycle, begun, same⟩⟩
    · rw [started] at skipped
      cases skipped
    · rw [started] at failed
      cases failed
    · rw [started] at same
      cases same
      have desired := Cycle.desires_of_begin begun
      have interrupted := completes.interrupted rfl rfl
      refine ⟨?_, interrupted.undeleted, ?_, ?_, interrupted.pending, ?_, removals⟩
      · intro found member
        exact ⟨cycle.desired, desired, interrupted.adds found member⟩
      · rw [interrupted.cycles]
        rfl
      · rw [interrupted.aborted]
        rfl
      · intro spared
        rcases interrupted.kept spared with ⟨kept, added⟩
        apply And.intro kept
        intro binding held
        apply (added binding held).imp_right
        intro wanted
        exact ⟨cycle.desired, desired, wanted⟩

/-- Others leave the bindings of the broker alone. -/
def SameBindings (before after : Broker) : Prop := after.bindings = before.bindings

/-- A shop with nothing on the broker but an old grant and one for others. -/
def idleShop : Site where
  managed := { settings := Upkeep.shopSettings, timeout := 10 }
  broker := Upkeep.shopBroker

/-- A broker that nobody reaches any more. -/
def cutOff (site : Site) : Site := { site with broker := { site.broker with available := false } }

theorem cut_off_meanwhile (site : Site) : site.Meanwhile SameBindings site.cutOff :=
  ⟨rfl, rfl, rfl, rfl⟩

/-- The broker goes away before the call that removes, or before the one that creates. -/
theorem interrupted_cycle_spares_shop :
    (∃ calls fault after,
      idleShop.Cycles SameBindings shopCatalog.query calls (.error fault) after ∧
      calls.length = 3 ∧ (∀ binding ∈ idleShop.broker.bindings, binding ∈ after.broker.bindings) ∧
      tillMay .read .literal "orders" ∈ after.broker.bindings ∧
      Tally.value after.tally.aborted = 1 ∧
      (after.removeGrant shopTenant readingGrant).1.broker = after.broker) ∧
    ∃ calls fault after,
      idleShop.Cycles SameBindings shopCatalog.query calls (.error fault) after ∧
      (∃ found ∈ calls, found.CreationFails) ∧
      ∀ found ∈ calls, ∀ filters, found.nextCall ≠ some (.delete filters) := by
  rcases show ∃ begun asked created after fault lost cause other,
      idleShop.trigger shopCatalog.query = (begun, none) ∧ begun.advance = (asked, none) ∧
        asked.advance = (created, none) ∧ created.cutOff.advance = (after, some (.error fault)) ∧
        tillMay .read .literal "orders" ∈ after.broker.bindings ∧
        (after.removeGrant shopTenant readingGrant).2 = .error other ∧
        asked.cutOff.advance = (lost, some (.error cause)) ∧ asked.cutOff.CreationFails from
      ⟨_, _, _, _, _, _, _, _, rfl, rfl, rfl, rfl, by decide, rfl, rfl, _, _, rfl, rfl⟩ with
    ⟨begun, asked, created, after, fault, lost, cause, other, triggered, described, extended,
      missed, reads, unremoved, uncreated, fails⟩
  constructor
  · have cycled : idleShop.Cycles SameBindings shopCatalog.query [begun, asked, created.cutOff]
        (.error fault) after :=
      .underWay triggered (.more (.same rfl) described
        (.more (.same rfl) extended (.last (cut_off_meanwhile created) missed)))
    rcases interrupted_cycle_spares SameBindings _ _ _ _ _ cycled with
      ⟨-, -, -, aborted, -, kept, removals⟩
    exact ⟨_, fault, after, cycled, rfl, (kept fun _ _ same => same).1, reads, aborted,
      removals after shopTenant readingGrant other unremoved⟩
  · have cycled : idleShop.Cycles SameBindings shopCatalog.query [begun, asked.cutOff]
        (.error cause) lost :=
      .underWay triggered (.more (.same rfl) described
        (.last (cut_off_meanwhile asked) uncreated))
    have failing : ∃ found ∈ [begun, asked.cutOff], found.CreationFails :=
      ⟨asked.cutOff, by simp, fails⟩
    exact ⟨_, cause, lost, cycled, failing,
      (interrupted_cycle_spares SameBindings _ _ _ _ _ cycled).2.1 failing⟩

end Site

end BrokerTenancy
