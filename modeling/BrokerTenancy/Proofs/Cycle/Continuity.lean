import BrokerTenancy.Proofs.Cycle.Synchronization

/-!
Access that a cycle does not interrupt. A call works through its items one by one, and the bindings
on the broker are looked at after each of them. What was permitted when the cycle began, and is
permitted by a desired binding that the broker holds or accepts, is permitted all the time, because
creating comes before removing. When the broker refuses the wider grant, the narrower one that it
was to replace is removed all the same.
-/

namespace BrokerTenancy

/-- An operation of a principal on a resource. -/
structure Access where
  resourceType : ResourceType
  resourceName : String
  principal : String
  operation : Operation

/-- The pattern of the binding has the resource of this name. -/
def Binding.Covers (binding : Binding) (resourceName : String) : Prop :=
  match binding.patternType with
  | .literal => binding.resourceName = resourceName
  | .prefixed => binding.resourceName.toList <+: resourceName.toList

structure Binding.Permits (binding : Binding) (access : Access) : Prop where
  effect : binding.effect = .allow
  host : binding.host = "*"
  resourceType : binding.resourceType = access.resourceType
  covers : binding.Covers access.resourceName
  principal : binding.principal = access.principal
  operation : binding.operation = access.operation

def Access.PermittedBy (access : Access) (held : Set Binding) : Prop :=
  ∃ binding ∈ held, binding.Permits access

theorem Access.PermittedBy.mono {access : Access} {fewer more : Set Binding}
    (permitted : access.PermittedBy fewer) (within : fewer ⊆ more) : access.PermittedBy more := by
  obtain ⟨binding, held, permits⟩ := permitted
  exact ⟨binding, within held, permits⟩

/-- What is true at first, and after each item when it was so before, is true at every stage. -/
theorem scanl_all {State Item : Type} {step : State → Item → State} {items : List Item}
    {start : State} (holds : State → Prop) (first : holds start)
    (each : ∀ item ∈ items, ∀ state, holds state → holds (step state item)) :
    ∀ state ∈ items.scanl step start, holds state := by
  induction items generalizing start with
  | nil =>
      intro state member
      rw [List.scanl_nil, List.mem_singleton] at member
      rw [member]
      exact first
  | cons head rest induction =>
      intro state member
      rw [List.scanl_cons, List.mem_cons] at member
      rcases member with rfl | later
      · exact first
      · apply induction (each head List.mem_cons_self start first)
        · intro item within
          exact each item (List.mem_cons_of_mem _ within)
        · exact later

namespace Broker

def createOne (broker : Broker) (bindings : BindingSet) (binding : Binding) : BindingSet :=
  if !broker.refused.contains binding then bindings.insert binding else bindings

def deleteOne (broker : Broker) (bindings : BindingSet) (filter : BindingFilter) : BindingSet :=
  (deleteMatching broker.refused bindings filter).1

/-- The bindings on the broker when a call comes, and after each item of the call. -/
def stages (broker : Broker) (call : AdminCall) : List BindingSet :=
  if !broker.available then [broker.bindings]
  else match call with
    | .describe _ => [broker.bindings]
    | .create bindings => bindings.scanl broker.createOne broker.bindings
    | .delete filters => filters.scanl broker.deleteOne broker.bindings

theorem delete_all_eq (broker : Broker) (bindings : BindingSet) (filters : List BindingFilter) :
    (deleteAll broker.refused bindings filters).1 = filters.foldl broker.deleteOne bindings := by
  induction filters generalizing bindings with
  | nil => rfl
  | cons filter rest induction =>
      rw [List.foldl_cons, ← induction]
      rfl

/-- The last stage of a call is what it leaves. -/
theorem stages_last (broker : Broker) (call : AdminCall) :
    (broker.stages call).getLast? = some (broker.perform call).1.bindings := by
  unfold stages perform
  by_cases available : broker.available = true
  · rw [available, Bool.not_true, if_neg Bool.false_ne_true, if_neg Bool.false_ne_true]
    cases call with
    | describe filter => rfl
    | create bindings =>
        simp only [List.getLast?_scanl, createAll, SortedSet.insertAll, List.foldl_filter]
        rfl
    | delete filters =>
        simp only [List.getLast?_scanl]
        rw [← delete_all_eq]
        rfl
  · have gone : broker.available = false := Bool.not_eq_true _ ▸ available
    rw [gone]
    rfl

variable {broker : Broker}

theorem stages_describe (filter : BindingFilter) :
    broker.stages (.describe filter) = [broker.bindings] := by
  unfold stages
  split <;> rfl

theorem stages_first (broker : Broker) (call : AdminCall) :
    broker.bindings ∈ broker.stages call := by
  unfold stages
  split
  · exact List.mem_singleton_self _
  · cases call with
    | describe filter => exact List.mem_singleton_self _
    | create bindings => cases bindings <;> simp
    | delete filters => cases filters <;> simp

theorem held_in_stages_of_create {wanted : List Binding} {binding : Binding}
    (held : binding ∈ broker.bindings) :
    ∀ stage ∈ broker.stages (.create wanted), binding ∈ stage := by
  unfold stages
  split
  · intro stage member
    rw [List.mem_singleton.mp member]
    exact held
  · apply scanl_all (binding ∈ ·) held
    intro item _ state before
    unfold createOne
    split
    · exact (SortedSet.mem_insert state item binding).mpr (.inr before)
    · exact before

theorem held_in_stages_of_removing {unwanted : List Binding} {binding : Binding}
    (held : binding ∈ broker.bindings)
    (spared : binding ∉ unwanted ∨ binding ∈ broker.refused) :
    ∀ stage ∈ broker.stages (Cycle.removing unwanted), binding ∈ stage := by
  unfold stages Cycle.removing
  split
  · intro stage member
    rw [List.mem_singleton.mp member]
    exact held
  · apply scanl_all (binding ∈ ·) held
    intro filter member state before
    obtain ⟨wanted, among, rfl⟩ := List.mem_map.mp member
    unfold deleteOne
    rw [delete_matching_exactly]
    split
    · exact before
    · next passes =>
      rw [SortedSet.mem_erase]
      refine ⟨before, ?_⟩
      rintro rfl
      rcases spared with other | blocked
      · exact other among
      · exact passes ⟨before, blocked⟩

end Broker

namespace Site

/-- The bindings on the broker while the cycle under way makes its next call. -/
def stages (site : Site) : List BindingSet :=
  match site.managed.cycle with
  | none => [site.broker.bindings]
  | some cycle =>
      if site.managed.timeout < site.broker.latency then [site.broker.bindings]
      else site.broker.stages cycle.call

theorem stages_last (site : Site) :
    site.stages.getLast? = some site.advance.1.broker.bindings := by
  unfold stages advance
  cases site.managed.cycle with
  | none => rfl
  | some cycle =>
      simp only [exchange, Broker.performWithin]
      split
      · rfl
      · exact site.broker.stages_last cycle.call

theorem mem_stages {site : Site} {cycle : Cycle} (running : site.managed.cycle = some cycle)
    {held : BindingSet} (member : held ∈ site.stages) :
    held ∈ site.broker.stages cycle.call := by
  unfold stages at member
  rw [running] at member
  simp only at member
  split at member
  · rw [List.mem_singleton.mp member]
    exact site.broker.stages_first cycle.call
  · exact member

/-- The broker has these bindings at some time from now to the end of the cycle under way. -/
inductive Passes : Site → BindingSet → Prop where
  | now {site : Site} {held : BindingSet} : held ∈ site.stages → Passes site held
  | later {site next : Site} {held : BindingSet} :
      site.advance = (next, none) → Passes next held → Passes site held

/-- What a call leaves is passed. -/
theorem passes_end (site : Site) : site.Passes site.advance.1.broker.bindings :=
  .now (List.mem_of_getLast? site.stages_last)

end Site

namespace Undertaking

variable {undertaking : Undertaking}

/-- A cycle waits for an answer at a site, whether or not its broker can be reached. -/
structure Pending (undertaking : Undertaking) (site : Site) (cycle : Cycle) : Prop where
  settings : site.managed.settings = undertaking.settings
  running : site.managed.cycle = some cycle
  refused : site.broker.refused = undertaking.start.refused
  stage : undertaking.Stage site.broker cycle

theorem Pending.advance {site next : Site} {cycle : Cycle}
    (pending : undertaking.Pending site cycle) (step : site.advance = (next, none)) :
    ∃ later, undertaking.Pending next later := by
  have reached : site.broker.available = true ∧ site.broker.latency ≤ site.managed.timeout := by
    by_contra missed
    obtain ⟨after, fault, ended, -⟩ := Site.advance_missed pending.running missed
    rw [step] at ended
    cases ended
  have underway : undertaking.Underway site cycle := {
    settings := pending.settings
    running := pending.running
    available := reached.1
    inTime := reached.2
    refused := pending.refused
    stage := pending.stage }
  obtain ⟨reachedNext, later, same, onward, -⟩ | ⟨after, ended, -⟩ :=
    Site.advance_underway underway
  · rw [step] at same
    cases same
    exact ⟨later, onward.settings, onward.running, onward.refused, onward.stage⟩
  · rw [step] at ended
    cases ended

/-- At every stage the broker has all the bindings of the beginning, or it removes and has all that
it got so far except for what the plan removes. -/
theorem Pending.stage_cases {site : Site} {cycle : Cycle}
    (pending : undertaking.Pending site cycle) {held : BindingSet} (member : held ∈ site.stages) :
    undertaking.start.bindings.members ⊆ held.members ∨
      undertaking.settings.dropUnsynced = true ∧
        ∀ binding ∈ undertaking.enlarged,
          binding ∉ undertaking.plan.toDelete ∨ binding ∈ undertaking.start.refused →
            binding ∈ held := by
  have stage := pending.stage
  have among := Site.mem_stages pending.running member
  cases cycle with
  | describing tenants desired =>
      left
      obtain ⟨-, -, untouched⟩ := stage
      rw [Cycle.call, Broker.stages_describe, List.mem_singleton] at among
      rw [among, untouched]
  | creating plan =>
      left
      obtain ⟨-, untouched⟩ := stage
      rw [← untouched]
      intro binding before
      exact Broker.held_in_stages_of_create before held among
  | deleting plan creations =>
      right
      obtain ⟨rfl, -, drops, enlarged⟩ := stage
      refine ⟨drops, ?_⟩
      intro binding present spared
      rw [← enlarged] at present
      rw [← pending.refused] at spared
      exact Broker.held_in_stages_of_removing present spared held among

/-- The bindings that stay or come: the desired ones that the broker has when the cycle begins or
does not refuse, and those that it has and the cycle does not remove. -/
def lasting (undertaking : Undertaking) : Set Binding :=
  {binding |
    binding ∈ undertaking.desired ∧
        (binding ∈ undertaking.start.bindings ∨ binding ∉ undertaking.start.refused) ∨
      binding ∈ undertaking.start.bindings ∧
        (undertaking.settings.dropUnsynced = true →
          binding ∉ undertaking.plan.toDelete ∨ binding ∈ undertaking.start.refused)}

theorem Pending.stage_permits {site : Site} {cycle : Cycle} {access : Access}
    (pending : undertaking.Pending site cycle)
    (atStart : access.PermittedBy undertaking.start.bindings.members)
    (lasts : access.PermittedBy undertaking.lasting) {held : BindingSet}
    (member : held ∈ site.stages) : access.PermittedBy held.members := by
  rcases pending.stage_cases member with before | ⟨drops, kept⟩
  · exact atStart.mono before
  -- Now all that was accepted is there, and nothing that lasts is removed.
  · apply lasts.mono
    rintro binding (⟨asked, obtained⟩ | ⟨present, spared⟩)
    · apply kept binding
      · rw [enlarged_eq]
        rcases obtained with present | accepted
        · exact .inl present
        · exact .inr ⟨asked, accepted⟩
      · exact .inl (not_mem_to_delete asked)
    · exact kept binding (.inl present) (spared drops)

end Undertaking

namespace Site

/-- An access that is permitted when a cycle begins is permitted after every single creation and
removal of the cycle, if a desired binding permits it that the broker has or does not refuse, or a
binding that the cycle does not remove. -/
theorem cycle_keeps_access (site : Site) (tenants : List Tenant) (desired : BindingSet)
    (access : Access) (begun : site.managed.cycle = some (.describing tenants desired))
    (atStart : access.PermittedBy site.broker.bindings.members)
    (lasts : access.PermittedBy
      (Undertaking.lasting ⟨site.managed.settings, tenants, desired, site.broker⟩))
    (held : BindingSet) (passes : site.Passes held) : access.PermittedBy held.members := by
  have pending : Undertaking.Pending ⟨site.managed.settings, tenants, desired, site.broker⟩ site
      (.describing tenants desired) := ⟨rfl, begun, rfl, rfl, rfl, rfl⟩
  generalize told : Undertaking.mk site.managed.settings tenants desired site.broker = undertaking
    at lasts pending
  replace atStart : access.PermittedBy undertaking.start.bindings.members := told ▸ atStart
  clear told begun
  generalize Cycle.describing tenants desired = cycle at pending
  induction passes generalizing cycle with
  | now member => exact pending.stage_permits atStart lasts member
  | later step _ induction =>
      obtain ⟨later, onward⟩ := pending.advance step
      exact induction later onward

/-- A shop that may read all topics whose names start with the same letters. -/
def widerShop : Catalog :=
  { shopCatalog with
    accessControlEntries := serving [{
      metadata := { name := "reading", namespaceName := "shop", cluster := "east" }
      resourceType := .topic
      resource := "ord"
      patternType := .prefixed
      permission := .read
      grantedTo := "shop" }]
    streams := serving [] }

/-- A cycle that is to replace a literal grant by a prefixed one, at a broker that refuses some
bindings. -/
def replacing (refused : List Binding) : Site :=
  let site : Site := {
    managed := { settings := { name := "east", manageAcls := true }, timeout := 10 }
    broker := {
      cluster := "east"
      bindings := .ofList [tillMay .read .literal "orders"]
      refused } }
  (site.trigger widerShop.query).1

def readOrders : Access where
  resourceType := .topic
  resourceName := "orders"
  principal := "User:till"
  operation := .read

theorem replacing_begun (refused : List Binding) :
    (replacing refused).managed.cycle = some (.describing
      [{ metadata := { name := "shop", cluster := "east" }, kafkaUser := "till" }]
      (.ofList [tillMay .read .prefixed "ord"])) := rfl

theorem literal_permits (refused : List Binding) :
    readOrders.PermittedBy (replacing refused).broker.bindings.members :=
  ⟨tillMay .read .literal "orders", List.mem_singleton_self _, rfl, rfl, rfl, rfl, rfl, rfl⟩

theorem prefixed_permits : (tillMay .read .prefixed "ord").Permits readOrders := by
  refine ⟨rfl, rfl, rfl, ?_, rfl, rfl⟩
  change "ord".toList <+: "orders".toList
  decide

/-- What the broker holds after the three calls of the cycle. -/
theorem passes_removed {site first second : Site} (describes : site.advance = (first, none))
    (creates : first.advance = (second, none)) :
    site.Passes second.advance.1.broker.bindings :=
  .later describes (.later creates second.passes_end)

theorem cycle_keeps_access_replaced :
    let site := replacing []
    (∃ held, site.Passes held ∧ tillMay .read .literal "orders" ∉ held) ∧
      ∀ held, site.Passes held → readOrders.PermittedBy held.members := by
  intro site
  refine ⟨⟨_, passes_removed rfl rfl, by decide⟩, ?_⟩
  apply cycle_keeps_access site _ _ readOrders (replacing_begun []) (literal_permits [])
  refine ⟨tillMay .read .prefixed "ord", .inl ⟨List.mem_singleton_self _, .inr ?_⟩,
    prefixed_permits⟩
  exact List.not_mem_nil

/-- The narrower grant goes although the broker refused the wider one. -/
theorem refused_replacement_loses_access :
    let site := replacing [tillMay .read .prefixed "ord"]
    (∃ tenants desired, site.managed.cycle = some (.describing tenants desired) ∧
        readOrders.PermittedBy desired.members) ∧
      readOrders.PermittedBy site.broker.bindings.members ∧
      ∃ held, site.Passes held ∧ ¬readOrders.PermittedBy held.members := by
  intro site
  refine ⟨⟨_, _, replacing_begun _, ?_⟩, literal_permits _, _, passes_removed rfl rfl, ?_⟩
  · exact ⟨tillMay .read .prefixed "ord", List.mem_singleton_self _, prefixed_permits⟩
  · rintro ⟨binding, held, -⟩
    revert held
    exact List.not_mem_nil

end Site

end BrokerTenancy
