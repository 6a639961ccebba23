import BrokerTenancy.Proofs.Cycle.Accounting

/-!
Triggers of one cluster that come at any time, on demand or by the schedule, while the calls of
earlier cycles may still wait for their answers. Every trigger keeps its own cycle; what they share
is the managed cluster, in which a cycle under way has its place. A cycle leaves that place in
whatever way it ends, so at most one is under way, the calls of two cycles never mix, and a trigger
is skipped exactly when a cycle of another one is under way. What follows a trigger or an answer
happens at once, up to the next call, while the calls themselves take as long as they like.
-/

namespace BrokerTenancy

/-- What the broker has for a call of either kind. A call that fails or takes too long has a
fault. -/
structure Response where
  described : Outcome (List Binding)
  created : Outcome (List Creation)
  deleted : Outcome (List Deletion)

def Response.to (response : Response) : AdminCall → AdminAnswer
  | .describe _ => .described response.described
  | .create _ => .created response.created
  | .delete _ => .deleted response.deleted

/-- What passes between a cycle and the broker. -/
inductive CallEvent where
  | asked (call : AdminCall)
  | told (answer : AdminAnswer)

/-- The calls are in the order of the triggers, and none is of a later trigger than this one. -/
structure CallsThrough (number : Nat) (calls : List (Nat × CallEvent)) : Prop where
  ordered : calls.Pairwise fun earlier later => earlier.1 ≤ later.1
  last : ∀ call ∈ calls, call.1 ≤ number

theorem CallsThrough.append {number : Nat} {calls more : List (Nat × CallEvent)}
    (through : CallsThrough number calls) (own : ∀ call ∈ more, call.1 = number) :
    CallsThrough number (calls ++ more) where
  ordered := by
    refine List.pairwise_append.mpr ⟨through.ordered, ?_, ?_⟩
    · apply List.pairwise_of_forall_mem_list
      intro earlier before later behind
      rw [own earlier before, own later behind]
    · intro earlier before later behind
      rw [own later behind]
      exact through.last earlier before
  last := by
    intro call member
    obtain before | behind := List.mem_append.mp member
    · exact through.last call before
    · exact (own call behind).le

/-- What has come of a trigger so far: its own cycle, while that is under way, or its result. -/
structure Activation where
  cycle : Option Cycle := none
  result : Option (Outcome Report) := none

namespace Activation

/-- The activation that the cluster was left by, with or without a result. -/
def following (managed : ManagedCluster) (result : Option (Outcome Report)) : Activation where
  cycle := if result.isNone then managed.cycle else none
  result

/-- The cycle of the trigger is under way, or has ended with an error or a report on itself. -/
def Lives (activation : Activation) : Prop :=
  (∃ cycle, activation = { cycle := some cycle }) ∨
    ∃ result, activation = { result := some result } ∧ skips result = false

/-- What has ended stays as it is. -/
def Becomes (before after : Activation) : Prop :=
  after = before ∨ (∃ cycle, before.cycle = some cycle) ∧ after.Lives

theorem Becomes.trans {first second third : Activation} (before : first.Becomes second)
    (behind : second.Becomes third) : first.Becomes third := by
  obtain rfl | ⟨underway, lives⟩ := before
  · exact behind
  obtain rfl | ⟨-, livesOn⟩ := behind
  · exact .inr ⟨underway, lives⟩
  · exact .inr ⟨underway, livesOn⟩

theorem Becomes.ended {before after : Activation} (becomes : before.Becomes after)
    (ended : before.cycle = none) : after = before := by
  obtain same | ⟨⟨cycle, underway⟩, -⟩ := becomes
  · exact same
  · cases ended.symm.trans underway

theorem Becomes.lives {before after : Activation} (becomes : before.Becomes after)
    (lives : before.Lives) : after.Lives := by
  obtain rfl | ⟨-, livesOn⟩ := becomes
  · exact lives
  · exact livesOn

end Activation

/-- All triggers of a cluster, in the order in which they came, and what they share. -/
structure Triggers where
  managed : ManagedCluster
  tally : Tally := {}
  activations : List Activation := []
  /-- What has passed between cycles and the broker, by the number of the trigger. -/
  calls : List (Nat × CallEvent) := []

inductive TriggersEvent where
  /-- A trigger comes and finds these resources. -/
  | trigger (query : ResourceQuery)
  /-- The call that the cycle of a trigger waits for comes to an end. -/
  | answer (number : Nat) (response : Response)

/-- The call that ends is one of this trigger's. -/
def TriggersEvent.answers (number : Nat) : TriggersEvent → Bool
  | .trigger _ => false
  | .answer other _ => other == number

namespace Triggers

def idle (settings : ClusterSettings) (timeout : Nat) : Triggers :=
  { managed := { settings, timeout } }

def cycleOf (triggers : Triggers) (number : Nat) : Option Cycle :=
  triggers.activations[number]?.bind Activation.cycle

def resultOf (triggers : Triggers) (number : Nat) : Option (Outcome Report) :=
  triggers.activations[number]?.bind Activation.result

def Active (triggers : Triggers) (number : Nat) : Prop :=
  ∃ cycle, triggers.cycleOf number = some cycle

/-- A new trigger, of which nothing has come yet. -/
def enroll (triggers : Triggers) : Triggers :=
  { triggers with activations := triggers.activations ++ [{}] }

/-- The trigger goes on with a call, or has its result. -/
def settle (triggers : Triggers) (number : Nat)
    (outcome : ManagedCluster × Tally × Option (Outcome Report)) : Triggers :=
  let (managed, tally, result) := outcome
  let activation := Activation.following managed result
  { managed, tally
    activations := triggers.activations.set number activation
    calls := triggers.calls ++
      activation.cycle.toList.map fun cycle => (number, .asked cycle.call) }

def heard (triggers : Triggers) (number : Nat) (answer : AdminAnswer) : Triggers :=
  { triggers with calls := triggers.calls ++ [(number, .told answer)] }

def step (triggers : Triggers) : TriggersEvent → Triggers
  | .trigger query =>
      triggers.enroll.settle triggers.activations.length
        (triggers.managed.trigger query triggers.tally)
  | .answer number response =>
      match triggers.cycleOf number with
      | none => triggers
      | some cycle =>
          let answer := response.to cycle.call
          (triggers.heard number answer).settle number
            (triggers.managed.take
              (cycle.answered triggers.managed.settings triggers.tally answer))

def run (triggers : Triggers) (events : List TriggersEvent) : Triggers := events.foldl step triggers

end Triggers

/-- The turn goes on, or ends with an error or a report on the cycle itself. -/
def Turn.Concludes (turn : Turn) : Prop :=
  ∀ result, turn.result = some result → skips result = false

namespace Cycle

theorem after_creating_concludes (settings : ClusterSettings) (plan : Plan) (creations : Batch)
    (tally : Tally) : (afterCreating settings plan creations tally).1.Concludes := by
  intro result ended
  unfold afterCreating at ended
  split at ended
  · split at ended <;> cases ended
    rfl
  · cases ended
    rfl

theorem with_plan_concludes (settings : ClusterSettings) (plan : Plan) (tally : Tally) :
    (withPlan settings plan tally).1.Concludes := by
  unfold withPlan
  split
  · exact after_creating_concludes settings plan {} tally
  · intro result ended
    cases ended

theorem abort_concludes (fault : Fault) (tally : Tally) : (abort fault tally).1.Concludes := by
  intro result ended
  cases ended
  rfl

theorem answered_concludes (settings : ClusterSettings) (tally : Tally) (cycle : Cycle)
    (answer : AdminAnswer) : (cycle.answered settings tally answer).1.Concludes := by
  unfold answered
  split
  · exact with_plan_concludes _ _ _
  · exact after_creating_concludes _ _ _ _
  · intro result ended
    cases ended
    rfl
  · exact abort_concludes _ _
  · exact abort_concludes _ _
  · exact abort_concludes _ _
  · intro result ended
    cases ended

theorem calls_left_le (cycle : Cycle) : cycle.callsLeft ≤ 3 := by
  cases cycle <;> simp only [callsLeft] <;> omega

section CallsLeft

variable {settings : ClusterSettings} {plan : Plan} {tally : Tally} {next : Cycle}

theorem after_creating_calls_left {creations : Batch}
    (goesOn : (afterCreating settings plan creations tally).1 = .continues next) :
    next.callsLeft < 2 := by
  unfold afterCreating at goesOn
  split at goesOn
  · split at goesOn <;> cases goesOn
    exact Nat.one_lt_two
  · cases goesOn

theorem with_plan_calls_left (goesOn : (withPlan settings plan tally).1 = .continues next) :
    next.callsLeft < 3 := by
  unfold withPlan at goesOn
  split at goesOn
  · exact (after_creating_calls_left goesOn).trans (Nat.lt_succ_self 2)
  · cases goesOn
    exact Nat.lt_succ_self 2

/-- The answer to its call leaves a cycle fewer of them to make. -/
theorem answered_calls_left {cycle : Cycle} {response : Response}
    (goesOn : (cycle.answered settings tally (response.to cycle.call)).1 = .continues next) :
    next.callsLeft < cycle.callsLeft := by
  cases cycle with
  | describing tenants desired =>
      obtain ⟨fault | found, created, deleted⟩ := response
      · cases goesOn
      · exact with_plan_calls_left goesOn
  | creating plan =>
      obtain ⟨described, fault | creations, deleted⟩ := response
      · cases goesOn
      · exact after_creating_calls_left goesOn
  | deleting plan creations =>
      obtain ⟨described, created, fault | deletions⟩ := response <;> cases goesOn

end CallsLeft

end Cycle

/-- A trigger that finds the place free takes a turn. -/
theorem ManagedCluster.trigger_takes {managed : ManagedCluster} (query : ResourceQuery)
    (tally : Tally) (manages : managed.settings.manageAcls = true)
    (idle : managed.cycle = none) :
    ∃ turned, managed.trigger query tally = managed.take turned ∧ turned.1.Concludes := by
  obtain ⟨fault, failed⟩ | ⟨cycle, -, began⟩ := trigger_idle query tally manages idle
  · exact ⟨_, failed, Cycle.abort_concludes fault _⟩
  · exact ⟨_, began, fun result ended => by cases ended⟩

namespace Activation

/-- Whatever its turn, the cycle of a trigger lives on or has ended by itself. -/
theorem following_lives (managed : ManagedCluster) {turned : Turn × Tally}
    (concludes : turned.1.Concludes) :
    (following (managed.take turned).1 (managed.take turned).2.2).Lives := by
  obtain ⟨cycle | result, tally⟩ := turned
  · exact .inl ⟨cycle, rfl⟩
  · exact .inr ⟨result, rfl, concludes result rfl⟩

end Activation

namespace Triggers

variable {triggers : Triggers} {number : Nat}
  {outcome : ManagedCluster × Tally × Option (Outcome Report)}

theorem settle_activation (known : number < triggers.activations.length) :
    (triggers.settle number outcome).activations[number]? =
      some (.following outcome.1 outcome.2.2) :=
  List.getElem?_set_self known

theorem settle_other {other : Nat} (another : number ≠ other) :
    (triggers.settle number outcome).activations[other]? = triggers.activations[other]? :=
  List.getElem?_set_ne another

theorem enroll_before (known : number < triggers.activations.length) :
    triggers.enroll.activations[number]? = triggers.activations[number]? :=
  List.getElem?_append_left known

theorem enroll_known (triggers : Triggers) :
    triggers.activations.length < triggers.enroll.activations.length := by
  rw [enroll, List.length_append]
  exact Nat.lt_succ_self _

/-- An activation that lacks something makes no difference to which ones have it. -/
theorem field_of_append {Value : Type} {field : Activation → Option Value}
    {activation : Activation} (lacks : field activation = none) (number : Nat) :
    (triggers.activations ++ [activation])[number]?.bind field =
      triggers.activations[number]?.bind field := by
  rw [List.getElem?_append]
  split
  · rfl
  · next beyond =>
    rw [List.getElem?_eq_none (Nat.not_lt.mp beyond), List.getElem?_singleton]
    split
    · exact lacks
    · rfl

theorem known_of_cycle {cycle : Cycle} (underway : triggers.cycleOf number = some cycle) :
    ∃ activation, triggers.activations[number]? = some activation ∧
      activation.cycle = some cycle ∧ number < triggers.activations.length := by
  obtain ⟨activation, found, same⟩ := Option.bind_eq_some_iff.mp underway
  exact ⟨activation, found, same, (List.getElem?_eq_some_iff.mp found).1⟩

/-- A trigger that comes while a cycle is under way is skipped, and nothing else changes. -/
theorem step_busy {cycle : Cycle} (query : ResourceQuery)
    (manages : triggers.managed.settings.manageAcls = true)
    (running : triggers.managed.cycle = some cycle) :
    triggers.step (.trigger query) =
      { triggers with
        activations := triggers.activations ++
          [{ result := some (.ok (triggers.managed.skip .cycleInProgress)) }] } := by
  have behind (blank activation : Activation) : (triggers.activations ++ [blank]).set
      triggers.activations.length activation = triggers.activations ++ [activation] := by
    rw [List.set_append_right _ _ (Nat.le_refl _), Nat.sub_self]
    rfl
  simp only [step, settle, enroll, ManagedCluster.trigger_busy query triggers.tally manages running,
    behind, Activation.following, Option.isNone_some, Bool.false_eq_true, if_false,
    Option.toList_none, List.map_nil, List.append_nil]

section History

theorem step_unanswered {event : TriggersEvent} (known : number < triggers.activations.length)
    (unanswered : event.answers number = false) :
    (triggers.step event).activations[number]? = triggers.activations[number]? := by
  cases event with
  | trigger query => rw [step, settle_other (Nat.ne_of_gt known), enroll_before known]
  | answer other response =>
      rw [step]
      cases triggers.cycleOf other with
      | none => rfl
      | some cycle => exact settle_other (ne_of_beq_false unanswered)

theorem step_answered {cycle : Cycle} (underway : triggers.cycleOf number = some cycle)
    (response : Response) :
    triggers.step (.answer number response) =
      (triggers.heard number (response.to cycle.call)).settle number
        (triggers.managed.take (cycle.answered triggers.managed.settings triggers.tally
          (response.to cycle.call))) := by
  rw [step, underway]

theorem of_answers {event : TriggersEvent} (answers : event.answers number = true) :
    ∃ response, event = .answer number response := by
  cases event with
  | trigger query => cases answers
  | answer other response => exact ⟨response, by rw [eq_of_beq answers]⟩

/-- What has come of a trigger changes only while its cycle is under way. -/
theorem step_becomes (event : TriggersEvent) {activation : Activation}
    (found : triggers.activations[number]? = some activation) :
    ∃ later, (triggers.step event).activations[number]? = some later ∧
      activation.Becomes later := by
  have known : number < triggers.activations.length := (List.getElem?_eq_some_iff.mp found).1
  cases answered : event.answers number with
  | false => exact ⟨activation, (step_unanswered known answered).trans found, .inl rfl⟩
  | true =>
      obtain ⟨response, rfl⟩ := of_answers answered
      cases own : triggers.cycleOf number with
      | none => exact ⟨activation, by rw [step, own, found], .inl rfl⟩
      | some cycle =>
          obtain ⟨_, again, underway, -⟩ := known_of_cycle own
          cases found.symm.trans again
          rw [step_answered own response]
          refine ⟨_, settle_activation known, .inr ⟨⟨cycle, underway⟩, ?_⟩⟩
          exact Activation.following_lives _ (Cycle.answered_concludes _ _ _ _)

theorem run_becomes (events : List TriggersEvent) {activation : Activation}
    (found : triggers.activations[number]? = some activation) :
    ∃ later, (triggers.run events).activations[number]? = some later ∧
      activation.Becomes later := by
  induction events generalizing triggers activation with
  | nil => exact ⟨activation, found, .inl rfl⟩
  | cons event rest induction =>
      obtain ⟨next, stepped, becomes⟩ := step_becomes event found
      obtain ⟨later, reached, onward⟩ := induction stepped
      exact ⟨later, reached, becomes.trans onward⟩

end History

/-- No cycle is under way while its place is free. While it is taken, the cycle is that of one
trigger, and nothing has passed between later ones and the broker. -/
structure Exclusive (triggers : Triggers) : Prop where
  manages : triggers.managed.settings.manageAcls = true
  known : ∀ call ∈ triggers.calls, call.1 < triggers.activations.length
  ordered : triggers.calls.Pairwise fun earlier later => earlier.1 ≤ later.1
  free : triggers.managed.cycle = none → ∀ number, triggers.cycleOf number = none
  taken : ∀ cycle, triggers.managed.cycle = some cycle →
    ∃ holder, triggers.cycleOf holder = some cycle ∧
      (∀ number, number ≠ holder → triggers.cycleOf number = none) ∧
      ∀ call ∈ triggers.calls, call.1 ≤ holder

theorem exclusive_idle {settings : ClusterSettings} (timeout : Nat)
    (manages : settings.manageAcls = true) : (idle settings timeout).Exclusive where
  manages
  known := by simp [idle]
  ordered := .nil
  free := fun _ _ => rfl
  taken := by simp [idle]

theorem Exclusive.taken_by (exclusive : triggers.Exclusive) {cycle : Cycle}
    (underway : triggers.cycleOf number = some cycle) :
    triggers.managed.cycle = some cycle ∧
      (∀ other, other ≠ number → triggers.cycleOf other = none) ∧
      ∀ call ∈ triggers.calls, call.1 ≤ number := by
  cases running : triggers.managed.cycle with
  | none => cases (exclusive.free running number).symm.trans underway
  | some current =>
      obtain ⟨holder, held, others, last⟩ := exclusive.taken current running
      have same : number = holder := by
        by_contra another
        cases (others number another).symm.trans underway
      subst same
      exact ⟨held.symm.trans underway, others, last⟩

theorem Exclusive.alone (exclusive : triggers.Exclusive) {first second : Nat}
    (one : triggers.Active first) (other : triggers.Active second) : first = second := by
  obtain ⟨cycle, underway⟩ := one
  obtain ⟨next, alongside⟩ := other
  by_contra another
  obtain ⟨-, others, -⟩ := exclusive.taken_by alongside
  cases (others first another).symm.trans underway

theorem Exclusive.busy_iff (exclusive : triggers.Exclusive) :
    (∃ number, triggers.Active number) ↔ ∃ cycle, triggers.managed.cycle = some cycle := by
  constructor
  · rintro ⟨number, cycle, underway⟩
    exact ⟨cycle, (exclusive.taken_by underway).1⟩
  · rintro ⟨cycle, running⟩
    obtain ⟨holder, held, -⟩ := exclusive.taken cycle running
    exact ⟨holder, cycle, held⟩

/-- After a turn, the cycle of the trigger is the one that has the place. -/
theorem cycle_of_settle {turned : Turn × Tally} (known : number < triggers.activations.length) :
    (triggers.settle number (triggers.managed.take turned)).cycleOf number =
      (triggers.settle number (triggers.managed.take turned)).managed.cycle := by
  rw [cycleOf, settle_activation known]
  obtain ⟨cycle | result, tally⟩ := turned <;> rfl

theorem cycle_of_settle_other {other : Nat} (another : number ≠ other) :
    (triggers.settle number outcome).cycleOf other = triggers.cycleOf other := by
  rw [cycleOf, settle_other another, cycleOf]

theorem settle_ended {turned : Turn × Tally} {result : Outcome Report}
    (known : number < triggers.activations.length)
    (ended : (triggers.settle number (triggers.managed.take turned)).resultOf number =
      some result) :
    (triggers.settle number (triggers.managed.take turned)).managed.cycle = none := by
  rw [resultOf, settle_activation known] at ended
  obtain ⟨next | result, tally⟩ := turned
  · cases ended
  · rfl

/-- A turn of the last trigger that has made calls, when no other cycle is under way. -/
theorem Exclusive.settle {turned : Turn × Tally}
    (manages : triggers.managed.settings.manageAcls = true)
    (known : number < triggers.activations.length)
    (others : ∀ other, other ≠ number → triggers.cycleOf other = none)
    (through : CallsThrough number triggers.calls) :
    (triggers.settle number (triggers.managed.take turned)).Exclusive := by
  obtain ⟨configured, -, -⟩ := Site.take_keeps triggers.managed turned
  have onward : CallsThrough number
      (triggers.settle number (triggers.managed.take turned)).calls := by
    apply through.append
    intro call member
    obtain ⟨cycle, -, rfl⟩ := List.mem_map.mp member
    rfl
  have alone (other : Nat) (another : other ≠ number) :
      (triggers.settle number (triggers.managed.take turned)).cycleOf other = none :=
    (cycle_of_settle_other another.symm).trans (others other another)
  have own : (triggers.settle number (triggers.managed.take turned)).cycleOf number = _ :=
    cycle_of_settle known
  have managed := (congrArg ClusterSettings.manageAcls configured).trans manages
  refine ⟨managed, ?_, onward.ordered, ?_, ?_⟩
  · intro call member
    exact (onward.last call member).trans_lt (by rwa [Triggers.settle, List.length_set])
  · intro idle other
    by_cases same : other = number
    · exact same ▸ own.trans idle
    · exact alone other same
  · intro cycle running
    exact ⟨number, own.trans running, alone, onward.last⟩

theorem Exclusive.trigger (exclusive : triggers.Exclusive) (query : ResourceQuery) :
    (triggers.step (.trigger query)).Exclusive := by
  obtain ⟨manages, known, ordered, free, taken⟩ := exclusive
  cases running : triggers.managed.cycle with
  | some cycle =>
      obtain ⟨holder, held, others, last⟩ := taken cycle running
      rw [step_busy query manages running]
      refine ⟨manages, ?_, ordered, ?_, ?_⟩
      · intro call member
        rw [List.length_append]
        exact Nat.lt_add_right 1 (known call member)
      · intro idle
        cases running.symm.trans idle
      · intro current again
        cases running.symm.trans again
        refine ⟨holder, (field_of_append rfl holder).trans held, ?_, last⟩
        intro number another
        exact (field_of_append rfl number).trans (others number another)
  | none =>
      obtain ⟨turned, took, -⟩ :=
        ManagedCluster.trigger_takes query triggers.tally manages running
      have others (number : Nat) (_ : number ≠ triggers.activations.length) :
          triggers.enroll.cycleOf number = none :=
        (field_of_append rfl number).trans (free running number)
      have through : CallsThrough triggers.activations.length triggers.enroll.calls :=
        ⟨ordered, fun call member => (known call member).le⟩
      rw [Triggers.step, took]
      exact Exclusive.settle manages triggers.enroll_known others through

theorem Exclusive.answer (exclusive : triggers.Exclusive) (number : Nat) (response : Response) :
    (triggers.step (.answer number response)).Exclusive := by
  cases own : triggers.cycleOf number with
  | none =>
      rw [Triggers.step, own]
      exact exclusive
  | some cycle =>
      obtain ⟨-, others, last⟩ := exclusive.taken_by own
      obtain ⟨activation, found, underway, known⟩ := known_of_cycle own
      have through : CallsThrough number
          (triggers.heard number (response.to cycle.call)).calls := by
        apply CallsThrough.append ⟨exclusive.ordered, last⟩
        intro call member
        rw [List.mem_singleton.mp member]
      rw [step_answered own response]
      exact Exclusive.settle exclusive.manages known others through

theorem Exclusive.step (exclusive : triggers.Exclusive) (event : TriggersEvent) :
    (triggers.step event).Exclusive := by
  cases event with
  | trigger query => exact exclusive.trigger query
  | answer number response => exact exclusive.answer number response

theorem Exclusive.run (exclusive : triggers.Exclusive) (events : List TriggersEvent) :
    (triggers.run events).Exclusive := by
  induction events generalizing triggers with
  | nil => exact exclusive
  | cons event rest induction => exact induction (exclusive.step event)

theorem calls_end {cycle : Cycle} (underway : triggers.cycleOf number = some cycle)
    (events : List TriggersEvent)
    (enough : cycle.callsLeft ≤ events.countP (TriggersEvent.answers number)) :
    ∃ result, (triggers.run events).resultOf number = some result := by
  -- Each answer ends the cycle or leaves it fewer calls to make; nothing else touches it.
  induction events generalizing triggers cycle with
  | nil => cases cycle <;> cases enough
  | cons event rest induction =>
      obtain ⟨activation, found, mine, known⟩ := known_of_cycle underway
      cases answered : event.answers number with
      | false =>
          rw [List.countP_cons_of_neg (Bool.not_eq_true _ ▸ answered)] at enough
          have still : (triggers.step event).cycleOf number = some cycle := by
            rw [cycleOf, step_unanswered known answered]
            exact underway
          exact induction still enough
      | true =>
          obtain ⟨response, rfl⟩ := of_answers answered
          rw [List.countP_cons_of_pos answered] at enough
          have stepped := step_answered underway response
          generalize turned : cycle.answered triggers.managed.settings triggers.tally
            (response.to cycle.call) = turn at stepped
          obtain ⟨next | result, tally⟩ := turn
          · have fewer := Cycle.answered_calls_left (congrArg Prod.fst turned)
            have goesOn : (triggers.step (.answer number response)).cycleOf number =
                some next := by
              rw [stepped]
              exact cycle_of_settle known
            exact induction goesOn (by omega)
          · have ended : (triggers.step (.answer number response)).activations[number]? =
                some { result := some result } := by
              rw [stepped]
              exact settle_activation known
            obtain ⟨later, reached, becomes⟩ := run_becomes rest ended
            rw [becomes.ended rfl] at reached
            exact ⟨result, by rw [resultOf, run, List.foldl_cons, ← run, reached]; rfl⟩

/-- A trigger that comes while no cycle is under way is not skipped. -/
theorem Exclusive.trigger_lives (exclusive : triggers.Exclusive) (query : ResourceQuery)
    (idle : triggers.managed.cycle = none) :
    ∃ activation, (triggers.step (.trigger query)).activations[triggers.activations.length]? =
      some activation ∧ activation.Lives := by
  obtain ⟨turned, took, concludes⟩ :=
    ManagedCluster.trigger_takes query triggers.tally exclusive.manages idle
  rw [Triggers.step, took]
  exact ⟨_, settle_activation triggers.enroll_known, Activation.following_lives _ concludes⟩

/-- The event by which a cycle is aborted leaves its place free. -/
theorem Exclusive.abort_frees (exclusive : triggers.Exclusive) {event : TriggersEvent}
    {fault : Fault} (before : triggers.resultOf number ≠ some (.error fault))
    (after : (triggers.step event).resultOf number = some (.error fault)) :
    (triggers.step event).managed.cycle = none := by
  cases event with
  | trigger query =>
      cases running : triggers.managed.cycle with
      | some cycle =>
          rw [step_busy query exclusive.manages running, resultOf, List.getElem?_append] at after
          split at after
          · exact absurd after before
          · rw [List.getElem?_singleton] at after
            split at after <;> cases after
      | none =>
          obtain ⟨turned, took, -⟩ :=
            ManagedCluster.trigger_takes query triggers.tally exclusive.manages running
          rw [Triggers.step, took] at after ⊢
          by_cases same : triggers.activations.length = number
          · subst same
            exact settle_ended triggers.enroll_known after
          · rw [resultOf, settle_other same, enroll, field_of_append rfl] at after
            exact absurd after before
  | answer other response =>
      cases own : triggers.cycleOf other with
      | none =>
          rw [Triggers.step, own] at after
          exact absurd after before
      | some cycle =>
          obtain ⟨-, -, -, known⟩ := known_of_cycle own
          rw [step_answered own response] at after ⊢
          by_cases same : other = number
          · subst same
            have heard : other <
                (triggers.heard other (response.to cycle.call)).activations.length := known
            exact settle_ended heard after
          · rw [resultOf, settle_other same] at after
            exact absurd after before

/-- However triggers and answers follow each other, at most one cycle is under way, and what passes
between one cycle and the broker comes before all that passes for a later one. A trigger is skipped,
without a call and without a change to the counters, if a cycle is under way when it comes;
otherwise its own cycle is under way or has ended with an error or a report on itself, and it ends
when its calls do. The event by which a cycle is aborted lets the next trigger have its cycle. -/
theorem run_excludes (settings : ClusterSettings) (timeout : Nat) (events : List TriggersEvent)
    (manages : settings.manageAcls = true) :
    let start := idle settings timeout
    let reached := start.run events
    (∀ first second, reached.Active first → reached.Active second → first = second) ∧
      (reached.calls.Pairwise fun earlier later => earlier.1 ≤ later.1) ∧
      (∀ before query after, events = before ++ .trigger query :: after →
        let current := start.run before
        ∃ activation, reached.activations[current.activations.length]? = some activation ∧
          ((∃ number, current.Active number) →
            activation = { result := some (.ok (current.managed.skip .cycleInProgress)) } ∧
              current.step (.trigger query) =
                { current with activations := current.activations ++ [activation] }) ∧
          ((¬∃ number, current.Active number) → activation.Lives)) ∧
      (∀ number, reached.Active number → ∀ later,
        3 ≤ later.countP (TriggersEvent.answers number) →
          ∃ result, (reached.run later).resultOf number = some result) ∧
      ∀ event number fault, reached.resultOf number ≠ some (.error fault) →
        (reached.step event).resultOf number = some (.error fault) →
        (∀ other, ¬(reached.step event).Active other) := by
  intro start reached
  have exclusive : reached.Exclusive := (exclusive_idle timeout manages).run events
  refine ⟨fun first second => exclusive.alone, exclusive.ordered, ?_, ?_, ?_⟩
  · rintro before query after rfl current
    have current_exclusive : current.Exclusive := (exclusive_idle timeout manages).run before
    have reached_after : reached = (current.step (.trigger query)).run after := List.foldl_append
    rw [reached_after]
    by_cases busy : ∃ number, current.Active number
    · obtain ⟨cycle, running⟩ := current_exclusive.busy_iff.mp busy
      have stepped := step_busy query current_exclusive.manages running
      have found : (current.step (.trigger query)).activations[current.activations.length]? =
          some { result := some (.ok (current.managed.skip .cycleInProgress)) } := by
        rw [stepped]
        exact List.getElem?_concat_length
      obtain ⟨activation, later, becomes⟩ := run_becomes after found
      have same := becomes.ended rfl
      exact ⟨activation, later, fun _ => ⟨same, same ▸ stepped⟩, fun alone => absurd busy alone⟩
    · have idle : current.managed.cycle = none := by
        by_contra running
        exact busy (current_exclusive.busy_iff.mpr (Option.ne_none_iff_exists'.mp running))
      obtain ⟨activation, found, lives⟩ := current_exclusive.trigger_lives query idle
      obtain ⟨next, later, becomes⟩ := run_becomes after found
      exact ⟨next, later, fun alone => absurd alone busy, fun _ => becomes.lives lives⟩
  · rintro number ⟨cycle, underway⟩ later enough
    exact calls_end underway later (cycle.calls_left_le.trans enough)
  · rintro event number fault before after other ⟨cycle, underway⟩
    have free := exclusive.abort_frees before after
    cases ((exclusive.step event).free free other).symm.trans underway

/-- A broker that holds a foreign binding, and takes too long to create or remove any. -/
def slowResponse : Response where
  described := .ok [Site.othersRead]
  created := .error (.brokerTimeout "east" 10)
  deleted := .error (.brokerTimeout "east" 10)

/-- Two triggers come while the cycle of the first is under way, and one when it was cut off. -/
def contended : List TriggersEvent :=
  [.trigger Site.shopCatalog.query, .trigger Site.shopCatalog.query, .answer 0 slowResponse,
    .trigger Site.shopCatalog.query, .answer 0 slowResponse, .trigger Site.shopCatalog.query]

theorem run_excludes_contended :
    let reached := (idle Upkeep.shopSettings 10).run contended
    reached.resultOf 0 = some (.error (.brokerTimeout "east" 10)) ∧
      reached.resultOf 2 = some (.ok { cluster := "east", skipped := some .cycleInProgress }) ∧
      ∃ activation, reached.activations[3]? = some activation ∧ activation.Lives ∧
        ∃ result, (reached.run (List.replicate 3 (.answer 3 slowResponse))).resultOf 3 =
          some result := by
  intro reached
  have manages : Upkeep.shopSettings.manageAcls = true := rfl
  obtain ⟨-, -, kinds, ends, -⟩ := run_excludes Upkeep.shopSettings 10 contended manages
  obtain ⟨second, found, busy, -⟩ := kinds (contended.take 3) Site.shopCatalog.query
    (contended.drop 4) rfl
  obtain ⟨skipped, -⟩ := busy ⟨0, _, rfl⟩
  obtain ⟨third, present, -, alone⟩ := kinds (contended.take 5) Site.shopCatalog.query [] rfl
  have free : ¬∃ number, ((idle Upkeep.shopSettings 10).run (contended.take 5)).Active number := by
    have exclusive := (exclusive_idle 10 manages).run (contended.take 5)
    rw [exclusive.busy_iff]
    rintro ⟨cycle, running⟩
    cases running
  refine ⟨rfl, ?_, third, present, alone free, ends 3 ⟨_, rfl⟩ _ (by decide)⟩
  have reached_second : reached.activations[2]? = some second := found
  rw [resultOf, reached_second, skipped]
  rfl

end Triggers

end BrokerTenancy
