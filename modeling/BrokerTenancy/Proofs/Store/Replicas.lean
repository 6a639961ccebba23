import BrokerTenancy.Log.Memory
import BrokerTenancy.Proofs.Store.Session
import Mathlib.Data.List.Infix

/-!
Stores over one log, created and started at any time, while records are appended. The log keeps its
contract: offsets are dense, no watermark is beyond the offset that comes next, a loop is told no
high watermark below the one that the log had when the loop was started, and a read delivers a front
of the records from its offset on. The front may have any length, so nothing here depends on the
limits of a store or on when its reads are answered. As in a session, a batch is taken and published
in one step.
-/

namespace BrokerTenancy

/-- What a log holds; its first record is at `base`. -/
structure SharedLog where
  name : String
  base : Nat
  records : List Record := []

namespace SharedLog

/-- The offset that the next record gets. -/
def next (log : SharedLog) : Nat := log.base + log.records.length

def append (log : SharedLog) (key : String) (value : Option (List UInt8)) (timestamp : Int) :
    SharedLog :=
  { log with records := log.records ++ [{ offset := log.next, key, value, timestamp }] }

/-- The records from an offset on. -/
def since (log : SharedLog) (offset : Nat) : List Record := log.records.drop (offset - log.base)

/-- Whether the log may answer a loop so, whose start found the log at `start`. -/
def mayAnswer (log : SharedLog) (start : Nat) (stage : LoopStage) : Delivery → Bool
  | .low (.ok low) => log.base ≤ low && low ≤ log.next
  | .high (.ok high) => start ≤ high && high ≤ log.next
  | .batch (.ok batch) => stage.expects.any fun position => batch.isPrefixOf (log.since position)
  | _ => true

end SharedLog

/-- One store of several. -/
structure Replica (Value : Type) where
  limits : StoreLimits
  session : Session Value
  /-- What happened to the store. -/
  events : List SessionEvent := []
  /-- The offset that the log was to give next when each loop was started. -/
  starts : List Nat := []

namespace Replica

variable {Value : Type} [Storable Value]

def fresh (log : SharedLog) (limits : StoreLimits) : Replica Value :=
  { limits, session := Session.fresh log.name limits }

def started (log : SharedLog) (replica : Replica Value) : SessionEvent → List Nat
  | .start =>
      if replica.session.store.loop.isNone then replica.starts ++ [log.next] else replica.starts
  | _ => replica.starts

/-- Whether the log lets an event happen. -/
def admits (log : SharedLog) (replica : Replica Value) : SessionEvent → Bool
  | .answer loop delivery =>
      (replica.session.stage loop).any fun stage =>
        log.mayAnswer (replica.starts.getD loop 0) stage delivery
  | _ => true

def step (log : SharedLog) (replica : Replica Value) (event : SessionEvent) :
    Option (Replica Value) :=
  if replica.admits log event then
    (replica.session.step event).map fun session =>
      { replica with
        session
        events := replica.events ++ [event]
        starts := replica.started log event }
  else none

end Replica

structure Replicas (Value : Type) where
  log : SharedLog
  stores : List (Replica Value) := []

inductive ReplicasEvent where
  /-- Someone's record is appended. -/
  | append (key : String) (value : Option (List UInt8)) (timestamp : Int)
  | create (limits : StoreLimits)
  | act (store : Nat) (event : SessionEvent)

namespace Replicas

variable {Value : Type} [Storable Value]

/-- An empty log without any store. -/
def fresh (name : String) (base : Nat) : Replicas Value := { log := { name, base } }

/-- The step that an event makes, if it can happen. -/
def step (replicas : Replicas Value) : ReplicasEvent → Option (Replicas Value)
  | .append key value timestamp =>
      some { replicas with log := replicas.log.append key value timestamp }
  | .create limits =>
      some { replicas with stores := replicas.stores ++ [Replica.fresh replicas.log limits] }
  | .act store event => do
      let replica ← replicas.stores[store]?
      let moved ← replica.step replicas.log event
      return { replicas with stores := replicas.stores.set store moved }

def run (replicas : Replicas Value) (events : List ReplicasEvent) : Option (Replicas Value) :=
  events.foldlM step replicas

end Replicas

/-! ## What a log delivers -/

/-- A log in memory delivers a front of the records from an offset on, also if it grows while the
read waits. -/
theorem MemoryLog.end_read_prefix (after before : MemoryLog)
    (grown : before.records <+: after.records) (offset limit : Nat) :
    after.endRead (before.beginRead offset limit) <+: after.records.drop offset := by
  have slicePrefix : Record.slice after.records offset limit <+: after.records.drop offset :=
    List.take_prefix _ _
  rw [beginRead]
  split
  · exact List.nil_prefix
  · split
    · rw [endRead, available]
      split
      · exact List.nil_prefix
      · exact slicePrefix
    · exact (List.take_prefix _ _).trans (List.IsPrefix.drop grown offset)

namespace SharedLog

variable {log : SharedLog}

theorem since_later {low : Nat} (inside : log.base ≤ low) (count : Nat) :
    log.since (low + count) = (log.since low).drop count := by
  rw [since, since, List.drop_drop]
  congr 1
  omega

theorem since_gapless (gapless : Record.Gapless log.base log.records) {low : Nat}
    (inside : log.base ≤ low) : Record.Gapless low (log.since low) := by
  have dropped := Record.gapless_drop gapless (low - log.base)
  rw [Nat.add_sub_cancel' inside] at dropped
  exact dropped

/-- A batch that comes behind what was delivered goes on with the records of the log. -/
theorem delivered_longer {low : Nat} {front batch : List Record} (inside : log.base ≤ low)
    (isFront : front <+: log.since low) (follows : batch <+: log.since (low + front.length)) :
    front ++ batch <+: log.since low := by
  rcases isFront with ⟨rest, split⟩
  rw [since_later inside, ← split, List.drop_left] at follows
  rw [← split]
  exact (List.prefix_append_right_inj front).mpr follows

/-- What a later state of a log keeps. -/
structure Grows (earlier later : SharedLog) : Prop where
  name : later.name = earlier.name
  base : later.base = earlier.base
  records : earlier.records <+: later.records

theorem Grows.refl (log : SharedLog) : Grows log log := ⟨rfl, rfl, List.prefix_refl _⟩

theorem Grows.trans {first second third : SharedLog} (before : Grows first second)
    (after : Grows second third) : Grows first third where
  name := after.name.trans before.name
  base := after.base.trans before.base
  records := before.records.trans after.records

/-- A log in memory keeps the contract, also if it grows while a read waits. -/
theorem may_answer_memory (before after : MemoryLog) (grown : before.records <+: after.records)
    {start : Nat} (started : start ≤ after.records.length) {stage : LoopStage} {position : Nat}
    (expected : stage.expects = some position) (limit : Nat) :
    let log : SharedLog := { name := after.name, base := 0, records := after.records }
    log.mayAnswer start stage (.low (.ok after.lowWatermark)) ∧
      log.mayAnswer start stage (.high (.ok after.highWatermark)) ∧
      log.mayAnswer start stage
        (.batch (.ok (after.endRead (before.beginRead position limit)))) := by
  refine ⟨rfl, ?_, ?_⟩
  · simp [mayAnswer, next, MemoryLog.highWatermark, started]
  · rw [mayAnswer, expected]
    exact List.isPrefixOf_iff_prefix.mpr (after.end_read_prefix before grown position limit)

theorem Grows.since {earlier later : SharedLog} (grows : Grows earlier later) (offset : Nat) :
    earlier.since offset <+: later.since offset := by
  rw [SharedLog.since, SharedLog.since, grows.base]
  exact List.IsPrefix.drop grows.records _

end SharedLog

/-! ## What a loop was told -/

def Delivery.highs : Delivery → List Nat
  | .high (.ok offset) => [offset]
  | _ => []

namespace SharedLog

variable {log : SharedLog} {start : Nat} {stage : LoopStage} {delivery : Delivery}

theorem base_le_low (allowed : log.mayAnswer start stage delivery) :
    ∀ low ∈ delivery.lows, log.base ≤ low := by
  intro low member
  rcases delivery with (fault | told) | answer | answer
  · cases member
  · rw [mayAnswer, Bool.and_eq_true, decide_eq_true_iff] at allowed
    rw [List.mem_singleton.mp member]
    exact allowed.1
  · cases member
  · cases member

theorem start_le_high (allowed : log.mayAnswer start stage delivery) :
    ∀ high ∈ delivery.highs, start ≤ high := by
  intro high member
  rcases delivery with answer | (fault | told) | answer
  · cases member
  · cases member
  · rw [mayAnswer, Bool.and_eq_true, decide_eq_true_iff] at allowed
    rw [List.mem_singleton.mp member]
    exact allowed.1
  · cases member

end SharedLog

/-- The high watermarks that the log told a loop. -/
def Session.highWatermarks (loop : Nat) (events : List SessionEvent) : List Nat :=
  events.flatMap fun event =>
    match event with
    | .answer other delivery => if other = loop then delivery.highs else []
    | _ => []

/-- A loop stands where the high watermarks put it that it was told. -/
def LoopStage.Aims (highs : List Nat) : Option LoopStage → Prop
  | some (.replaying _ _ target) => highs = [target]
  | some (.following position) => ∃ high, highs = [high] ∧ high ≤ position
  | some .ended => True
  | _ => highs = []

theorem LoopStage.aims_advance {highs : List Nat} {stage : LoopStage} {position next : Nat}
    (aims : Aims highs (some stage)) (expected : stage.expects = some position)
    (further : position ≤ next) : Aims highs (some (stage.advance next)) := by
  cases stage with
  | replaying low start target =>
      have told : highs = [target] := aims
      rw [advance]
      split
      · exact told
      · next reached => exact ⟨target, told, Nat.le_of_not_lt reached⟩
  | following start =>
      rcases aims with ⟨high, told, before⟩
      have same : start = position := Option.some_inj.mp expected
      exact ⟨high, told, by omega⟩
  | _ => cases expected

theorem Store.aims_deliver {Value : Type} [Storable Value] {highs : List Nat} (store : Store Value)
    (stage : LoopStage) (delivery : Delivery) (running : store.loop = some stage)
    (awaited : stage.awaits delivery) (aims : LoopStage.Aims highs (some stage)) :
    LoopStage.Aims (highs ++ delivery.highs) (store.deliver delivery).loop := by
  rcases deliver_cases store stage delivery running awaited with ⟨fault, -, moved⟩ |
    ⟨low, rfl, rfl, moved⟩ | ⟨low, high, replayed, rfl, rfl, moved⟩ |
    ⟨position, batch, replayed, expected, rfl, -, moved⟩ | ⟨position, batch, fault, -, -, -, moved⟩
  all_goals rw [moved]
  · exact trivial
  · have none : highs = [] := aims
    rw [none]
    rfl
  · have none : highs = [] := aims
    rw [none]
    exact LoopStage.aims_advance rfl rfl (Nat.le_refl low)
  · have none : Delivery.highs (.batch (.ok batch)) = [] := rfl
    rw [none, List.append_nil]
    apply LoopStage.aims_advance aims expected
    rw [Record.iterate_succ]
    exact Nat.le_add_right _ _
  · exact trivial

namespace Session

variable {Value : Type} [Storable Value]

theorem lows_append (loop : Nat) (earlier later : List SessionEvent) :
    lowWatermarks loop (earlier ++ later) =
      lowWatermarks loop earlier ++ lowWatermarks loop later :=
  List.flatMap_append

theorem delivered_append (loop : Nat) (earlier later : List SessionEvent) :
    delivered loop (earlier ++ later) = delivered loop earlier ++ delivered loop later :=
  List.flatMap_append

theorem highs_append (loop : Nat) (earlier later : List SessionEvent) :
    highWatermarks loop (earlier ++ later) =
      highWatermarks loop earlier ++ highWatermarks loop later :=
  List.flatMap_append

section Single

variable (loop other : Nat) (delivery : Delivery)

theorem lows_single :
    lowWatermarks other [.answer loop delivery] = if loop = other then delivery.lows else [] :=
  List.flatMap_singleton ..

theorem delivered_single :
    delivered other [.answer loop delivery] = if loop = other then delivery.records else [] :=
  List.flatMap_singleton ..

theorem highs_single :
    highWatermarks other [.answer loop delivery] = if loop = other then delivery.highs else [] :=
  List.flatMap_singleton ..

end Single

/-- A store that serves has one loop, and what it publishes is where that loop is. -/
theorem Invariant.follows {events : List SessionEvent} {session : Session Value}
    (invariant : Invariant events session) (serves : session.store.status.serves) :
    ∃ position, session.leaving = [] ∧ session.store.loop = some (.following position) ∧
      session.stage 0 = some (.following position) ∧ session.store.status.applied = position := by
  rcases Bool.and_eq_true_iff.mp serves with ⟨isReady, notStopped⟩
  have going : session.store.status.fatal = none := Option.isNone_iff_eq_none.mp notStopped
  have alone := invariant.alone going
  rcases (invariant.undisturbed going).ready isReady with ⟨position, following⟩
  refine ⟨position, alone, following, ?_, ?_⟩
  · rw [stage, alone, following]
    rfl
  · apply (invariant.undisturbed going).applied
    rw [following]
    rfl

/-- An answer starts and ends no loop. -/
theorem turn_count {session : Session Value} {loop : Nat} {current : LoopStage}
    (delivery : Delivery) (found : session.stage loop = some current)
    (awaited : current.awaits delivery) :
    ((session.turn loop current delivery).leaving ++
        (session.turn loop current delivery).store.loop.toList).length =
      (session.leaving ++ session.store.loop.toList).length := by
  rw [List.length_append, List.length_append, turn, List.length_set]
  rcases stage_lt found with ⟨isLeaving, -⟩ | ⟨isLast, running⟩
  · rw [if_pos isLeaving]
  · rcases Store.deliver_loop { session.store with loop := some current } current delivery rfl
      awaited with ⟨next, moved⟩
    rw [if_neg (by omega), moved, running]
    rfl

theorem run_then {session before next : Session Value} {earlier : List SessionEvent}
    {event : SessionEvent} (ran : run session earlier = some before)
    (stepped : before.step event = some next) : run session (earlier ++ [event]) = some next := by
  rw [run] at ran ⊢
  rw [List.foldlM_append, ran]
  simpa using stepped

end Session

namespace Replica

open Session (lows_append delivered_append highs_append lows_single delivered_single highs_single
  lowWatermarks highWatermarks delivered)

variable {Value : Type} [Storable Value]

/-- What a replica heard is what the log holds. -/
structure Told (log : SharedLog) (replica : Replica Value) : Prop where
  ran : Session.run (Session.fresh log.name replica.limits) replica.events = some replica.session
  counted : replica.starts.length =
    (replica.session.leaving ++ replica.session.store.loop.toList).length
  lows : ∀ loop, ∀ low ∈ lowWatermarks loop replica.events, log.base ≤ low
  records : ∀ loop low, lowWatermarks loop replica.events = [low] →
    delivered loop replica.events <+: log.since low
  highs : ∀ (loop : Nat) start, replica.starts[loop]? = some start →
    ∀ high ∈ highWatermarks loop replica.events, start ≤ high
  aims : ∀ loop,
    LoopStage.Aims (highWatermarks loop replica.events) (replica.session.stage loop)

theorem told_fresh (log : SharedLog) (limits : StoreLimits) :
    Told log (fresh log limits : Replica Value) where
  ran := rfl
  counted := rfl
  lows _ _ member := nomatch member
  records _ _ told := nomatch told
  highs _ _ _ _ member := nomatch member
  aims _ := rfl

theorem Told.grows {earlier later : SharedLog} {replica : Replica Value}
    (told : Told earlier replica) (grows : SharedLog.Grows earlier later) : Told later replica where
  ran := by
    rw [grows.name]
    exact told.ran
  counted := told.counted
  lows := by
    rw [grows.base]
    exact told.lows
  records loop low heard := (told.records loop low heard).trans (grows.since low)
  highs := told.highs
  aims := told.aims

theorem Told.invariant {log : SharedLog} {replica : Replica Value} (told : Told log replica) :
    Session.Invariant replica.events replica.session :=
  Session.invariant_run log.name replica.limits replica.events replica.session told.ran

/-- An event that tells a loop nothing. -/
theorem Told.quiet {log : SharedLog} {replica : Replica Value} {session : Session Value}
    {event : SessionEvent} {starts : List Nat} (told : Told log replica)
    (stepped : replica.session.step event = some session)
    (heard : ∀ loop, lowWatermarks loop [event] = [] ∧ delivered loop [event] = [] ∧
      highWatermarks loop [event] = [])
    (stages : ∀ loop, session.stage loop = replica.session.stage loop ∨
      replica.session.stage loop = none ∧ session.stage loop = some .askingLow)
    (more : replica.starts <+: starts)
    (counted : starts.length = (session.leaving ++ session.store.loop.toList).length) :
    Told log { replica with session, events := replica.events ++ [event], starts } := by
  have lows (loop : Nat) : lowWatermarks loop (replica.events ++ [event]) =
      lowWatermarks loop replica.events := by
    rw [lows_append, (heard loop).1, List.append_nil]
  have records (loop : Nat) : delivered loop (replica.events ++ [event]) =
      delivered loop replica.events := by
    rw [delivered_append, (heard loop).2.1, List.append_nil]
  have highs (loop : Nat) : highWatermarks loop (replica.events ++ [event]) =
      highWatermarks loop replica.events := by
    rw [highs_append, (heard loop).2.2, List.append_nil]
  refine ⟨Session.run_then told.ran stepped, counted, ?_, ?_, ?_, ?_⟩
  · intro loop
    rw [lows]
    exact told.lows loop
  · intro loop
    rw [lows, records]
    exact told.records loop
  · intro loop start found
    rw [highs]
    rcases Nat.lt_or_ge loop replica.starts.length with inside | beyond
    · rcases more with ⟨rest, rfl⟩
      rw [List.getElem?_append_left inside] at found
      exact told.highs loop start found
    · have unborn : replica.session.stage loop = none := by
        apply List.getElem?_eq_none
        rw [← told.counted]
        exact beyond
      have aims := told.aims loop
      rw [unborn] at aims
      have none : highWatermarks loop replica.events = [] := aims
      rw [none]
      intro high member
      cases member
  · intro loop
    rw [highs]
    have aims := told.aims loop
    rcases stages loop with same | ⟨unborn, born⟩
    · rw [same]
      exact aims
    · rw [born]
      rw [unborn] at aims
      exact aims

section Answered

variable {log : SharedLog} {replica : Replica Value} {loop : Nat} {current : LoopStage}
  {delivery : Delivery}

/-- What a loop has been given with an answer is a front of the log from its low watermark on. -/
theorem Told.records_answer (told : Told log replica)
    (found : replica.session.stage loop = some current) (awaited : current.awaits delivery)
    {start : Nat} (allowed : log.mayAnswer start current delivery) {low : Nat}
    (heard : lowWatermarks loop replica.events ++ delivery.lows = [low]) :
    delivered loop replica.events ++ delivery.records <+: log.since low := by
  have explains := told.invariant.loops loop
  rw [found] at explains
  rcases current.awaited_cases delivery awaited with ⟨fault, faulty⟩ | ⟨other, rfl, rfl⟩ |
    ⟨other, high, rfl, rfl⟩ | ⟨position, batch, expected, rfl⟩
  · rw [Delivery.lows_of_fault faulty, List.append_nil] at heard
    rw [Delivery.records_of_fault faulty, List.append_nil]
    exact told.records loop low heard
  · have nothing : delivered loop replica.events = [] := congrArg LoopHistory.records explains
    rw [nothing]
    exact List.nil_prefix
  · have lows : Delivery.lows (.high (.ok high)) = [] := rfl
    have records : Delivery.records (.high (.ok high)) = [] := rfl
    rw [lows, List.append_nil] at heard
    rw [records, List.append_nil]
    exact told.records loop low heard
  · have lows : Delivery.lows (.batch (.ok batch)) = [] := rfl
    rw [lows, List.append_nil] at heard
    rcases LoopHistory.in_step_of_expects explains expected with ⟨other, inStep, -⟩
    have same : other = low := by
      have both : [other] = [low] := inStep.lows.symm.trans heard
      exact (List.cons.inj both).1
    have place : position = low + (delivered loop replica.events).length := by
      rw [← same, inStep.place, Record.iterate_succ]
      rfl
    have follows : batch <+: log.since position := by
      rw [SharedLog.mayAnswer, expected] at allowed
      exact List.isPrefixOf_iff_prefix.mp allowed
    rw [place] at follows
    have inside : log.base ≤ low := by
      apply told.lows loop
      rw [heard]
      exact List.mem_singleton_self low
    exact SharedLog.delivered_longer inside (told.records loop low heard) follows

theorem Told.answer (told : Told log replica) (found : replica.session.stage loop = some current)
    (awaited : current.awaits delivery)
    (allowed : log.mayAnswer (replica.starts.getD loop 0) current delivery) :
    Told log
      { replica with
        session := replica.session.turn loop current delivery
        events := replica.events ++ [.answer loop delivery] } where
  ran := by
    apply Session.run_then told.ran
    rw [Session.step, found]
    exact if_pos awaited
  counted := by
    rw [told.counted]
    exact (Session.turn_count delivery found awaited).symm
  lows other low member := by
    rw [lows_append, lows_single, List.mem_append] at member
    rcases member with before | now
    · exact told.lows other low before
    · split at now
      · exact SharedLog.base_le_low allowed low now
      · cases now
  records other low heard := by
    rw [lows_append, lows_single] at heard
    rw [delivered_append, delivered_single]
    by_cases same : loop = other
    · rw [if_pos same] at heard ⊢
      subst same
      exact told.records_answer found awaited allowed heard
    · rw [if_neg same, List.append_nil] at heard ⊢
      exact told.records other low heard
  highs other start begun high member := by
    rw [highs_append, highs_single, List.mem_append] at member
    rcases member with before | now
    · exact told.highs other start begun high before
    · split at now
      · next same =>
        subst same
        rw [List.getD_eq_getElem?_getD, begun, Option.getD_some] at allowed
        exact SharedLog.start_le_high allowed high now
      · cases now
  aims other := by
    rw [highs_append, highs_single, Session.stage_turn delivery found awaited]
    have aims := told.aims other
    by_cases same : other = loop
    · rw [if_pos same, if_pos same.symm]
      subst same
      rw [found] at aims
      exact Store.aims_deliver { replica.session.store with loop := some current } current delivery
        rfl awaited aims
    · rw [if_neg same, if_neg (Ne.symm same), List.append_nil]
      exact aims

end Answered

theorem step_parts {log : SharedLog} {replica next : Replica Value} {event : SessionEvent}
    (stepped : replica.step log event = some next) :
    replica.admits log event ∧ ∃ session, replica.session.step event = some session ∧
      next = { replica with
        session
        events := replica.events ++ [event]
        starts := replica.started log event } := by
  rw [step] at stepped
  split at stepped
  · next admitted =>
    rcases Option.map_eq_some_iff.mp stepped with ⟨session, moved, same⟩
    exact ⟨admitted, session, moved, same.symm⟩
  · cases stepped

theorem Told.step {log : SharedLog} {replica next : Replica Value} {event : SessionEvent}
    (told : Told log replica) (stepped : replica.step log event = some next) : Told log next := by
  rcases step_parts stepped with ⟨admitted, session, moved, rfl⟩
  cases event with
  | start =>
      cases moved
      apply told.quiet rfl (fun loop => ⟨rfl, rfl, rfl⟩) (Session.stage_start replica.session)
      · rw [started]
        split
        · exact List.prefix_append _ _
        · exact List.prefix_refl _
      · have counted := told.counted
        cases running : replica.session.store.loop <;>
          simp_all [started, Store.start]
  | shutDown =>
      cases moved
      apply told.quiet rfl (fun loop => ⟨rfl, rfl, rfl⟩) _ (List.prefix_refl _)
      · rw [told.counted]
        simp [Store.shutDown]
      · intro loop
        left
        simp [Session.stage, Store.shutDown]
  | answer loop delivery =>
      rcases Session.step_answer moved with ⟨current, found, awaited, rfl⟩
      rw [admits, found] at admitted
      exact told.answer found awaited admitted
  | _ =>
      cases moved
      exact told.quiet rfl (fun loop => ⟨rfl, rfl, rfl⟩) (fun loop => .inl rfl)
        (List.prefix_refl _) told.counted

end Replica

namespace Replicas

variable {Value : Type} [Storable Value]

/-- The log is dense, and every store heard what it holds. -/
structure Sound (replicas : Replicas Value) : Prop where
  gapless : Record.Gapless replicas.log.base replicas.log.records
  told : ∀ replica ∈ replicas.stores, replica.Told replicas.log

theorem run_append_singleton {replicas last : Replicas Value} {earlier : List ReplicasEvent}
    {event : ReplicasEvent} (ran : run replicas (earlier ++ [event]) = some last) :
    ∃ before, run replicas earlier = some before ∧ before.step event = some last := by
  rw [run, List.foldlM_append] at ran
  rcases Option.bind_eq_some_iff.mp ran with ⟨before, reached, stepped⟩
  exact ⟨before, reached, by simpa using stepped⟩

theorem step_act {replicas next : Replicas Value} {store : Nat} {event : SessionEvent}
    (stepped : replicas.step (.act store event) = some next) :
    ∃ replica moved, replicas.stores[store]? = some replica ∧
      replica.step replicas.log event = some moved ∧
      next = { replicas with stores := replicas.stores.set store moved } := by
  rcases Option.bind_eq_some_iff.mp stepped with ⟨replica, found, acted⟩
  rcases Option.bind_eq_some_iff.mp acted with ⟨moved, went, same⟩
  exact ⟨replica, moved, found, went, (Option.some_inj.mp same).symm⟩

theorem step_grows {replicas next : Replicas Value} {event : ReplicasEvent}
    (stepped : replicas.step event = some next) : replicas.log.Grows next.log := by
  cases event with
  | append key value timestamp =>
      cases stepped
      exact ⟨rfl, rfl, List.prefix_append _ _⟩
  | create limits =>
      cases stepped
      exact .refl _
  | act store event =>
      rcases step_act stepped with ⟨replica, moved, -, -, rfl⟩
      exact .refl _

theorem run_grows {replicas last : Replicas Value} {events : List ReplicasEvent}
    (ran : run replicas events = some last) : replicas.log.Grows last.log := by
  induction events using List.reverseRecOn generalizing last with
  | nil =>
      cases ran
      exact .refl _
  | append_singleton earlier event induction =>
      rcases run_append_singleton ran with ⟨before, reached, stepped⟩
      exact (induction reached).trans (step_grows stepped)

theorem Sound.step {replicas next : Replicas Value} {event : ReplicasEvent}
    (sound : Sound replicas) (stepped : replicas.step event = some next) : Sound next := by
  cases event with
  | append key value timestamp =>
      have grows := step_grows stepped
      cases stepped
      constructor
      · apply (Record.gapless_append ..).mpr
        exact ⟨sound.gapless, (Record.gapless_cons ..).mpr ⟨rfl, Record.gapless_nil _⟩⟩
      · intro replica member
        exact (sound.told replica member).grows grows
  | create limits =>
      cases stepped
      refine ⟨sound.gapless, ?_⟩
      intro replica member
      rcases List.mem_append.mp member with before | new
      · exact sound.told replica before
      · rw [List.mem_singleton.mp new]
        exact Replica.told_fresh replicas.log limits
  | act store event =>
      rcases step_act stepped with ⟨replica, moved, found, went, rfl⟩
      refine ⟨sound.gapless, ?_⟩
      intro other member
      rcases List.mem_or_eq_of_mem_set member with before | rfl
      · exact sound.told other before
      · exact (sound.told replica (List.mem_of_getElem? found)).step went

theorem Sound.run {replicas last : Replicas Value} {events : List ReplicasEvent}
    (sound : Sound replicas) (ran : run replicas events = some last) : Sound last := by
  induction events using List.reverseRecOn generalizing last with
  | nil =>
      cases ran
      exact sound
  | append_singleton earlier event induction =>
      rcases run_append_singleton ran with ⟨before, reached, stepped⟩
      exact (induction reached).step stepped

theorem sound_fresh (name : String) (base : Nat) : Sound (fresh name base : Replicas Value) where
  gapless := Record.gapless_nil base
  told _ member := nomatch member

end Replicas

end BrokerTenancy
