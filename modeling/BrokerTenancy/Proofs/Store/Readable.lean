import BrokerTenancy.Proofs.Calendar.Written
import BrokerTenancy.Proofs.Resource.Stored
import BrokerTenancy.Proofs.Store.Replicas

/-!
A store reads back what stores of its kind write. A resource whose creation instant could come from
a text is decoded from its bytes as it is, so a log that holds such resources and tombstones never
stops a loop: neither one that follows the log, nor one that replays it after a restart.
-/

namespace BrokerTenancy

namespace Resource

variable {Value : Type} [Resource Value]

/-- The resource has no creation instant, or one that some text denotes. -/
def IsDated (value : Value) : Prop :=
  ∀ instant ∈ (metadata value).creation, ∃ text, Instant.ofText text = some instant

theorem IsDated.reread {value : Value} (dated : IsDated value) :
    Instant.reread (metadata value).creation = some (metadata value).creation := by
  cases made : (metadata value).creation with
  | none => rfl
  | some instant =>
      rcases dated instant made with ⟨text, read⟩
      rw [Instant.reread, Instant.of_text_again read]
      rfl

variable (Value)

/-- The creation instant of a resource can be replaced, and nothing else is with it. -/
structure KeepsCreation : Prop where
  same : ∀ value : Value, withCreation value (metadata value).creation = value
  made : ∀ (value : Value) (creation : Option Instant),
    (metadata (withCreation value creation)).creation = creation

/-- What a record is appended for: a put of a dated resource, or a delete. -/
def IsWritten (bytes : Option (List UInt8)) : Prop :=
  ∃ value : Option Value, (∀ resource ∈ value, IsDated resource) ∧
    bytes = value.map Store.encodeValue

variable {Value}

theorem IsFaithful.decode_dated (faithful : IsFaithful Value) (keeps : KeepsCreation Value)
    {value : Value} (dated : IsDated value) :
    Store.decodeValue (Store.encodeValue value) = some value := by
  rw [faithful.read, dated.reread, Option.map_some, keeps.same]

end Resource

/-- An answer whose records can all be taken stops a store only if it is a fault. -/
theorem Store.deliver_undamaged {Value : Type} [Storable Value] (store : Store Value)
    (stage : LoopStage) (delivery : Delivery) (running : store.loop = some stage)
    (awaited : stage.awaits delivery)
    (whole : ∀ position batch, stage.expects = some position → delivery = .batch (.ok batch) →
      takeable Value position batch = batch) :
    (∃ fault, delivery.fault = some fault ∧
      (store.deliver delivery).status.fatal = some (.other fault.message)) ∨
      (store.deliver delivery).loop ≠ some .ended ∧
        (store.deliver delivery).status.fatal = store.status.fatal := by
  rcases deliver_cases store stage delivery running awaited with ⟨fault, faulty, moved⟩ |
    ⟨low, -, -, moved⟩ | ⟨low, high, replayed, -, -, moved⟩ |
    ⟨position, batch, replayed, -, -, -, moved⟩ |
    ⟨position, batch, fault, expected, told, broken, -⟩
  · rw [moved]
    exact .inl ⟨fault, faulty, rfl⟩
  · rw [moved]
    refine .inr ⟨?_, rfl⟩
    intro ended
    cases ended
  · rw [moved]
    exact .inr ⟨fun ended => LoopStage.advance_ne_ended _ _ (Option.some_inj.mp ended), rfl⟩
  · rw [moved]
    exact .inr ⟨fun ended => LoopStage.advance_ne_ended _ _ (Option.some_inj.mp ended), rfl⟩
  · exact absurd (whole position batch expected told) broken

namespace Replica

variable {Value : Type} [Storable Value] {log : SharedLog} {replica next : Replica Value}

/-- The log itself answered a loop with a fault. -/
def Refused (replica : Replica Value) (loop : Nat) (fault : Fault) : Prop :=
  ∃ delivery, .answer loop delivery ∈ replica.events ∧ delivery.fault = some fault

/-- Nothing but a shutdown or a fault of the log stopped a loop or the store. -/
structure Undamaged (replica : Replica Value) : Prop where
  ended : ∀ loop, replica.session.stage loop = some .ended →
    ∃ fault, replica.Refused loop fault
  cause : ∀ cause ∈ replica.session.store.status.fatal,
    cause = .shutDown ∨ ∃ loop fault, replica.Refused loop fault ∧ cause = .other fault.message

omit [Storable Value] in
theorem undamaged_fresh (log : SharedLog) (limits : StoreLimits) :
    Undamaged (fresh log limits : Replica Value) where
  ended _ found := by cases found
  cause _ found := by cases found

/-- A batch of records that can all be read is taken whole. -/
theorem Told.takes_batch (told : Told log replica)
    (gapless : Record.Gapless log.base log.records)
    (readable : ∀ record ∈ log.records, record.isReadable Value) {loop start position : Nat}
    {current : LoopStage} {batch : List Record}
    (found : replica.session.stage loop = some current)
    (expected : current.expects = some position)
    (allowed : log.mayAnswer start current (.batch (.ok batch))) :
    Store.takeable Value position batch = batch := by
  have explains := told.invariant.loops loop
  rw [found] at explains
  rcases LoopHistory.in_step_of_expects explains expected with ⟨low, inStep, -⟩
  have inside : log.base ≤ low := by
    apply told.lows loop
    rw [show Session.lowWatermarks loop replica.events = [low] from inStep.lows]
    exact List.mem_singleton_self low
  have behind : log.base ≤ position := by
    rw [inStep.place, Record.iterate_succ]
    exact Nat.le_add_right_of_le inside
  have follows : batch <+: log.since position := by
    rw [SharedLog.mayAnswer, expected] at allowed
    exact List.isPrefixOf_iff_prefix.mp allowed
  apply Store.takeable_of_gapless
  · exact Record.gapless_of_prefix (SharedLog.since_gapless gapless behind) follows
  · intro record member
    exact readable record (List.mem_of_mem_drop (follows.subset member))

theorem Undamaged.step (undamaged : replica.Undamaged) (told : Told log replica)
    (gapless : Record.Gapless log.base log.records)
    (readable : ∀ record ∈ log.records, record.isReadable Value) {event : SessionEvent}
    (stepped : replica.step log event = some next) : next.Undamaged := by
  rcases step_parts stepped with ⟨admitted, session, moved, rfl⟩
  have still {loop : Nat} {fault : Fault} (refused : replica.Refused loop fault) :
      Refused
        { replica with
          session
          events := replica.events ++ [event]
          starts := replica.started log event } loop fault := by
    rcases refused with ⟨delivery, member, faulty⟩
    exact ⟨delivery, List.mem_append_left _ member, faulty⟩
  -- A loop or a store that had stopped keeps its reason.
  have endedStill (loop : Nat) (before : replica.session.stage loop = some .ended) :=
    (undamaged.ended loop before).imp fun _ => still
  have causeStill (cause : StopCause) (before : cause ∈ replica.session.store.status.fatal) :=
    (undamaged.cause cause before).imp_right fun ⟨loop, fault, refused, same⟩ =>
      Exists.intro loop (Exists.intro fault (And.intro (still refused) same))
  cases event with
  | start =>
      cases moved
      constructor
      · intro loop ended
        rcases Session.stage_start replica.session loop with same | ⟨-, born⟩
        · exact endedStill loop (same.symm.trans ended)
        · cases born.symm.trans ended
      · intro cause stopped
        rw [Store.start_status] at stopped
        exact causeStill cause stopped
  | shutDown =>
      cases moved
      constructor
      · intro loop ended
        apply endedStill loop
        simpa [Session.stage, Store.shutDown] using ended
      · intro cause stopped
        have same : replica.session.store.status.fatal.getD .shutDown = cause :=
          Option.some_inj.mp stopped
        cases before : replica.session.store.status.fatal with
        | none =>
            rw [before] at same
            exact .inl same.symm
        | some earlier =>
            rw [before] at same
            apply causeStill
            rw [before]
            exact congrArg some same
  | answer loop delivery =>
      rcases Session.step_answer moved with ⟨current, found, awaited, rfl⟩
      have allowed : log.mayAnswer (replica.starts.getD loop 0) current delivery := by
        rw [admits, found] at admitted
        exact admitted
      have whole (position : Nat) (batch : List Record)
          (expected : current.expects = some position) (isBatch : delivery = .batch (.ok batch)) :
          Store.takeable Value position batch = batch := by
        rw [isBatch] at allowed
        exact told.takes_batch gapless readable found expected allowed
      have outcome := Store.deliver_undamaged
        { replica.session.store with loop := some current } current delivery rfl awaited whole
      constructor
      · intro other ended
        rw [Session.stage_turn delivery found awaited] at ended
        split at ended
        · next same =>
          rcases outcome with ⟨fault, faulty, -⟩ | ⟨running, -⟩
          · rw [same]
            exact ⟨fault, delivery, List.mem_append_right _ (List.mem_singleton_self _), faulty⟩
          · exact absurd ended running
        · exact endedStill other ended
      · intro cause stopped
        rw [Session.turn_status] at stopped
        rcases outcome with ⟨fault, faulty, failed⟩ | ⟨-, same⟩
        · rw [failed] at stopped
          cases stopped
          exact .inr ⟨loop, fault,
            ⟨delivery, List.mem_append_right _ (List.mem_singleton_self _), faulty⟩, rfl⟩
        · rw [same] at stopped
          exact causeStill cause stopped
  | _ =>
      cases moved
      exact ⟨endedStill, causeStill⟩

end Replica

namespace Replicas

variable {Value : Type} [Storable Value]

/-- All that a log holds can be read, and nothing but the log or a shutdown stops a store on it. -/
structure Undamaged (replicas : Replicas Value) : Prop where
  readable : ∀ record ∈ replicas.log.records, record.isReadable Value
  undamaged : ∀ replica ∈ replicas.stores, replica.Undamaged

theorem undamaged_fresh (name : String) (base : Nat) :
    Undamaged (fresh name base : Replicas Value) where
  readable _ member := by cases member
  undamaged _ member := by cases member

/-- What an event appends can be read. -/
def Readable (Value : Type) [Storable Value] (event : ReplicasEvent) : Prop :=
  ∀ key bytes timestamp, event = .append key (some bytes) timestamp →
    (Store.decodeValue bytes : Option Value).isSome

theorem Undamaged.step {replicas next : Replicas Value} (undamaged : Undamaged replicas)
    (sound : Sound replicas) {event : ReplicasEvent} (readable : Readable Value event)
    (stepped : replicas.step event = some next) : Undamaged next := by
  cases event with
  | append key value timestamp =>
      cases stepped
      refine ⟨?_, undamaged.undamaged⟩
      intro record member
      rcases List.mem_append.mp member with before | new
      · exact undamaged.readable record before
      · rw [List.mem_singleton.mp new]
        cases value with
        | none => rfl
        | some bytes => exact readable key bytes timestamp rfl
  | create limits =>
      cases stepped
      refine ⟨undamaged.readable, ?_⟩
      intro replica member
      rcases List.mem_append.mp member with before | new
      · exact undamaged.undamaged replica before
      · rw [List.mem_singleton.mp new]
        exact Replica.undamaged_fresh replicas.log limits
  | act store event =>
      rcases step_act stepped with ⟨replica, moved, found, went, rfl⟩
      refine ⟨undamaged.readable, ?_⟩
      intro other member
      rcases List.mem_or_eq_of_mem_set member with before | rfl
      · exact undamaged.undamaged other before
      · have held := List.mem_of_getElem? found
        exact (undamaged.undamaged replica held).step (sound.told replica held) sound.gapless
          undamaged.readable went

theorem Undamaged.run {replicas last : Replicas Value} (undamaged : Undamaged replicas)
    (sound : Sound replicas) {events : List ReplicasEvent}
    (readable : ∀ event ∈ events, Readable Value event)
    (ran : run replicas events = some last) : Undamaged last := by
  induction events using List.reverseRecOn generalizing last with
  | nil =>
      cases ran
      exact undamaged
  | append_singleton earlier event induction =>
      rcases run_append_singleton ran with ⟨before, reached, stepped⟩
      have earlierReadable (other : ReplicasEvent) (member : other ∈ earlier) :=
        readable other (List.mem_append_left _ member)
      exact (induction earlierReadable reached).step (sound.run reached)
        (readable event (List.mem_append_right _ (List.mem_singleton_self event))) stepped

end Replicas

namespace Resource

/-- A store of the kind reads what such stores write, now and at every restart. -/
structure ReadsWritten (Value : Type) [Resource Value] : Prop where
  back : ∀ value : Value, IsDated value →
    Store.decodeValue (Store.encodeValue value) = some value
  /-- Over a log of puts and deletes of the kind, nothing but a shutdown or a fault of the log ends
  a loop or stops a store. -/
  undamaged : ∀ name base events (replicas : Replicas Value),
    (∀ key bytes timestamp, .append key bytes timestamp ∈ events → IsWritten Value bytes) →
    Replicas.run (.fresh name base) events = some replicas →
    (∀ record ∈ replicas.log.records, record.isReadable Value) ∧
    ∀ replica ∈ replicas.stores,
      (∀ loop, replica.session.stage loop = some .ended →
        ∃ fault, replica.Refused loop fault) ∧
      ∀ cause ∈ replica.session.store.status.fatal,
        cause = .shutDown ∨ ∃ loop fault, replica.Refused loop fault ∧ cause = .other fault.message

theorem IsFaithful.reads_written {Value : Type} [Resource Value] (faithful : IsFaithful Value)
    (keeps : KeepsCreation Value) : ReadsWritten Value where
  back _ := faithful.decode_dated keeps
  undamaged name base events replicas written ran := by
    have readable (event : ReplicasEvent) (member : event ∈ events) :
        Replicas.Readable Value event := by
      rintro key bytes timestamp rfl
      rcases written key (some bytes) timestamp member with ⟨value, dated, same⟩
      rcases Option.map_eq_some_iff.mp same.symm with ⟨resource, isValue, encoded⟩
      rw [← encoded, faithful.decode_dated keeps (dated resource isValue)]
      rfl
    have whole := (Replicas.undamaged_fresh name base).run (Replicas.sound_fresh name base) readable
      ran
    exact ⟨whole.readable, fun replica member =>
      ⟨(whole.undamaged replica member).ended, (whole.undamaged replica member).cause⟩⟩

/-- What is written for a resource of any kind is read back as an equal one, so no record of a put
or a delete stops a store of its kind, however often one is opened. -/
theorem kinds_read_written : ReadsWritten Tenant ∧ ReadsWritten AccessControlEntry ∧
    ReadsWritten Stream ∧ ReadsWritten Connector ∧ ReadsWritten RoleBinding :=
  ⟨Tenant.is_faithful.reads_written ⟨fun _ => rfl, fun _ _ => rfl⟩,
    AccessControlEntry.is_faithful.reads_written ⟨fun _ => rfl, fun _ _ => rfl⟩,
    Stream.is_faithful.reads_written ⟨fun _ => rfl, fun _ _ => rfl⟩,
    Connector.is_faithful.reads_written ⟨fun _ => rfl, fun _ _ => rfl⟩,
    RoleBinding.is_faithful.reads_written ⟨fun _ => rfl, fun _ _ => rfl⟩⟩

/-- A stream with a line break in its name, made a nanosecond after a full second. -/
def brokenOrders : Stream where
  metadata :=
    { name := "or\nders"
      namespaceName := "mill"
      creation := Instant.ofText "2026-10-17T08:30:00.000000001Z" }

/-- The stream is put and deleted. One store is shut down between the two, and the next replays
both. -/
def putAndDeleted : List ReplicasEvent :=
  [.append "mill/or\nders" (some (Store.encodeValue brokenOrders)) 0, .create {}, .act 0 .start,
    .act 0 (.answer 0 (.low (.ok 0))), .act 0 (.answer 0 (.high (.ok 1))),
    .act 0 (.answer 0 (.batch (.ok
      [⟨0, "mill/or\nders", some (Store.encodeValue brokenOrders), 0⟩]))),
    .act 0 .shutDown, .append "mill/or\nders" none 0, .create {}, .act 1 .start,
    .act 1 (.answer 0 (.low (.ok 0))), .act 1 (.answer 0 (.high (.ok 2))),
    .act 1 (.answer 0 (.batch (.ok
      [⟨0, "mill/or\nders", some (Store.encodeValue brokenOrders), 0⟩,
        ⟨1, "mill/or\nders", none, 0⟩])))]

theorem kinds_read_written_restart :
    Store.decodeValue (Store.encodeValue brokenOrders) = some brokenOrders ∧
      ∃ replicas : Replicas Stream,
        Replicas.run (.fresh "streams" 0) putAndDeleted = some replicas ∧
        ∀ replica ∈ replicas.stores, ∀ cause ∈ replica.session.store.status.fatal,
          cause = .shutDown ∨
            ∃ loop fault, replica.Refused loop fault ∧ cause = .other fault.message := by
  have dated : IsDated brokenOrders := fun instant made => ⟨_, made⟩
  have streams := kinds_read_written.2.2.1
  have runs : (Replicas.run (.fresh "streams" 0) putAndDeleted : Option (Replicas Stream)).isSome :=
    by decide +kernel
  rcases Option.isSome_iff_exists.mp runs with ⟨replicas, ran⟩
  have written (key : String) (bytes : Option (List UInt8)) (timestamp : Int)
      (member : .append key bytes timestamp ∈ putAndDeleted) : IsWritten Stream bytes := by
    simp only [putAndDeleted, List.mem_cons, ReplicasEvent.append.injEq, reduceCtorEq, false_or,
      List.not_mem_nil, or_false] at member
    rcases member with ⟨-, rfl, -⟩ | ⟨-, rfl, -⟩
    · refine ⟨some brokenOrders, ?_, rfl⟩
      rintro resource ⟨⟩
      exact dated
    · refine ⟨none, ?_, rfl⟩
      rintro resource ⟨⟩
  have whole := (streams.undamaged "streams" 0 putAndDeleted replicas written ran).2
  exact ⟨streams.back brokenOrders dated, replicas, ran, fun replica member =>
    (whole replica member).2⟩

end Resource

end BrokerTenancy
