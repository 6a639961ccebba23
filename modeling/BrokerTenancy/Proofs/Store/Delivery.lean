import BrokerTenancy.Proofs.Store.Replay

/-!
What one answer of the log does to a store. There is one equation for each kind of answer, so that
what holds along a run never opens `Store.deliver`.
-/

namespace BrokerTenancy

namespace Delivery

def fault : Delivery → Option Fault
  | .low (.error fault) => some fault
  | .high (.error fault) => some fault
  | .batch (.error fault) => some fault
  | _ => none

end Delivery

namespace LoopStage

/-- Whether the loop waits for an answer of this kind. -/
def awaits : LoopStage → Delivery → Bool
  | .askingLow, .low _ => true
  | .askingHigh _, .high _ => true
  | .replaying _ _ _, .batch _ => true
  | .following _, .batch _ => true
  | _, _ => false

/-- The offset of the record that the loop takes next. -/
def expects : LoopStage → Option Nat
  | .replaying _ position _ => some position
  | .following position => some position
  | _ => none

/-- Where a loop goes on that has taken every record below an offset. -/
def advance (position : Nat) : LoopStage → LoopStage
  | .replaying low _ target =>
      if position < target then .replaying low position target else .following position
  | _ => .following position

/-- Whether a loop ends its replay by taking every record below an offset. -/
def completes (position : Nat) : LoopStage → Bool
  | .replaying _ _ target => target ≤ position
  | _ => false

theorem advance_expects (stage : LoopStage) (position : Nat) :
    (stage.advance position).expects = some position := by
  cases stage with
  | replaying low start target =>
      rw [advance]
      split <;> rfl
  | _ => rfl

theorem advance_of_completes {stage : LoopStage} {position : Nat}
    (atEnd : stage.completes position) : stage.advance position = .following position := by
  cases stage with
  | replaying low start target =>
      have reached : target ≤ position := by simpa [completes] using atEnd
      rw [advance, if_neg (Nat.not_lt.mpr reached)]
  | _ => simp [completes] at atEnd

theorem advance_ne_ended (stage : LoopStage) (position : Nat) :
    stage.advance position ≠ .ended := by
  intro same
  have expected := stage.advance_expects position
  rw [same] at expected
  simp [expects] at expected

/-- The kinds of answers that a loop waits for. -/
theorem awaited_cases (stage : LoopStage) (delivery : Delivery) (awaited : stage.awaits delivery) :
    (∃ fault, delivery.fault = some fault) ∨
      (∃ low, stage = .askingLow ∧ delivery = .low (.ok low)) ∨
      (∃ low high, stage = .askingHigh low ∧ delivery = .high (.ok high)) ∨
      ∃ position batch, stage.expects = some position ∧ delivery = .batch (.ok batch) := by
  cases delivery with
  | low answer =>
      cases answer with
      | error fault => exact .inl ⟨fault, rfl⟩
      | ok low => cases stage <;> simp_all [awaits]
  | high answer =>
      cases answer with
      | error fault => exact .inl ⟨fault, rfl⟩
      | ok high => cases stage <;> simp_all [awaits]
  | batch answer =>
      cases answer with
      | error fault => exact .inl ⟨fault, rfl⟩
      | ok batch => cases stage <;> simp_all [awaits, expects]

end LoopStage

namespace Store

variable {Value : Type} [Storable Value] {succ : Nat → Nat}

omit [Storable Value] in
theorem start_status (store : Store Value) : store.start.status = store.status := by
  cases held : store.loop <;> simp [start, held]

omit [Storable Value] in
theorem replay_on_eq (low target : Nat) (store : Store Value) (position start : Nat) :
    ∃ replayed, replayOn low target store position =
      { store with
        loop := some ((LoopStage.replaying low start target).advance position)
        status :=
          { store.status with
            ready := store.status.ready ||
              (LoopStage.replaying low start target).completes position
            replayed } } := by
  by_cases short : position < target
  · have unfinished : ¬target ≤ position := by omega
    refine ⟨store.status.replayed, ?_⟩
    simp [replayOn, LoopStage.advance, LoopStage.completes, short, unfinished]
  · have atEnd : target ≤ position := by omega
    refine ⟨position - low, ?_⟩
    simp [replayOn, LoopStage.advance, LoopStage.completes, short, atEnd]

theorem deliver_fault (store : Store Value) (stage : LoopStage) (delivery : Delivery)
    (fault : Fault) (running : store.loop = some stage) (awaited : stage.awaits delivery)
    (faulty : delivery.fault = some fault) : store.deliver delivery succ = store.fail fault := by
  cases delivery with
  | low answer =>
      cases answer <;> cases stage <;> simp_all [deliver, LoopStage.awaits, Delivery.fault]
  | high answer =>
      cases answer <;> cases stage <;> simp_all [deliver, LoopStage.awaits, Delivery.fault]
  | batch answer =>
      cases answer <;> cases stage <;> simp_all [deliver, LoopStage.awaits, Delivery.fault]

theorem deliver_low (store : Store Value) (low : Nat) (running : store.loop = some .askingLow) :
    store.deliver (.low (.ok low)) succ = { store with loop := some (.askingHigh low) } := by
  simp [deliver, running]

/-- The high watermark starts the replay, or ends it at once if there is nothing to replay. -/
theorem deliver_high (store : Store Value) (low high : Nat)
    (running : store.loop = some (.askingHigh low)) :
    ∃ replayed, store.deliver (.high (.ok high)) succ =
      { store with
        loop := some ((LoopStage.replaying low low high).advance low)
        status :=
          { store.status with
            applied := low
            ready := store.status.ready || (LoopStage.replaying low low high).completes low
            replayed } } := by
  obtain ⟨replayed, same⟩ := replay_on_eq low high (store.publish low) low low
  refine ⟨replayed, ?_⟩
  simp only [deliver, running]
  rw [same]
  rfl

/-- The offset that is published once a batch is taken; nothing is published for no records. -/
def appliedAfter (store : Store Value) (position : Nat) (batch : List Record)
    (succ : Nat → Nat := (· + 1)) : Nat :=
  if batch.isEmpty then store.status.applied else succ^[batch.length] position

theorem take_batch_taken (store : Store Value) (position : Nat) (batch : List Record)
    (proceed : Store Value → Nat → Store Value)
    (whole : takeable Value position batch succ = batch) :
    store.takeBatch position batch proceed succ =
      proceed
        { store with
          snapshot := takeRecords store.snapshot batch
          status := { store.status with applied := store.appliedAfter position batch succ } }
        (succ^[batch.length] position) := by
  cases batch with
  | nil => rfl
  | cons record rest =>
      simp only [takeBatch, absorb, apply_batch_whole _ _ _ _ whole]
      rfl

theorem take_batch_stopped (store : Store Value) (position : Nat) (batch : List Record)
    (proceed : Store Value → Nat → Store Value)
    (broken : takeable Value position batch succ ≠ batch) :
    ∃ fault, store.takeBatch position batch proceed succ =
      { store with
        snapshot := takeRecords store.snapshot (takeable Value position batch succ) }.fail
          fault := by
  obtain ⟨fault, applied⟩ := apply_batch_broken store.name position store.snapshot batch broken
  cases batch with
  | nil => exact absurd rfl broken
  | cons record rest =>
      refine ⟨fault, ?_⟩
      simp only [takeBatch, absorb, applied]
      rfl

/-- A batch that can be taken whole goes into the snapshot, and the loop goes on behind it. -/
theorem deliver_batch_taken (store : Store Value) (stage : LoopStage) (position : Nat)
    (batch : List Record) (running : store.loop = some stage)
    (expected : stage.expects = some position)
    (whole : takeable Value position batch succ = batch) :
    ∃ replayed, store.deliver (.batch (.ok batch)) succ =
      { store with
        snapshot := takeRecords store.snapshot batch
        loop := some (stage.advance (succ^[batch.length] position))
        status :=
          { store.status with
            applied := store.appliedAfter position batch succ
            ready := store.status.ready || stage.completes (succ^[batch.length] position)
            replayed } } := by
  cases stage with
  | replaying low start target =>
      have same : start = position := by simpa [LoopStage.expects] using expected
      subst same
      simp only [deliver, running, take_batch_taken store start batch _ whole]
      exact replay_on_eq low target _ (succ^[batch.length] start) start
  | following start =>
      have same : start = position := by simpa [LoopStage.expects] using expected
      subst same
      refine ⟨store.status.replayed, ?_⟩
      simp [deliver, running, take_batch_taken store start batch _ whole, followOn,
        LoopStage.advance, LoopStage.completes]
  | _ => simp [LoopStage.expects] at expected

/-- A batch with a record that cannot be taken stops the loop and the store; the records in front
of it are in the snapshot, and nothing is published. -/
theorem deliver_batch_stopped (store : Store Value) (stage : LoopStage) (position : Nat)
    (batch : List Record) (running : store.loop = some stage)
    (expected : stage.expects = some position)
    (broken : takeable Value position batch succ ≠ batch) :
    ∃ fault, store.deliver (.batch (.ok batch)) succ =
      { store with
        snapshot := takeRecords store.snapshot (takeable Value position batch succ) }.fail
          fault := by
  cases stage with
  | replaying low start target =>
      have same : start = position := by simpa [LoopStage.expects] using expected
      subst same
      simp only [deliver, running]
      exact take_batch_stopped store start batch _ broken
  | following start =>
      have same : start = position := by simpa [LoopStage.expects] using expected
      subst same
      simp only [deliver, running]
      exact take_batch_stopped store start batch _ broken
  | _ => simp [LoopStage.expects] at expected

/-- All that an answer can do to a store whose loop waits for it. -/
theorem deliver_cases (store : Store Value) (stage : LoopStage) (delivery : Delivery)
    (running : store.loop = some stage) (awaited : stage.awaits delivery) :
    (∃ fault, delivery.fault = some fault ∧ store.deliver delivery succ = store.fail fault) ∨
      (∃ low, stage = .askingLow ∧ delivery = .low (.ok low) ∧
        store.deliver delivery succ = { store with loop := some (.askingHigh low) }) ∨
      (∃ low high replayed, stage = .askingHigh low ∧ delivery = .high (.ok high) ∧
        store.deliver delivery succ =
          { store with
            loop := some ((LoopStage.replaying low low high).advance low)
            status :=
              { store.status with
                applied := low
                ready := store.status.ready || (LoopStage.replaying low low high).completes low
                replayed } }) ∨
      (∃ position batch replayed, stage.expects = some position ∧ delivery = .batch (.ok batch) ∧
        takeable Value position batch succ = batch ∧
        store.deliver delivery succ =
          { store with
            snapshot := takeRecords store.snapshot batch
            loop := some (stage.advance (succ^[batch.length] position))
            status :=
              { store.status with
                applied := store.appliedAfter position batch succ
                ready := store.status.ready || stage.completes (succ^[batch.length] position)
                replayed } }) ∨
      ∃ position batch fault, stage.expects = some position ∧ delivery = .batch (.ok batch) ∧
        takeable Value position batch succ ≠ batch ∧
        store.deliver delivery succ =
          { store with
            snapshot := takeRecords store.snapshot (takeable Value position batch succ) }.fail
              fault := by
  obtain ⟨fault, faulty⟩ | ⟨low, isLow, told⟩ | ⟨low, high, isHigh, told⟩ |
    ⟨position, batch, expected, told⟩ := stage.awaited_cases delivery awaited
  · exact .inl ⟨fault, faulty, deliver_fault store stage delivery fault running awaited faulty⟩
  · subst isLow told
    exact .inr (.inl ⟨low, rfl, rfl, deliver_low store low running⟩)
  · subst isHigh told
    obtain ⟨replayed, moved⟩ := deliver_high store low high running
    exact .inr (.inr (.inl ⟨low, high, replayed, rfl, rfl, moved⟩))
  · subst told
    by_cases whole : takeable Value position batch succ = batch
    · obtain ⟨replayed, moved⟩ :=
        deliver_batch_taken store stage position batch running expected whole
      exact .inr (.inr (.inr (.inl ⟨position, batch, replayed, expected, rfl, whole, moved⟩)))
    · obtain ⟨fault, moved⟩ :=
        deliver_batch_stopped store stage position batch running expected whole
      exact .inr (.inr (.inr (.inr ⟨position, batch, fault, expected, rfl, whole, moved⟩)))

theorem deliver_loop (store : Store Value) (stage : LoopStage) (delivery : Delivery)
    (running : store.loop = some stage) (awaited : stage.awaits delivery) :
    ∃ after, (store.deliver delivery succ).loop = some after := by
  obtain ⟨fault, -, moved⟩ | ⟨low, -, -, moved⟩ | ⟨low, high, replayed, -, -, moved⟩ |
    ⟨position, batch, replayed, -, -, -, moved⟩ | ⟨position, batch, fault, -, -, -, moved⟩ :=
      deliver_cases store stage delivery running awaited
  all_goals rw [moved]
  all_goals exact ⟨_, rfl⟩

theorem deliver_ended (store : Store Value) (stage : LoopStage) (delivery : Delivery)
    (running : store.loop = some stage) (awaited : stage.awaits delivery)
    (ended : (store.deliver delivery succ).loop = some .ended) :
    (store.deliver delivery succ).status.fatal.isSome := by
  obtain ⟨fault, -, moved⟩ | ⟨low, -, -, moved⟩ | ⟨low, high, replayed, -, -, moved⟩ |
    ⟨position, batch, replayed, -, -, -, moved⟩ | ⟨position, batch, fault, -, -, -, moved⟩ :=
      deliver_cases store stage delivery running awaited
  · rw [moved]
    rfl
  · simp [moved] at ended
  · rw [moved] at ended
    exact absurd (Option.some_inj.mp ended) (LoopStage.advance_ne_ended _ _)
  · rw [moved] at ended
    exact absurd (Option.some_inj.mp ended) (LoopStage.advance_ne_ended _ _)
  · rw [moved]
    rfl

theorem deliver_fatal (store : Store Value) (stage : LoopStage) (delivery : Delivery)
    (running : store.loop = some stage) (awaited : stage.awaits delivery)
    (stopped : store.status.fatal.isSome) : (store.deliver delivery succ).status.fatal.isSome := by
  obtain ⟨fault, -, moved⟩ | ⟨low, -, -, moved⟩ | ⟨low, high, replayed, -, -, moved⟩ |
    ⟨position, batch, replayed, -, -, -, moved⟩ | ⟨position, batch, fault, -, -, -, moved⟩ :=
      deliver_cases store stage delivery running awaited
  all_goals rw [moved]
  · rfl
  · exact stopped
  · exact stopped
  · exact stopped
  · rfl

end Store

end BrokerTenancy
