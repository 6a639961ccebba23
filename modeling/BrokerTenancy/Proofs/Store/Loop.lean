import BrokerTenancy.Proofs.Store.Delivery

/-!
The history of one loop: what the log told it and what it published. A loop that has not ended has
taken every record that it heard of, at gapless offsets from the low watermark on. One that has
ended published no offset beyond the first record that it could not take.
-/

namespace BrokerTenancy

namespace Delivery

def lows : Delivery → List Nat
  | .low (.ok offset) => [offset]
  | _ => []

def records : Delivery → List Record
  | .batch (.ok delivered) => delivered
  | _ => []

theorem lows_of_fault {delivery : Delivery} {fault : Fault} (faulty : delivery.fault = some fault) :
    delivery.lows = [] := by
  cases delivery with
  | low answer => cases answer <;> simp_all [Delivery.fault, lows]
  | _ => rfl

theorem records_of_fault {delivery : Delivery} {fault : Fault}
    (faulty : delivery.fault = some fault) : delivery.records = [] := by
  cases delivery with
  | batch answer => cases answer <;> simp_all [Delivery.fault, records]
  | _ => rfl

end Delivery

namespace Store

variable {Value : Type} [Storable Value] {succ : Nat → Nat}

/-- The offset that a store publishes by taking an answer, if it publishes one. -/
def publication (store : Store Value) (delivery : Delivery) (succ : Nat → Nat := (· + 1)) :
    Option Nat :=
  match store.loop, delivery with
  | some (.askingHigh low), .high (.ok _) => some low
  | some stage, .batch (.ok batch) =>
      stage.expects.bind fun position =>
        if batch.isEmpty then none else (store.absorb position batch succ).2.toOption
  | _, _ => none

theorem publication_of_fault (store : Store Value) {delivery : Delivery} {fault : Fault}
    (faulty : delivery.fault = some fault) : store.publication delivery succ = none := by
  cases delivery with
  | low answer => cases held : store.loop <;> simp [publication, held]
  | high answer =>
      cases answer with
      | error cause => cases held : store.loop <;> simp [publication, held]
      | ok high => simp [Delivery.fault] at faulty
  | batch answer =>
      cases answer with
      | error cause => cases held : store.loop <;> simp [publication, held]
      | ok batch => simp [Delivery.fault] at faulty

theorem publication_batch (store : Store Value) (stage : LoopStage) (position : Nat)
    (batch : List Record) (running : store.loop = some stage)
    (expected : stage.expects = some position) :
    store.publication (.batch (.ok batch)) succ =
      if batch ≠ [] ∧ takeable Value position batch succ = batch then
        some (succ^[batch.length] position)
      else none := by
  have unfolded : store.publication (.batch (.ok batch)) succ =
      if batch.isEmpty then none else (store.absorb position batch succ).2.toOption := by
    simp [publication, running, expected]
  rw [unfolded]
  cases batch with
  | nil => rfl
  | cons record rest =>
      rw [List.isEmpty_cons, if_neg Bool.false_ne_true]
      by_cases whole : takeable Value position (record :: rest) succ = record :: rest
      · rw [if_pos ⟨List.cons_ne_nil record rest, whole⟩]
        simp only [absorb, apply_batch_whole _ _ _ _ whole]
        rfl
      · obtain ⟨fault, applied⟩ :=
          apply_batch_broken store.name position store.snapshot (record :: rest) whole
        rw [if_neg fun both => whole both.2]
        simp only [absorb, applied]
        rfl

/-- Taking an answer changes the published offset exactly if the answer publishes one. -/
theorem applied_deliver (store : Store Value) (stage : LoopStage) (delivery : Delivery)
    (running : store.loop = some stage) (awaited : stage.awaits delivery) :
    (store.deliver delivery succ).status.applied =
      (store.publication delivery succ).getD store.status.applied := by
  obtain ⟨fault, faulty, moved⟩ | ⟨low, isLow, told, moved⟩ |
    ⟨low, high, replayed, isHigh, told, moved⟩ |
    ⟨position, batch, replayed, expected, told, whole, moved⟩ |
    ⟨position, batch, fault, expected, told, broken, moved⟩ :=
      deliver_cases store stage delivery running awaited
  · rw [moved, publication_of_fault store faulty]
    rfl
  · subst isLow told
    rw [moved]
    simp [publication, running]
  · subst isHigh told
    rw [moved]
    simp [publication, running]
  · subst told
    rw [moved, publication_batch store stage position batch running expected]
    by_cases empty : batch = []
    · simp [appliedAfter, empty]
    · simp [appliedAfter, empty, whole]
  · subst told
    rw [moved, publication_batch store stage position batch running expected,
      if_neg fun both => broken both.2]
    rfl

theorem absorb_counted (store : Store Value) (position : Nat) {batch : List Record}
    (rising : ∀ record ∈ batch, succ record.offset = record.offset + 1) :
    store.absorb position batch succ = store.absorb position batch := by
  simp only [absorb, apply_batch_counted store.name position store.snapshot batch rising]

/-- What comes behind the last offset matters only to an answer with a record there. -/
theorem deliver_counted (store : Store Value) (stage : LoopStage) (delivery : Delivery)
    (running : store.loop = some stage) (awaited : stage.awaits delivery)
    (rising : ∀ record ∈ delivery.records, succ record.offset = record.offset + 1) :
    store.deliver delivery succ = store.deliver delivery ∧
      store.publication delivery succ = store.publication delivery := by
  rcases stage.awaited_cases delivery awaited with
    ⟨fault, faulty⟩ | ⟨low, rfl, rfl⟩ | ⟨low, high, rfl, rfl⟩ | ⟨position, batch, expected, rfl⟩
  · constructor
    · rw [deliver_fault store stage delivery fault running awaited faulty,
        deliver_fault store stage delivery fault running awaited faulty]
    · rw [publication_of_fault store faulty, publication_of_fault store faulty]
  · constructor
    · rw [deliver_low store low running, deliver_low store low running]
    · simp only [publication, running]
  · simp only [deliver, publication, running, and_self]
  · have absorbed (position : Nat) :
        store.absorb position batch succ = store.absorb position batch :=
      store.absorb_counted position rising
    constructor
    · cases stage with
      | replaying low start target => simp only [deliver, running, takeBatch, absorbed]
      | following start => simp only [deliver, running, takeBatch, absorbed]
      | _ => cases expected
    · simp only [publication, running, absorbed]

end Store

/-- What one loop heard from its log, and the offsets that it published. -/
structure LoopHistory where
  lows : List Nat := []
  records : List Record := []
  published : List Nat := []

namespace LoopHistory

variable (Value : Type) [Storable Value] (succ : Nat → Nat)

def hear (history : LoopHistory) (delivery : Delivery) (publication : Option Nat) : LoopHistory :=
  { lows := history.lows ++ delivery.lows
    records := history.records ++ delivery.records
    published := history.published ++ publication.toList }

/-- A loop that expects the record at `position` took all records that it heard of. -/
structure InStep (history : LoopHistory) (low position : Nat) : Prop where
  lows : history.lows = [low]
  whole : Store.takeable Value low history.records succ = history.records
  place : position = succ^[history.records.length] low
  /-- What was published is where the loop stood. -/
  published : ∀ offset ∈ history.published,
    ∃ count ≤ history.records.length, offset = succ^[count] low

/-- No offset was published beyond the first record that cannot be taken. -/
def Bounded (history : LoopHistory) : Prop :=
  ∀ low, history.lows = [low] → ∀ offset ∈ history.published,
    ∃ count ≤ (Store.takeable Value low history.records succ).length, offset = succ^[count] low

/-- A loop stands where its history puts it. -/
def Explains (history : LoopHistory) : Option LoopStage → Prop
  | none => history = {}
  | some .askingLow => history = {}
  | some (.askingHigh low) => history = { lows := [low] }
  | some (.replaying low position _) => history.InStep Value succ low position
  | some (.following position) => ∃ low, history.InStep Value succ low position
  | some .ended => history.Bounded Value succ

variable {Value succ}

theorem InStep.bounded {history : LoopHistory} {low position : Nat}
    (inStep : history.InStep Value succ low position) : history.Bounded Value succ := by
  intro other told offset member
  have same : low = other := by simpa [inStep.lows] using told
  subst same
  rw [inStep.whole]
  exact inStep.published offset member

/-- Unless the count began again, no number was published above the count of the taken records. -/
theorem Bounded.le {history : LoopHistory} {low : Nat} (bounded : history.Bounded Value succ)
    (told : history.lows = [low])
    (rising : ∀ record ∈ Store.takeable Value low history.records succ,
      succ record.offset = record.offset + 1) :
    ∀ offset ∈ history.published,
      offset ≤ low + (Store.takeable Value low history.records succ).length := by
  intro offset member
  obtain ⟨count, inside, rfl⟩ := bounded low told offset member
  have consecutive : Record.Consecutive succ low (Store.takeable Value low history.records succ) :=
    Store.takeable_consecutive Value low history.records
  rw [(consecutive.counted rising).2 count inside]
  exact Nat.add_le_add_left inside low

theorem InStep.consecutive {history : LoopHistory} {low position : Nat}
    (inStep : history.InStep Value succ low position) :
    Record.Consecutive succ low history.records := by
  rw [← inStep.whole]
  exact Store.takeable_consecutive Value low history.records

theorem InStep.le {history : LoopHistory} {low position : Nat}
    (inStep : history.InStep Value succ low position)
    (rising : ∀ record ∈ history.records, succ record.offset = record.offset + 1) :
    ∀ offset ∈ history.published, offset ≤ position := by
  have bounds := inStep.bounded.le inStep.lows
  rw [inStep.whole] at bounds
  rw [inStep.place, (inStep.consecutive.counted rising).2 _ (Nat.le_refl _)]
  exact bounds rising

theorem explains_of_in_step {history : LoopHistory} {low position : Nat} (stage : LoopStage)
    (inStep : history.InStep Value succ low position) (begun : ∀ start stop target,
      stage = .replaying start stop target → start = low) :
    history.Explains Value succ (some (stage.advance position)) := by
  cases stage with
  | replaying start stop target =>
      have same : start = low := begun start stop target rfl
      subst same
      rw [LoopStage.advance]
      split
      · exact inStep
      · exact ⟨start, inStep⟩
  | _ => exact ⟨low, inStep⟩

/-- A loop that has not ended has heard of nothing that it could not take. -/
theorem whole_of_explains {history : LoopHistory} {stage : LoopStage} {low : Nat}
    (explains : history.Explains Value succ (some stage)) (running : stage ≠ .ended)
    (told : history.lows = [low]) :
    Store.takeable Value low history.records succ = history.records := by
  cases stage with
  | askingLow =>
      have empty : history = {} := explains
      simp [empty] at told
  | askingHigh start =>
      have first : history = { lows := [start] } := explains
      rw [first]
      rfl
  | replaying start position target =>
      have inStep : history.InStep Value succ start position := explains
      have same : start = low := by simpa [inStep.lows] using told
      exact same ▸ inStep.whole
  | following position =>
      obtain ⟨start, inStep⟩ := explains
      have same : start = low := by simpa [inStep.lows] using told
      exact same ▸ inStep.whole
  | ended => exact absurd rfl running

theorem bounded_of_explains {history : LoopHistory} {stage : Option LoopStage}
    (explains : history.Explains Value succ stage) : history.Bounded Value succ := by
  cases stage with
  | none =>
      have empty : history = {} := explains
      simp [Bounded, empty]
  | some stage =>
      cases stage with
      | askingLow =>
          have empty : history = {} := explains
          simp [Bounded, empty]
      | askingHigh start =>
          have first : history = { lows := [start] } := explains
          simp [Bounded, first]
      | replaying start position target => exact InStep.bounded explains
      | following position =>
          obtain ⟨start, inStep⟩ := explains
          exact inStep.bounded
      | ended => exact explains

theorem InStep.hear_taken {history : LoopHistory} {low position : Nat}
    (inStep : history.InStep Value succ low position) (batch : List Record)
    (whole : Store.takeable Value position batch succ = batch) (publication : Option Nat)
    (published : ∀ offset ∈ publication, offset = succ^[batch.length] position) :
    (history.hear (.batch (.ok batch)) publication).InStep Value succ low
      (succ^[batch.length] position) := by
  have place : succ^[batch.length] position = succ^[(history.records ++ batch).length] low := by
    rw [inStep.place, List.length_append, Nat.add_comm, Function.iterate_add_apply]
  refine ⟨?_, ?_, place, ?_⟩
  · simp [hear, Delivery.lows, inStep.lows]
  · simp only [hear, Delivery.records]
    rw [Store.takeable_append Value low history.records batch inStep.whole, ← inStep.place, whole]
  · intro offset member
    obtain before | now := List.mem_append.mp member
    · obtain ⟨count, inside, stood⟩ := inStep.published offset before
      refine ⟨count, Nat.le_trans inside ?_, stood⟩
      simp [hear, Delivery.records]
    · have stands := published offset (by simpa using now)
      exact ⟨(history.records ++ batch).length, Nat.le_refl _, stands.trans place⟩

/-- A batch that is not taken whole ends the loop, and nothing is published. -/
theorem InStep.hear_broken {history : LoopHistory} {low position : Nat}
    (inStep : history.InStep Value succ low position) (batch : List Record) :
    (history.hear (.batch (.ok batch)) none).Bounded Value succ := by
  intro other told offset member
  have same : low = other := by simpa [hear, Delivery.lows, inStep.lows] using told
  subst same
  obtain ⟨count, inside, stood⟩ := inStep.published offset (by simpa [hear] using member)
  refine ⟨count, Nat.le_trans inside ?_, stood⟩
  simp only [hear, Delivery.records]
  rw [Store.takeable_append Value low history.records batch inStep.whole, List.length_append]
  exact Nat.le_add_right _ _

theorem hear_fault (history : LoopHistory) {delivery : Delivery} {fault : Fault}
    (faulty : delivery.fault = some fault) : history.hear delivery none = history := by
  simp [hear, Delivery.lows_of_fault faulty, Delivery.records_of_fault faulty]

theorem in_step_of_expects {history : LoopHistory} {stage : LoopStage} {position : Nat}
    (explains : history.Explains Value succ (some stage))
    (expected : stage.expects = some position) :
    ∃ low, history.InStep Value succ low position ∧
      ∀ start stop target, stage = .replaying start stop target → start = low := by
  cases stage with
  | replaying start stop target =>
      have same : stop = position := by simpa [LoopStage.expects] using expected
      subst same
      refine ⟨start, explains, ?_⟩
      intro other stop goal isReplaying
      injection isReplaying with sameStart
      exact sameStart.symm
  | following stop =>
      have same : stop = position := by simpa [LoopStage.expects] using expected
      subst same
      obtain ⟨low, inStep⟩ := explains
      exact ⟨low, inStep, by simp⟩
  | _ => simp [LoopStage.expects] at expected

end LoopHistory

theorem LoopHistory.explains_deliver {Value : Type} [Storable Value] {succ : Nat → Nat}
    {history : LoopHistory} (store : Store Value) (stage : LoopStage) (delivery : Delivery)
    (running : store.loop = some stage) (awaited : stage.awaits delivery)
    (explains : history.Explains Value succ (some stage)) :
    (history.hear delivery (store.publication delivery succ)).Explains Value succ
      (store.deliver delivery succ).loop := by
  obtain ⟨fault, faulty, moved⟩ | ⟨low, isLow, told, moved⟩ |
    ⟨low, high, replayed, isHigh, told, moved⟩ |
    ⟨position, batch, replayed, expected, told, whole, moved⟩ |
    ⟨position, batch, fault, expected, told, broken, moved⟩ :=
      Store.deliver_cases store stage delivery running awaited
  · rw [moved, Store.publication_of_fault store faulty, hear_fault history faulty]
    exact bounded_of_explains explains
  · subst isLow told
    have empty : history = {} := explains
    rw [moved, empty]
    simp [Store.publication, running, hear, Delivery.lows, Delivery.records, Explains]
  · subst isHigh told
    have first : history = { lows := [low] } := explains
    -- Nothing is replayed yet, so the loop is in step at the low watermark.
    have inStep :
        (hear { lows := [low] } (.high (.ok high)) (some low)).InStep Value succ low low :=
      ⟨rfl, rfl, rfl, by simpa [hear] using ⟨0, Nat.zero_le _, rfl⟩⟩
    have published : store.publication (.high (.ok high)) succ = some low := by
      simp [Store.publication, running]
    rw [moved, first, published]
    refine explains_of_in_step _ inStep ?_
    intro start stop target isReplaying
    injection isReplaying with sameStart
    exact sameStart.symm
  · subst told
    obtain ⟨low, inStep, begun⟩ := in_step_of_expects explains expected
    rw [moved, Store.publication_batch store stage position batch running expected]
    refine explains_of_in_step stage (inStep.hear_taken batch whole _ ?_) begun
    intro offset member
    split at member
    · simpa using member.symm
    · simp at member
  · subst told
    obtain ⟨low, inStep, begun⟩ := in_step_of_expects explains expected
    rw [moved, Store.publication_batch store stage position batch running expected,
      if_neg fun both => broken both.2]
    exact inStep.hear_broken batch

end BrokerTenancy
