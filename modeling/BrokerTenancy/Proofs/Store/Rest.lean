import BrokerTenancy.Proofs.Store.Opening

/-!
A loop that is let run comes to rest, whatever its log is like: it waits at the end of what the log
delivers, or has ended. What it has taken by then are records of the log.
-/

namespace BrokerTenancy

theorem Record.slice_of_le {records : List Record} {position : Nat}
    (behind : records.length ≤ position) (limit : Nat) : slice records position limit = [] := by
  rw [slice, List.drop_eq_nil_of_le behind, List.take_nil]

/-- Where a read finds nothing, it finds one record at most after an append. -/
theorem Record.slice_grown {records : List Record} {position limit : Nat}
    (nothing : slice records position limit = []) (record : Record) :
    slice (records ++ [record]) position limit = [] ∨
      slice (records ++ [record]) position limit = [record] := by
  rcases Nat.eq_zero_or_pos limit with none | polling
  · left
    rw [none, slice, List.take_zero]
  have atEnd : records.length ≤ position := by
    by_contra ahead
    exact (HostedStore.slice_ahead (Nat.lt_of_not_le ahead) polling).1 nothing
  rcases Nat.lt_or_eq_of_le atEnd with behind | here
  · left
    apply slice_of_le
    rw [List.length_append]
    exact behind
  · right
    rw [slice, ← here, List.drop_left]
    exact List.take_of_length_le polling

namespace ResourceLog

/-- How a log answers reads. -/
inductive Reading where
  /-- With its records, the first of them at this offset at the earliest. -/
  | delivering (first : Nat)
  | silent
  | failing (fault : Fault)

def reading : ResourceLog → Reading
  | .memory log => if log.paused then .silent else .delivering 0
  | .file _ => .delivering 0
  | .scripted log =>
      match log.readMode with
      | .deliver => .delivering log.first
      | .pause => .silent
      | .fail => .failing (ScriptedLog.failure "read")

theorem read_eq (log : ResourceLog) (offset limit : Nat) :
    log.read offset limit =
      match log.reading with
      | .delivering first => .ok (Record.slice log.records (max offset first) limit)
      | .silent => .ok []
      | .failing fault => .error fault := by
  cases log with
  | memory log =>
      cases paused : log.paused with
      | true => simp [read, MemoryLog.read, MemoryLog.beginRead, MemoryLog.endRead, reading, paused]
      | false =>
          cases found : Record.slice log.records offset limit <;>
            simp [read, MemoryLog.read, MemoryLog.beginRead, MemoryLog.endRead,
              MemoryLog.available, reading, records, paused, found]
  | file log => simp [read, FileLog.read, reading, records]
  | scripted log =>
      cases mode : log.readMode <;> simp [read, ScriptedLog.read, reading, records, mode]

/-- A log delivers its own records, and none behind its last. -/
theorem read_delivers {log : ResourceLog} {offset limit : Nat} {batch : List Record}
    (delivered : log.read offset limit = .ok batch) :
    (∀ record ∈ batch, record ∈ log.records) ∧
      (batch ≠ [] → offset + batch.length ≤ log.records.length) := by
  rw [read_eq] at delivered
  cases kind : log.reading with
  | silent =>
      rw [kind] at delivered
      cases delivered
      exact ⟨nofun, fun filled => absurd rfl filled⟩
  | failing fault =>
      rw [kind] at delivered
      cases delivered
  | delivering first =>
      rw [kind] at delivered
      cases delivered
      constructor
      · intro record member
        exact List.mem_of_mem_drop (List.mem_of_mem_take member)
      · intro filled
        have longer := List.length_pos_iff.mpr filled
        simp only [Record.slice, List.length_take, List.length_drop] at longer ⊢
        omega

/-- The earliest offset that the log tells is not behind its end. -/
def BeginsWithin (log : ResourceLog) : Prop :=
  ∀ low, log.lowWatermark = .ok low → low ≤ log.records.length

/-- The record that an append writes, if it writes any. -/
def nextRecord (log : ResourceLog) (key : String) (value : Option (List UInt8))
    (timestamp : Int) : Record :=
  { offset := log.records.length, key, value, timestamp }

/-- An append leaves the log as it is or puts one record behind the others. -/
theorem append_cases (log : ResourceLog) (key : String) (value : Option (List UInt8))
    (timestamp : Int) :
    (log.append key value timestamp).1 = log ∨
      (log.append key value timestamp).1.records =
          log.records ++ [log.nextRecord key value timestamp] ∧
        (log.append key value timestamp).1.reading = log.reading := by
  cases log with
  | memory log =>
      cases rejecting : log.rejecting with
      | true => simp [append, MemoryLog.append, rejecting]
      | false =>
          right
          simp only [append, MemoryLog.append, rejecting]
          exact ⟨rfl, rfl⟩
  | file log =>
      cases readOnly : log.readOnly with
      | some faults => simp [append, FileLog.append, readOnly]
      | none =>
          right
          simp only [append, FileLog.append, readOnly]
          exact ⟨rfl, rfl⟩
  | scripted log =>
      cases mode : log.appendMode with
      | accept =>
          right
          simp only [append, ScriptedLog.append, mode]
          exact ⟨rfl, rfl⟩
      | reject | fail | hang => simp [append, ScriptedLog.append, mode]

theorem append_longer (log : ResourceLog) (key : String) (value : Option (List UInt8))
    (timestamp : Int) : log.records.length ≤ (log.append key value timestamp).1.records.length := by
  rcases log.append_cases key value timestamp with same | ⟨grown, -⟩
  · exact Nat.le_of_eq (congrArg (fun log => log.records.length) same.symm)
  · rw [grown, List.length_append]
    exact Nat.le_add_right _ _

/-- The offset that an append answers with is that of its record. -/
theorem append_ok {log : ResourceLog} {key : String} {value : Option (List UInt8)}
    {timestamp : Int} {offset : Nat}
    (answered : (log.append key value timestamp).2 = some (.ok offset)) :
    offset = log.records.length := by
  cases log with
  | memory log =>
      cases rejecting : log.rejecting <;>
        simp_all [append, MemoryLog.append, MemoryLog.push, records]
  | file log =>
      cases readOnly : log.readOnly <;>
        simp_all [append, FileLog.append, FileLog.write, FileLog.nextRecord, records]
  | scripted log =>
      cases mode : log.appendMode <;>
        simp_all [append, ScriptedLog.append, ScriptedLog.push, records]

/-- A reader at the end finds the appended record and nothing behind it, or nothing at all. -/
theorem read_append {log : ResourceLog} {position limit : Nat}
    (atEnd : log.read position limit = .ok []) (key : String) (value : Option (List UInt8))
    (timestamp : Int) :
    (log.append key value timestamp).1.read position limit = .ok [] ∨
      (log.append key value timestamp).1.read position limit =
          .ok [log.nextRecord key value timestamp] ∧
        (log.append key value timestamp).1.read (log.records.length + 1) limit = .ok [] := by
  rcases log.append_cases key value timestamp with same | ⟨grown, alike⟩
  · left
    rw [same]
    exact atEnd
  rw [read_eq] at atEnd
  simp only [read_eq, alike, grown]
  cases kind : log.reading with
  | silent => exact .inl rfl
  | failing fault =>
      rw [kind] at atEnd
      exact .inl atEnd
  | delivering first =>
      rw [kind] at atEnd
      have nothing : Record.slice log.records (max position first) limit = [] :=
        Except.ok.inj atEnd
      rcases Record.slice_grown nothing (log.nextRecord key value timestamp) with still | found
      · exact .inl (congrArg Except.ok still)
      · right
        apply And.intro (congrArg Except.ok found)
        apply congrArg Except.ok
        apply Record.slice_of_le
        rw [List.length_append]
        exact Nat.le_max_left _ _

end ResourceLog

/-- How many answers can move a loop at most, if its log has so many records. -/
def LoopStage.remaining (count : Nat) : LoopStage → Nat
  | .askingLow => count + 3
  | .askingHigh _ => count + 2
  | .replaying _ position _ => count - position + 1
  | .following position => count - position + 1
  | .ended => 0

theorem LoopStage.remaining_of_expects {stage : LoopStage} {position : Nat}
    (expected : stage.expects = some position) (count : Nat) :
    stage.remaining count = count - position + 1 := by
  cases stage <;> cases expected <;> rfl

theorem LoopStage.remaining_of_awaits {stage : LoopStage} {delivery : Delivery}
    (awaited : stage.awaits delivery) (count : Nat) : 0 < stage.remaining count := by
  cases stage with
  | ended => cases awaited
  | _ => exact Nat.succ_pos _

namespace HostedStore

variable {Value : Type} {hosted : HostedStore Value}

/-- How many answers can move the loop at most. -/
def remaining (hosted : HostedStore Value) : Nat :=
  hosted.store.loop.elim 0 fun stage => stage.remaining hosted.log.records.length

theorem remaining_of_loop {stage : LoopStage} (running : hosted.store.loop = some stage) :
    hosted.remaining = stage.remaining hosted.log.records.length := by
  rw [remaining, running]
  rfl

/-- A loop is told what it asks for, and a batch is what its log reads where it stands. -/
theorem next_delivery_awaited {delivery : Delivery} (asked : hosted.nextDelivery = some delivery) :
    ∃ stage, hosted.store.loop = some stage ∧ stage.awaits delivery = true ∧
      (∀ answer, delivery = .low answer → hosted.log.lowWatermark = answer) ∧
      ∀ position batch, stage.expects = some position → delivery = .batch (.ok batch) →
        hosted.log.read position hosted.store.limits.pollRecords = .ok batch := by
  cases running : hosted.store.loop with
  | none => simp [nextDelivery, running] at asked
  | some stage =>
      apply Exists.intro stage
      apply And.intro rfl
      cases expected : stage.expects with
      | some position =>
          rw [next_delivery_reads hosted stage position running expected] at asked
          cases asked
          refine ⟨?_, ?_, ?_⟩
          · cases stage <;> simp_all [LoopStage.expects, LoopStage.awaits]
          · intro answer told
            cases told
          · intro place batch same told
            cases same
            exact Delivery.batch.inj told
      | none =>
          simp only [nextDelivery, running] at asked
          cases stage with
          | replaying low position target => cases expected
          | following position => cases expected
          | ended => cases asked
          | askingLow =>
              cases asked
              refine ⟨rfl, fun answer same => Delivery.low.inj same, ?_⟩
              intro position batch read
              cases read
          | askingHigh low =>
              cases asked
              refine ⟨rfl, ?_, ?_⟩
              · intro answer told
                cases told
              · intro position batch read
                cases read

/-! ## Being at rest -/

/-- The loop has taken all that its log delivers for now. -/
def AtRest (hosted : HostedStore Value) : Prop :=
  ∀ delivery, hosted.nextDelivery = some delivery → moves delivery = false

theorem AtRest.settle_for [Storable Value] (rest : hosted.AtRest) (steps : Nat) :
    settleFor steps hosted = hosted := by
  cases steps with
  | zero => rfl
  | succ steps =>
      rw [settleFor]
      split
      · rfl
      · next delivery asked =>
        rw [rest delivery asked]
        rfl

theorem at_rest_of_ended (ended : hosted.store.loop = some .ended) : hosted.AtRest := by
  intro delivery asked
  simp [nextDelivery, ended] at asked

theorem at_rest_of_read {stage : LoopStage} {position : Nat}
    (running : hosted.store.loop = some stage) (expected : stage.expects = some position)
    (atEnd : hosted.log.read position hosted.store.limits.pollRecords = .ok []) :
    hosted.AtRest := by
  intro delivery asked
  rw [next_delivery_reads hosted stage position running expected, atEnd] at asked
  cases asked
  rfl

/-- A loop at rest asks its log for nothing, or for what the log does not have yet. -/
theorem AtRest.cases (rest : hosted.AtRest) :
    (∀ log, AtRest { hosted with log }) ∨
      ∃ stage position, hosted.store.loop = some stage ∧ stage.expects = some position ∧
        hosted.log.read position hosted.store.limits.pollRecords = .ok [] := by
  have asks (stage : LoopStage) (position : Nat) (running : hosted.store.loop = some stage)
      (expected : stage.expects = some position) :
      hosted.log.read position hosted.store.limits.pollRecords = .ok [] := by
    have still := rest _ (next_delivery_reads hosted stage position running expected)
    cases answer : hosted.log.read position hosted.store.limits.pollRecords with
    | error fault =>
        rw [answer] at still
        cases still
    | ok batch =>
        rw [answer] at still
        cases batch with
        | nil => rfl
        | cons record batch => cases still
  cases running : hosted.store.loop with
  | none =>
      left
      intro log delivery asked
      simp [nextDelivery, running] at asked
  | some stage =>
      cases stage with
      | askingLow =>
          have moving := rest (.low hosted.log.lowWatermark) (by simp [nextDelivery, running])
          cases moving
      | askingHigh low =>
          have moving := rest (.high hosted.log.highWatermark) (by simp [nextDelivery, running])
          cases moving
      | replaying low position target =>
          exact .inr ⟨_, position, rfl, rfl, asks _ position running rfl⟩
      | following position => exact .inr ⟨_, position, rfl, rfl, asks _ position running rfl⟩
      | ended =>
          left
          intro log
          exact at_rest_of_ended running

/-! ## Coming to rest -/

section Settling

variable [Storable Value]

/-- What an answer of the log puts into the snapshot are records of the log. -/
theorem deliver_takes {delivery : Delivery} (asked : hosted.nextDelivery = some delivery) :
    ∃ part : List Record, (∀ record ∈ part, record ∈ hosted.log.records) ∧
      (hosted.store.deliver delivery).snapshot =
        Store.takeRecords hosted.store.snapshot part := by
  rcases next_delivery_awaited asked with ⟨stage, running, awaited, -, reads⟩
  rcases Store.deliver_cases hosted.store stage delivery running awaited with
    ⟨fault, -, moved⟩ | ⟨low, -, -, moved⟩ | ⟨low, high, replayed, -, -, moved⟩ |
    ⟨position, batch, replayed, expected, told, -, moved⟩ |
    ⟨position, batch, fault, expected, told, -, moved⟩
  · exact ⟨[], nofun, by rw [moved]; rfl⟩
  · exact ⟨[], nofun, by rw [moved]; rfl⟩
  · exact ⟨[], nofun, by rw [moved]; rfl⟩
  · have own := (ResourceLog.read_delivers (reads position batch expected told)).1
    exact ⟨batch, own, by rw [moved]⟩
  · have own := (ResourceLog.read_delivers (reads position batch expected told)).1
    refine ⟨Store.takeable Value position batch, ?_, by rw [moved]; rfl⟩
    intro record member
    exact own record ((Store.takeable_prefix Value position batch).subset member)

theorem deliver_remaining {delivery : Delivery} (asked : hosted.nextDelivery = some delivery)
    (moving : moves delivery = true) :
    remaining { hosted with store := hosted.store.deliver delivery } < hosted.remaining := by
  rcases next_delivery_awaited asked with ⟨stage, running, awaited, -, reads⟩
  have before := remaining_of_loop running
  have some := LoopStage.remaining_of_awaits awaited hosted.log.records.length
  rcases Store.deliver_cases hosted.store stage delivery running awaited with
    ⟨fault, -, moved⟩ | ⟨low, rfl, -, moved⟩ | ⟨low, high, replayed, rfl, -, moved⟩ |
    ⟨position, batch, replayed, expected, told, -, moved⟩ |
    ⟨position, batch, fault, -, -, -, moved⟩
  · rw [moved, before]
    exact some
  · rw [moved, before]
    exact Nat.lt_succ_self _
  · have after := LoopStage.remaining_of_expects
      (LoopStage.advance_expects (.replaying low low high) low) hosted.log.records.length
    rw [moved, before, remaining_of_loop rfl, after, LoopStage.remaining]
    omega
  · have filled : batch ≠ [] := by
      rintro rfl
      rw [told] at moving
      cases moving
    have within := (ResourceLog.read_delivers (reads position batch expected told)).2 filled
    have longer : 0 < batch.length := List.length_pos_iff.mpr filled
    have after := LoopStage.remaining_of_expects
      (LoopStage.advance_expects stage (position + batch.length)) hosted.log.records.length
    rw [Record.iterate_succ] at moved
    rw [moved, before, remaining_of_loop rfl, after, LoopStage.remaining_of_expects expected]
    omega
  · rw [moved, before]
    exact some

theorem settle_for_rests (steps : Nat) (hosted : HostedStore Value)
    (enough : hosted.remaining ≤ steps) : (settleFor steps hosted).AtRest := by
  induction steps generalizing hosted with
  | zero =>
      rw [settleFor]
      intro delivery asked
      cases moving : moves delivery with
      | false => rfl
      | true =>
          have fewer := deliver_remaining asked moving
          omega
  | succ steps induction =>
      cases asked : hosted.nextDelivery with
      | none =>
          have rest : hosted.AtRest := by
            intro delivery found
            rw [asked] at found
            cases found
          rw [rest.settle_for]
          exact rest
      | some delivery =>
          cases moving : moves delivery with
          | false =>
              have rest : hosted.AtRest := by
                intro other found
                rw [asked] at found
                cases found
                exact moving
              rw [rest.settle_for]
              exact rest
          | true =>
              rw [settle_for_moves steps hosted delivery asked moving]
              apply induction
              have fewer := deliver_remaining asked moving
              omega

/-- The steps that a store is given to settle are enough. -/
theorem settle_rests (hosted : HostedStore Value) : hosted.settle.AtRest := by
  apply settle_for_rests
  rw [remaining]
  cases hosted.store.loop with
  | none => exact Nat.zero_le _
  | some stage => cases stage <;> simp only [Option.elim, LoopStage.remaining] <;> omega

theorem settle_for_log (steps : Nat) (hosted : HostedStore Value) :
    (settleFor steps hosted).log = hosted.log := by
  induction steps generalizing hosted with
  | zero => rfl
  | succ steps induction =>
      rw [settleFor]
      split
      · rfl
      · split
        · exact induction _
        · rfl

/-- Settling puts records of the log into the snapshot and does nothing else to it. -/
theorem settle_for_takes (steps : Nat) (hosted : HostedStore Value) :
    ∃ part : List Record, (∀ record ∈ part, record ∈ hosted.log.records) ∧
      (settleFor steps hosted).store.snapshot =
        Store.takeRecords hosted.store.snapshot part := by
  induction steps generalizing hosted with
  | zero => exact ⟨[], nofun, rfl⟩
  | succ steps induction =>
      rw [settleFor]
      split
      · exact ⟨[], nofun, rfl⟩
      · next delivery asked =>
        split
        · rcases deliver_takes asked with ⟨first, firstOwn, taken⟩
          rcases induction { hosted with store := hosted.store.deliver delivery } with
            ⟨second, secondOwn, settled⟩
          refine ⟨first ++ second, ?_, ?_⟩
          · intro record member
            exact (List.mem_append.mp member).elim (firstOwn record) (secondOwn record)
          · rw [settled, taken, Store.take_records_append]
        · exact ⟨[], nofun, rfl⟩

/-- What the store publishes stays within its log. -/
structure Bounded (hosted : HostedStore Value) : Prop where
  published : hosted.store.status.applied ≤ hosted.log.records.length
  told : ∀ low, hosted.store.loop = some (.askingHigh low) → low ≤ hosted.log.records.length
  asking : hosted.store.loop = some .askingLow → hosted.log.BeginsWithin

omit [Storable Value] in
theorem AtRest.bounded (rest : hosted.AtRest) {log : ResourceLog}
    (published : hosted.store.status.applied ≤ log.records.length) :
    Bounded { hosted with log } := by
  apply Bounded.mk published
  · intro low running
    have moving := rest (.high hosted.log.highWatermark) (by simp_all [nextDelivery])
    cases moving
  · intro running
    have moving := rest (.low hosted.log.lowWatermark) (by simp_all [nextDelivery])
    cases moving

omit [Storable Value] in
/-- A loop past the watermarks has no more of them to publish. -/
theorem bounded_of_expects {stage : LoopStage} {position : Nat}
    (running : hosted.store.loop = some stage) (expected : stage.expects = some position)
    (published : hosted.store.status.applied ≤ hosted.log.records.length) : hosted.Bounded := by
  apply Bounded.mk published
  · intro low same
    cases running.symm.trans same
    cases expected
  · intro same
    cases running.symm.trans same
    cases expected

theorem Bounded.deliver (bounded : hosted.Bounded) {delivery : Delivery}
    (asked : hosted.nextDelivery = some delivery) :
    Bounded { hosted with store := hosted.store.deliver delivery } := by
  rcases next_delivery_awaited asked with ⟨stage, running, awaited, low, reads⟩
  rcases Store.deliver_cases hosted.store stage delivery running awaited with
    ⟨fault, -, moved⟩ | ⟨offset, rfl, told, moved⟩ | ⟨offset, high, replayed, rfl, -, moved⟩ |
    ⟨position, batch, replayed, expected, told, -, moved⟩ |
    ⟨position, batch, fault, -, -, -, moved⟩
  · rw [moved]
    exact ⟨bounded.published, nofun, nofun⟩
  · rw [moved]
    have within := bounded.asking running offset (low (.ok offset) told)
    refine ⟨bounded.published, ?_, nofun⟩
    intro other same
    cases same
    exact within
  · rw [moved]
    exact bounded_of_expects rfl (LoopStage.advance_expects _ _) (bounded.told offset running)
  · rw [moved]
    apply bounded_of_expects rfl (LoopStage.advance_expects _ _)
    have delivered := reads position batch expected told
    change hosted.store.appliedAfter position batch ≤ hosted.log.records.length
    rw [Store.appliedAfter, Record.iterate_succ]
    split
    · exact bounded.published
    · next filled =>
      apply (ResourceLog.read_delivers delivered).2
      rintro rfl
      exact filled rfl
  · rw [moved]
    exact ⟨bounded.published, nofun, nofun⟩

theorem Bounded.settle_for {hosted : HostedStore Value} (bounded : hosted.Bounded) (steps : Nat) :
    (settleFor steps hosted).Bounded := by
  induction steps generalizing hosted with
  | zero => exact bounded
  | succ steps induction =>
      rw [settleFor]
      split
      · exact bounded
      · next delivery asked =>
        split
        · exact induction (bounded.deliver asked)
        · exact bounded

end Settling

end HostedStore

end BrokerTenancy
