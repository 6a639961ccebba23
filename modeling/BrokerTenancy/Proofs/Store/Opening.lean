import BrokerTenancy.Proofs.Store.Delivery
import BrokerTenancy.Store.Hosted

/-!
Opening a store over a log that holds its records from offset zero on and can be read everywhere:
the loop replays them batch by batch and the store serves what they make together.
-/

namespace BrokerTenancy

open Record (Gapless)

/-- The log tells its records as they are, whatever it does when it is written to. -/
structure ResourceLog.Tells (log : ResourceLog) (records : List Record) : Prop where
  held : log.records = records
  low : log.lowWatermark = .ok 0
  high : log.highWatermark = .ok records.length
  read : ∀ offset limit, log.read offset limit = .ok (Record.slice records offset limit)

theorem FileLog.tells (log : FileLog) : (ResourceLog.file log).Tells log.records :=
  ⟨rfl, rfl, rfl, fun _ _ => rfl⟩

namespace HostedStore

variable {Value : Type} [Storable Value]

/-- The loop has replayed the records below an offset. -/
structure Replayed (hosted : HostedStore Value) (records : List Record) (position : Nat) :
    Prop where
  snapshot : hosted.store.snapshot = Store.replay (records.take position)
  loop : hosted.store.loop =
    some ((LoopStage.replaying 0 position records.length).advance position)
  going : hosted.store.status.fatal = none
  ready : records.length ≤ position → hosted.store.status.ready

theorem settle_for_moves (steps : Nat) (hosted : HostedStore Value) (delivery : Delivery)
    (asked : hosted.nextDelivery = some delivery) (moving : moves delivery) :
    settleFor (steps + 1) hosted =
      settleFor steps { hosted with store := hosted.store.deliver delivery } := by
  rw [settleFor, asked]
  simp only [moving, if_true]

omit [Storable Value] in
theorem next_delivery_reads (hosted : HostedStore Value) (stage : LoopStage) (position : Nat)
    (running : hosted.store.loop = some stage) (expected : stage.expects = some position) :
    hosted.nextDelivery =
      some (.batch (hosted.log.read position hosted.store.limits.pollRecords)) := by
  cases stage <;> simp_all [LoopStage.expects, nextDelivery]

/-- What a loop reads that is not at the end: records, and nothing but the next ones. -/
theorem slice_ahead {records : List Record} {position limit : Nat}
    (ahead : position < records.length) (polling : 0 < limit) :
    Record.slice records position limit ≠ [] ∧
      records.take position ++ Record.slice records position limit =
        records.take (position + (Record.slice records position limit).length) ∧
      position + (Record.slice records position limit).length ≤ records.length := by
  have size : (Record.slice records position limit).length =
      min limit (records.length - position) := by
    rw [Record.slice, List.length_take, List.length_drop]
  refine ⟨?_, ?_, by omega⟩
  · intro empty
    rw [empty, List.length_nil] at size
    omega
  · have short : Record.slice records position limit =
        (records.drop position).take (min limit (records.length - position)) := by
      rw [Record.slice, List.take_eq_take_min, List.length_drop]
    rw [List.take_add, size, short]

theorem Replayed.read {hosted : HostedStore Value} {records : List Record} {position : Nat}
    (replayed : hosted.Replayed records position) (tells : hosted.log.Tells records)
    (dense : Gapless 0 records) (readable : ∀ record ∈ records, record.isReadable Value)
    (polling : 0 < hosted.store.limits.pollRecords) (ahead : position < records.length) :
    ∃ delivery next, hosted.nextDelivery = some delivery ∧ moves delivery ∧ position < next ∧
      next ≤ records.length ∧
      Replayed { hosted with store := hosted.store.deliver delivery } records next ∧
      (hosted.store.deliver delivery).limits = hosted.store.limits := by
  obtain ⟨filled, joined, within⟩ := slice_ahead ahead polling
  generalize isBatch : Record.slice records position hosted.store.limits.pollRecords = batch
    at filled joined within
  have loop : hosted.store.loop = some (.replaying 0 position records.length) := by
    rw [replayed.loop, LoopStage.advance, if_pos ahead]
  have asked : hosted.nextDelivery = some (.batch (.ok batch)) := by
    rw [next_delivery_reads hosted _ position loop rfl, tells.read, isBatch]
  have gapless : Gapless (0 + (records.take position).length) batch := by
    have front := dense
    rw [← List.take_append_drop (position + batch.length) records, ← joined] at front
    exact ((Record.gapless_append ..).mp ((Record.gapless_append ..).mp front).1).2
  have whole : Store.takeable Value position batch = batch := by
    apply Store.takeable_of_gapless
    · rw [List.length_take, Nat.zero_add, Nat.min_eq_left (Nat.le_of_lt ahead)] at gapless
      exact gapless
    · intro record member
      apply readable
      rw [← isBatch] at member
      exact List.mem_of_mem_drop (List.mem_of_mem_take member)
  obtain ⟨count, moved⟩ :=
    Store.deliver_batch_taken hosted.store _ position batch loop rfl whole
  rw [Record.iterate_succ] at moved
  have longer : 0 < batch.length := List.length_pos_iff.mpr filled
  refine ⟨_, position + batch.length, asked, ?_, by omega, within, ?_, by rw [moved]⟩
  · cases batch with
    | nil => exact absurd rfl filled
    | cons record rest => rfl
  · rw [moved]
    refine ⟨?_, rfl, replayed.going, ?_⟩
    · rw [replayed.snapshot, ← Store.replay_append, joined]
    · intro atEnd
      simp [LoopStage.completes, atEnd]

theorem settle_for_replayed (steps : Nat) (hosted : HostedStore Value) (records : List Record)
    (position : Nat) (replayed : hosted.Replayed records position)
    (tells : hosted.log.Tells records) (dense : Gapless 0 records)
    (readable : ∀ record ∈ records, record.isReadable Value)
    (polling : 0 < hosted.store.limits.pollRecords) (within : position ≤ records.length)
    (enough : records.length - position ≤ steps) :
    (settleFor steps hosted).Replayed records records.length := by
  induction steps generalizing hosted position with
  | zero =>
      have atEnd : position = records.length := by omega
      rw [← atEnd]
      exact atEnd ▸ replayed
  | succ steps induction =>
      by_cases ahead : position < records.length
      · obtain ⟨delivery, next, asked, moving, further, stillWithin, nextReplayed, sameLimits⟩ :=
          replayed.read tells dense readable polling ahead
        rw [settle_for_moves steps hosted delivery asked moving]
        exact induction _ next nextReplayed tells (by rw [sameLimits]; exact polling) stillWithin
          (by omega)
      · have atEnd : position = records.length := by omega
        subst atEnd
        have nothing :
            Record.slice records records.length hosted.store.limits.pollRecords = [] := by
          rw [Record.slice, List.drop_length, List.take_nil]
        have asked : hosted.nextDelivery = some (.batch (.ok [])) := by
          rw [next_delivery_reads hosted _ _ replayed.loop (LoopStage.advance_expects _ _),
            tells.read, nothing]
        rw [settleFor, asked]
        exact replayed

/-- Starting a store makes the loop learn both watermarks first. -/
theorem settle_for_started (steps : Nat) (log : ResourceLog) (limits : StoreLimits)
    (records : List Record) (tells : log.Tells records) :
    ∃ hosted : HostedStore Value,
      settleFor (steps + 2) (create log limits : HostedStore Value).launch =
        settleFor steps hosted ∧
      hosted.log = log ∧ hosted.store.limits = limits ∧ hosted.Replayed records 0 := by
  let launched := (create log limits : HostedStore Value).launch
  let asked := { launched with store := launched.store.deliver (.low (.ok 0)) }
  have first : launched.nextDelivery = some (.low (.ok 0)) := by
    have low : launched.nextDelivery = some (.low log.lowWatermark) := rfl
    rw [low, tells.low]
  have second : asked.nextDelivery = some (.high (.ok records.length)) := by
    have high : asked.nextDelivery = some (.high log.highWatermark) := rfl
    rw [high, tells.high]
  obtain ⟨replayed, moved⟩ := Store.deliver_high asked.store 0 records.length rfl
  refine ⟨{ asked with store := asked.store.deliver (.high (.ok records.length)) }, ?_, rfl,
    by rw [moved]; rfl, ?_⟩
  · rw [settle_for_moves (steps + 1) launched _ first rfl]
    exact settle_for_moves steps asked _ second rfl
  · rw [moved]
    refine ⟨rfl, rfl, rfl, ?_⟩
    intro atEnd
    simp [LoopStage.completes, atEnd]

/-- A store opens over readable records and serves what they make together. -/
theorem open_on_tells (log : ResourceLog) (limits : StoreLimits) (records : List Record)
    (tells : log.Tells records) (dense : Gapless 0 records)
    (readable : ∀ record ∈ records, record.isReadable Value) (patient : 0 < limits.initTimeout)
    (polling : 0 < limits.pollRecords) :
    (openOn log limits : HostedStore Value × Outcome Unit).2 = .ok () ∧
      (openOn log limits : HostedStore Value × Outcome Unit).1.store.entries =
        .ok (Store.replay records).toList := by
  obtain ⟨hosted, started, sameLog, sameLimits, replayed⟩ :=
    @settle_for_started Value _ (records.length + 1) log limits records tells
  have opened : (create log limits : HostedStore Value).launch.settle =
      settleFor (records.length + 1) hosted := by
    have held : (create log limits : HostedStore Value).launch.log.records = records := tells.held
    rw [settle, held]
    exact started
  have finished := settle_for_replayed (records.length + 1) hosted records 0 replayed
    (by rw [sameLog]; exact tells) dense readable (by rw [sameLimits]; exact polling)
    (Nat.zero_le _) (by omega)
  rw [← opened] at finished
  have isReady := finished.ready (Nat.le_refl _)
  have serving : (create log limits : HostedStore Value).launch.settle.store.ensureServing =
      .ok () := by
    simp [Store.ensureServing, finished.going, isReady]
  refine ⟨?_, ?_⟩
  · simp only [openOn, if_neg (Nat.ne_of_gt patient)]
    simp [Store.awaitReady, Store.readiness, finished.going, isReady]
  · simp only [openOn, Store.entries, serving, finished.snapshot, List.take_length]
    rfl

end HostedStore

end BrokerTenancy
