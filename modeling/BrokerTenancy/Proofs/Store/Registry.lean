import BrokerTenancy.Catalog.Basic
import BrokerTenancy.Proofs.Resource.Stored
import BrokerTenancy.Proofs.Store.ReadYourWrites
import BrokerTenancy.Proofs.Store.Rest

/-!
Stores that resources are registered in and retracted from. A write appends one record at most, and
the loop takes it, stops at it or never sees it. So a store over a log that registries wrote holds
nothing but what was registered, each resource under its own key.
-/

namespace BrokerTenancy

namespace HostedStore

section Writing

variable {Value : Type} [Storable Value] {hosted : HostedStore Value}

/-- A store is at rest, and is as far as an earlier one or has taken a record in. -/
structure HasTaken (hosted : HostedStore Value) (earlier : Store Value) (record : Record) :
    Prop where
  rest : hosted.AtRest
  progress :
    hosted.store.snapshot = earlier.snapshot ∧
        hosted.store.status.applied = earlier.status.applied ∨
      record.isReadable Value = true ∧
        hosted.store.snapshot = Store.takeRecord earlier.snapshot record

/-- A loop that is delivered the last record of its log takes it or stops at it. -/
theorem has_taken_delivered {stage : LoopStage} {position : Nat} {record : Record}
    (running : hosted.store.loop = some stage) (expected : stage.expects = some position)
    (behind : hosted.log.read (record.offset + 1) hosted.store.limits.pollRecords = .ok []) :
    HasTaken { hosted with store := hosted.store.deliver (.batch (.ok [record])) }
      hosted.store record := by
  by_cases fits : record.offset = position ∧ record.isReadable Value
  · have whole : Store.takeable Value position [record] = [record] := by
      rw [Store.takeable, if_pos fits]
      rfl
    rcases Store.deliver_batch_taken hosted.store stage position [record] running expected whole
      with ⟨replayed, taken⟩
    rw [taken]
    apply HasTaken.mk
    · apply at_rest_of_read rfl (LoopStage.advance_expects _ _)
      rw [← fits.1]
      exact behind
    · exact .inr ⟨fits.2, rfl⟩
  · have broken : Store.takeable Value position [record] = [] := by
      rw [Store.takeable, if_neg fits]
    have stops : Store.takeable Value position [record] ≠ [record] := by
      rw [broken]
      exact (List.cons_ne_nil record []).symm
    rcases Store.deliver_batch_stopped hosted.store stage position [record] running expected stops
      with ⟨fault, stopped⟩
    rw [stopped, broken]
    exact ⟨at_rest_of_ended rfl, .inl ⟨rfl, rfl⟩⟩

theorem AtRest.settle_append (rest : hosted.AtRest) (key : String) (value : Option (List UInt8))
    (timestamp : Int) :
    { hosted with log := (hosted.log.append key value timestamp).1 }.settle.HasTaken
      hosted.store (hosted.log.nextRecord key value timestamp) := by
  let grown := { hosted with log := (hosted.log.append key value timestamp).1 }
  let record := hosted.log.nextRecord key value timestamp
  have still (resting : grown.AtRest) : grown.settle.HasTaken hosted.store record := by
    rw [settle, resting.settle_for]
    exact ⟨resting, .inl ⟨rfl, rfl⟩⟩
  rcases rest.cases with idle | ⟨stage, position, running, expected, atEnd⟩
  · exact still (idle _)
  rcases ResourceLog.read_append atEnd key value timestamp with nothing | ⟨found, behind⟩
  · exact still (at_rest_of_read running expected nothing)
  have asked : grown.nextDelivery = some (.batch (.ok [record])) := by
    rw [next_delivery_reads grown stage position running expected]
    exact congrArg (fun answer => some (Delivery.batch answer)) found
  have taken : HasTaken { grown with store := grown.store.deliver (.batch (.ok [record])) }
      hosted.store record := has_taken_delivered running expected behind
  change grown.settle.HasTaken hosted.store record
  rw [settle, settle_for_moves _ grown _ asked rfl, taken.rest.settle_for]
  exact taken

omit [Storable Value] in
/-- A caller that waits for a record succeeds because the progress is past it. -/
theorem applying_result_ok {offset : Nat} {store : Store Value}
    (done : (Write.applying offset).result store = .ok ()) : offset < store.status.applied := by
  rw [Write.result, Write.observe] at done
  split at done
  · cases done
  · split at done
    · assumption
    · cases done

omit [Storable Value] in
/-- A write fails at once, or appends its record and waits until the loop is past it. -/
theorem begin_write_cases (hosted : HostedStore Value) (key : String)
    (value : Option (List UInt8)) (now : Int) :
    (∃ fault, hosted.beginWrite key value now = (hosted, .finished (.error fault))) ∨
      ∃ write, hosted.beginWrite key value now =
          ({ hosted with log := (hosted.log.append key value now).1 }, write) ∧
        ∀ store : Store Value, write.result store = .ok () →
          hosted.log.records.length < store.status.applied := by
  rcases Traffic.begin_cases hosted.store with ⟨begun, -⟩ | ⟨fault, begun⟩
  · right
    rcases appended : hosted.log.append key value now with ⟨log, answer⟩
    simp only [beginWrite, begun, appended]
    refine ⟨_, rfl, ?_⟩
    intro store
    cases answer with
    | none => exact nofun
    | some answer =>
        simp only
        split
        · cases answer with
          | error fault => exact nofun
          | ok offset =>
              rw [← ResourceLog.append_ok (congrArg Prod.snd appended)]
              exact applying_result_ok
        · exact nofun
  · left
    rw [beginWrite, begun]
    exact ⟨fault, rfl⟩

/-- A write settles the store, over the log with the record if the store served. -/
theorem write_cases (hosted : HostedStore Value) (key : String) (value : Option (List UInt8))
    (now : Int) :
    (hosted.write key value now).1 = hosted.settle ∨
      (hosted.write key value now).1 =
        { hosted with log := (hosted.log.append key value now).1 }.settle := by
  rw [write]
  rcases begin_write_cases hosted key value now with ⟨fault, begun⟩ | ⟨write, begun, -⟩
  · left
    rw [begun]
  · right
    rw [begun]

theorem AtRest.write (rest : hosted.AtRest) (key : String) (value : Option (List UInt8))
    (now : Int) :
    (hosted.write key value now).1.HasTaken hosted.store
      (hosted.log.nextRecord key value now) := by
  rcases write_cases hosted key value now with same | same
  · rw [same, settle, rest.settle_for]
    exact ⟨rest, .inl ⟨rfl, rfl⟩⟩
  · rw [same]
    exact rest.settle_append key value now

/-- A write that succeeds has put its record into the snapshot. -/
theorem AtRest.write_ok (rest : hosted.AtRest) (bounded : hosted.Bounded) {key : String}
    {value : Option (List UInt8)} {now : Int} (done : (hosted.write key value now).2 = .ok ()) :
    (hosted.log.nextRecord key value now).isReadable Value = true ∧
      (hosted.write key value now).1.store.snapshot =
        Store.takeRecord hosted.store.snapshot (hosted.log.nextRecord key value now) := by
  have taken := rest.write key value now
  rw [HostedStore.write] at done taken ⊢
  rcases begin_write_cases hosted key value now with ⟨fault, begun⟩ | ⟨write, begun, past⟩
  · rw [begun] at done
    simp only [writeResult] at done
    split at done <;> cases done
  · rw [begun] at done taken ⊢
    rcases taken.progress with ⟨-, same⟩ | whole
    · -- The progress that the caller has seen is still that of before.
      have within := bounded.published
      simp only [writeResult] at done
      split at done
      · exact absurd (past _ done) (Nat.not_lt_of_le within)
      · have seen := past _ done
        rw [same] at seen
        exact absurd seen (Nat.not_lt_of_le within)
    · exact whole

/-- A put succeeds because its write did. -/
theorem put_written {key : String} {value stored : Value} {now : Int}
    (done : (hosted.put key value now).2 = .ok stored) :
    (hosted.write key (some (Store.encodeValue value)) now).2 = .ok () := by
  change (hosted.write key (some (Store.encodeValue value)) now).2.map _ = .ok stored at done
  cases result : (hosted.write key (some (Store.encodeValue value)) now).2 with
  | ok _ => rfl
  | error fault =>
      rw [result] at done
      cases done

end Writing

end HostedStore

/-! ## Resources under their own keys -/

section Keyed

variable {Value : Type} [Resource Value]

/-- A record holds no resource of another key than its own. -/
def Record.IsKeyed (Value : Type) [Resource Value] (record : Record) : Prop :=
  ∀ value : Value, record.outcome = some value → Resource.key value = record.key

/-- Each resource of a snapshot stands under its own key. -/
def Store.IsKeyed (snapshot : SortedMap String Value) : Prop :=
  ∀ key value, snapshot.find? key = some value → Resource.key value = key

theorem Store.is_keyed_take_record {snapshot : SortedMap String Value} {record : Record}
    (keyed : IsKeyed snapshot) (own : record.IsKeyed Value) :
    IsKeyed (takeRecord snapshot record) := by
  intro key value found
  rw [find_take_record] at found
  split at found
  · next same =>
    rw [same]
    exact own value found
  · exact keyed key value found

theorem Store.is_keyed_take_records {snapshot : SortedMap String Value} {records : List Record}
    (keyed : IsKeyed snapshot) (own : ∀ record ∈ records, record.IsKeyed Value) :
    IsKeyed (takeRecords snapshot records) := by
  induction records generalizing snapshot with
  | nil => exact keyed
  | cons record records induction =>
      rcases List.forall_mem_cons.mp own with ⟨first, others⟩
      exact induction (is_keyed_take_record keyed first) others

end Keyed

namespace HostedStore

section Registered

variable {Value : Type} [Resource Value] {hosted : HostedStore Value}

/-- What the loop takes of a registered resource is the resource. -/
theorem take_registered (faithful : Resource.IsFaithful Value) {log : ResourceLog} {value : Value}
    {now : Instant} {timestamp : Int} {record : Record}
    (written : record = log.nextRecord (Resource.key (stamped value now))
      (some (Store.encodeValue (stamped value now))) timestamp)
    (readable : record.isReadable Value = true) (snapshot : SortedMap String Value) :
    ∃ creation, Store.takeRecord snapshot record =
      snapshot.insert (Resource.key value) (Resource.withCreation value creation) := by
  subst written
  rcases Option.isSome_iff_exists.mp readable with ⟨found, decoded⟩
  have outcome : (log.nextRecord (Resource.key (stamped value now))
      (some (Store.encodeValue (stamped value now))) timestamp).outcome = some found := decoded
  rcases faithful.reads decoded with ⟨creation, rfl⟩
  have sameKey : Resource.key (stamped value now) = Resource.key value := faithful.key value _
  have again : Resource.withCreation (stamped value now) creation =
      Resource.withCreation value creation := faithful.again value _ creation
  apply Exists.intro creation
  rw [Store.takeRecord, outcome, ← sameKey, ← again]
  rfl

theorem AtRest.register (faithful : Resource.IsFaithful Value) (rest : hosted.AtRest)
    (value : Value) (now : Instant) (timestamp : Int) :
    (hosted.register value now timestamp).1.store.snapshot = hosted.store.snapshot ∨
      ∃ creation, (hosted.register value now timestamp).1.store.snapshot =
        hosted.store.snapshot.insert (Resource.key value)
          (Resource.withCreation value creation) := by
  let stored : Value := stamped value now
  have written := rest.write (Resource.key stored) (some (Store.encodeValue stored)) timestamp
  rcases written.progress with ⟨kept, -⟩ | ⟨readable, taken⟩
  · exact .inl kept
  · rcases take_registered faithful rfl readable hosted.store.snapshot with ⟨creation, stands⟩
    exact .inr ⟨creation, taken.trans stands⟩

/-- A resource that was registered with success is stored. -/
theorem AtRest.register_ok (faithful : Resource.IsFaithful Value) (rest : hosted.AtRest)
    (bounded : hosted.Bounded) {value stored : Value} {now : Instant} {timestamp : Int}
    (done : (hosted.register value now timestamp).2 = .ok stored) :
    ∃ creation, (hosted.register value now timestamp).1.store.snapshot =
      hosted.store.snapshot.insert (Resource.key value)
        (Resource.withCreation value creation) := by
  rcases rest.write_ok bounded (put_written done) with ⟨readable, taken⟩
  rcases take_registered faithful rfl readable hosted.store.snapshot with ⟨creation, stands⟩
  exact ⟨creation, taken.trans stands⟩

end Registered

section Orderly

variable {Value : Type} [Resource Value] {hosted : HostedStore Value}

/-- The store is at rest, and all that its log and its snapshot hold is under its own key. -/
structure Orderly (hosted : HostedStore Value) : Prop where
  rest : hosted.AtRest
  recorded : ∀ record ∈ hosted.log.records, record.IsKeyed Value
  keyed : Store.IsKeyed hosted.store.snapshot

theorem orderly_opened {log : ResourceLog}
    (recorded : ∀ record ∈ log.records, record.IsKeyed Value) (limits : StoreLimits) :
    (create log limits : HostedStore Value).launch.settle.Orderly := by
  let launched := (create log limits : HostedStore Value).launch
  apply Orderly.mk
  · exact settle_rests launched
  · rw [settle, settle_for_log]
    exact recorded
  · rcases settle_for_takes (launched.log.records.length + 3) launched with ⟨part, own, taken⟩
    rw [settle, taken]
    apply Store.is_keyed_take_records
    · intro key value found
      cases found
    · intro record member
      exact recorded record (own record member)

theorem Orderly.append (orderly : hosted.Orderly) {key : String} {value : Option (List UInt8)}
    {timestamp : Int} (own : (hosted.log.nextRecord key value timestamp).IsKeyed Value) :
    ∀ record ∈ (hosted.log.append key value timestamp).1.records, record.IsKeyed Value := by
  rcases hosted.log.append_cases key value timestamp with unchanged | ⟨grown, -⟩
  · rw [unchanged]
    exact orderly.recorded
  · rw [grown]
    intro record member
    rcases List.mem_append.mp member with before | last
    · exact orderly.recorded record before
    · rw [List.mem_singleton.mp last]
      exact own

theorem Orderly.write (orderly : hosted.Orderly) {key : String} {value : Option (List UInt8)}
    {timestamp : Int} (own : (hosted.log.nextRecord key value timestamp).IsKeyed Value) :
    (hosted.write key value timestamp).1.Orderly := by
  rcases write_cases hosted key value timestamp with same | same
  · rw [same, settle, orderly.rest.settle_for]
    exact orderly
  · have written := orderly.rest.write key value timestamp
    apply Orderly.mk written.rest
    · rw [same, settle, settle_for_log]
      exact orderly.append own
    · rcases written.progress with ⟨kept, -⟩ | ⟨-, taken⟩
      · rw [kept]
        exact orderly.keyed
      · rw [taken]
        exact Store.is_keyed_take_record orderly.keyed own

/-- What a registry does to its store. -/
inductive Edit (Value : Type) where
  | register (value : Value) (now : Instant) (timestamp : Int)
  | retract (value : Value) (timestamp : Int)

def edit (hosted : HostedStore Value) : Edit Value → HostedStore Value
  | .register value now timestamp => (hosted.register value now timestamp).1
  | .retract value timestamp => (hosted.retract value timestamp).1

theorem Orderly.edit (faithful : Resource.IsFaithful Value) (orderly : hosted.Orderly)
    (edit : Edit Value) : (hosted.edit edit).Orderly := by
  cases edit with
  | register value now timestamp =>
      apply orderly.write
      intro found decoded
      rcases faithful.reads decoded with ⟨creation, rfl⟩
      exact faithful.key _ creation
  | retract value timestamp =>
      apply orderly.write
      intro found decoded
      cases decoded

/-! ## How far the store says that it is -/

theorem bounded_opened {log : ResourceLog} (within : log.BeginsWithin) (limits : StoreLimits) :
    (create log limits : HostedStore Value).launch.settle.Bounded := by
  have launched : (create log limits : HostedStore Value).launch.Bounded :=
    ⟨Nat.zero_le _, nofun, fun _ => within⟩
  exact launched.settle_for _

omit [Resource Value] in
theorem AtRest.write_bounded [Storable Value] (rest : hosted.AtRest) (bounded : hosted.Bounded)
    (key : String) (value : Option (List UInt8)) (timestamp : Int) :
    (hosted.write key value timestamp).1.Bounded := by
  rcases write_cases hosted key value timestamp with same | same
  · rw [same, settle, rest.settle_for]
    exact bounded
  · rw [same]
    have longer := hosted.log.append_longer key value timestamp
    exact (rest.bounded (Nat.le_trans bounded.published longer)).settle_for _

theorem AtRest.edit_bounded (rest : hosted.AtRest) (bounded : hosted.Bounded)
    (edit : Edit Value) : (hosted.edit edit).Bounded := by
  cases edit <;> exact rest.write_bounded bounded _ _ _

end Orderly

end HostedStore

end BrokerTenancy
