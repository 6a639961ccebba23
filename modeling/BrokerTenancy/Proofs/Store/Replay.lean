import BrokerTenancy.Proofs.Log.Sequence
import BrokerTenancy.Proofs.Sorted.Map
import BrokerTenancy.Store.Basic

/-!
What a run of records makes of a snapshot. `replay` takes them one after the other; `lastWrite`
says what a key holds by its last record alone, and the two agree on every key. A batch goes into a
snapshot up to the first record that is not at its place or cannot be read.
-/

namespace BrokerTenancy

namespace Record

variable (Value : Type) [Storable Value]

/-- Whether the loop of a store can take a record: a tombstone, or bytes of a value. -/
def isReadable (record : Record) : Bool :=
  match record.value with
  | none => true
  | some bytes => (Store.decodeValue bytes : Option Value).isSome

variable {Value}

/-- What a record makes of its key: a value, or nothing. -/
def outcome (record : Record) : Option Value := record.value.bind Store.decodeValue

/-- What the last record of a key makes of it. -/
def lastWrite (records : List Record) (key : String) : Option Value :=
  (latest records key).bind outcome

end Record

namespace Store

variable {Value : Type} [Storable Value]

open Record (Gapless latest lastWrite)

/-- Takes one record into a snapshot. -/
def takeRecord (snapshot : SortedMap String Value) (record : Record) : SortedMap String Value :=
  match (record.outcome : Option Value) with
  | none => snapshot.erase record.key
  | some value => snapshot.insert record.key value

/-- Takes records into a snapshot one after the other. -/
def takeRecords (snapshot : SortedMap String Value) (records : List Record) :
    SortedMap String Value :=
  records.foldl takeRecord snapshot

/-- The snapshot that records make from nothing. -/
def replay (records : List Record) : SortedMap String Value := takeRecords .empty records

theorem find_take_record (snapshot : SortedMap String Value) (record : Record) (key : String) :
    (takeRecord snapshot record).find? key =
      if key = record.key then record.outcome else snapshot.find? key := by
  simp only [takeRecord]
  split
  · next nothing => simp [nothing]
  · next value something => simp [something]

theorem find_take_records (snapshot : SortedMap String Value) (records : List Record)
    (key : String) :
    (takeRecords snapshot records).find? key =
      (latest records key).elim (snapshot.find? key) Record.outcome := by
  induction records generalizing snapshot with
  | nil => rfl
  | cons record rest induction =>
      have step : takeRecords snapshot (record :: rest) =
          takeRecords (takeRecord snapshot record) rest := rfl
      have front : latest (record :: rest) key = (latest rest key).or (latest [record] key) :=
        Record.latest_append [record] rest key
      rw [step, induction, front, find_take_record, Record.latest_singleton]
      cases latest rest key with
      | some found => rfl
      | none => by_cases same : key = record.key <;> simp [same]

/-- Replaying records leaves under each key what its last record says. -/
theorem find_replay (records : List Record) (key : String) :
    (replay records : SortedMap String Value).find? key = lastWrite records key := by
  rw [replay, find_take_records, lastWrite]
  cases latest records key <;> rfl

theorem take_records_append (snapshot : SortedMap String Value) (left right : List Record) :
    takeRecords snapshot (left ++ right) = takeRecords (takeRecords snapshot left) right :=
  List.foldl_append

theorem replay_append (left right : List Record) :
    (replay (left ++ right) : SortedMap String Value) = takeRecords (replay left) right :=
  take_records_append .empty left right

variable (Value) {succ : Nat → Nat}

/-- The records of a batch up to the first that is not at its place or cannot be read. -/
def takeable (position : Nat) (batch : List Record) (succ : Nat → Nat := (· + 1)) : List Record :=
  match batch with
  | [] => []
  | record :: rest =>
      if record.offset = position ∧ record.isReadable Value then
        record :: takeable (succ position) rest succ
      else []

theorem takeable_prefix (position : Nat) (batch : List Record) :
    takeable Value position batch succ <+: batch := by
  induction batch generalizing position with
  | nil => simp [takeable]
  | cons record rest induction =>
      rw [takeable]
      split
      · exact List.prefix_cons_inj record |>.mpr (induction (succ position))
      · exact List.nil_prefix

theorem takeable_consecutive (position : Nat) (batch : List Record) :
    Record.Consecutive succ position (takeable Value position batch succ) := by
  induction batch generalizing position with
  | nil => exact Record.consecutive_nil succ position
  | cons record rest induction =>
      rw [takeable]
      split
      · next fits => exact (Record.consecutive_cons ..).mpr ⟨fits.1, induction (succ position)⟩
      · exact Record.consecutive_nil succ position

theorem takeable_gapless (position : Nat) (batch : List Record) :
    Gapless position (takeable Value position batch) :=
  ((takeable_consecutive Value position batch).counted fun _ _ => rfl).1

theorem takeable_readable (position : Nat) (batch : List Record) :
    ∀ record ∈ takeable Value position batch succ, record.isReadable Value := by
  induction batch generalizing position with
  | nil => simp [takeable]
  | cons record rest induction =>
      rw [takeable]
      split
      · next fits => simpa using ⟨fits.2, induction (succ position)⟩
      · simp

theorem takeable_of_gapless (position : Nat) (batch : List Record)
    (gapless : Gapless position batch) (readable : ∀ record ∈ batch, record.isReadable Value) :
    takeable Value position batch = batch := by
  induction batch generalizing position with
  | nil => rfl
  | cons record rest induction =>
      obtain ⟨atPlace, following⟩ := (Record.gapless_cons ..).mp gapless
      have fits : record.offset = position ∧ record.isReadable Value :=
        ⟨atPlace, readable record List.mem_cons_self⟩
      rw [takeable, if_pos fits, induction _ following fun other member =>
        readable other (List.mem_cons_of_mem _ member)]

theorem takeable_append (position : Nat) (left right : List Record)
    (whole : takeable Value position left succ = left) :
    takeable Value position (left ++ right) succ =
      left ++ takeable Value (succ^[left.length] position) right succ := by
  induction left generalizing position with
  | nil => rfl
  | cons record rest induction =>
      rw [takeable] at whole
      split at whole
      · next fits =>
        rw [List.cons_append, takeable, if_pos fits,
          induction (succ position) (List.cons_inj_right record |>.mp whole)]
        rfl
      · simp at whole

/-- Nothing is taken from the first record on that is not at its place or cannot be read. -/
theorem takeable_length_le {position place : Nat} {records : List Record} {record : Record}
    (found : records[place]? = some record)
    (unfit : ¬(record.offset = succ^[place] position ∧ record.isReadable Value)) :
    (takeable Value position records succ).length ≤ place := by
  by_contra longer
  -- Else the record would itself be among those that are taken.
  have inside : place < (takeable Value position records succ).length := by omega
  have same : (takeable Value position records succ)[place]? = some record := by
    obtain ⟨rest, split⟩ := takeable_prefix Value position records
    have behind : (takeable Value position records succ ++ rest)[place]? =
        (takeable Value position records succ)[place]? := List.getElem?_append_left inside
    rw [split] at behind
    exact behind.symm.trans found
  have atPlace := Record.consecutive_offset (takeable_consecutive Value position records) same
  have readable := takeable_readable Value position records record (List.mem_of_getElem? same)
  exact unfit ⟨atPlace, readable⟩

/-- What stops the loop at a record that it expects at `position`. -/
def stopAt (position : Nat) (record : Record) : StopCause :=
  if record.offset ≠ position then .unexpectedOffset position record.offset
  else .undecodable record.key record.offset

variable {Value}

/-- A record at its place that can be read goes into the snapshot. -/
theorem apply_batch_takes (name : String) (position : Nat) (snapshot : SortedMap String Value)
    (record : Record) (rest : List Record) (atPlace : record.offset = position)
    (readable : record.isReadable Value) :
    applyBatch name position snapshot (record :: rest) succ =
      applyBatch name (succ position) (takeRecord snapshot record) rest succ := by
  cases held : record.value with
  | none => simp [applyBatch, atPlace, held, takeRecord, Record.outcome]
  | some bytes =>
      simp only [Record.isReadable, held] at readable
      obtain ⟨value, decoded⟩ := Option.isSome_iff_exists.mp readable
      simp [applyBatch, atPlace, held, takeRecord, Record.outcome, decoded]

/-- Any other record stops the loop and leaves the snapshot as it is. -/
theorem apply_batch_stops (name : String) (position : Nat) (snapshot : SortedMap String Value)
    (record : Record) (rest : List Record)
    (unfit : ¬(record.offset = position ∧ record.isReadable Value)) :
    applyBatch name position snapshot (record :: rest) succ =
      (snapshot, .error (.stopped name (stopAt position record))) := by
  by_cases atPlace : record.offset = position
  · have unreadable : record.isReadable Value = false := by simpa [atPlace] using unfit
    cases held : record.value with
    | none => simp [Record.isReadable, held] at unreadable
    | some bytes =>
        have undecodable : (decodeValue bytes : Option Value) = none := by
          simpa [Record.isReadable, held] using unreadable
        simp [applyBatch, stopAt, atPlace, held, undecodable]
  · simp [applyBatch, stopAt, atPlace]

/-- A batch goes into the snapshot up to the first record that cannot be taken. If there is one, the
batch ends with its fault, else with the offset behind the batch. -/
theorem apply_batch_eq (name : String) (position : Nat) (snapshot : SortedMap String Value)
    (batch : List Record) :
    applyBatch name position snapshot batch succ =
      (takeRecords snapshot (takeable Value position batch succ),
        match batch.drop (takeable Value position batch succ).length with
        | [] => .ok (succ^[batch.length] position)
        | record :: _ =>
            .error (.stopped name
              (stopAt (succ^[(takeable Value position batch succ).length] position) record))) := by
  induction batch generalizing position snapshot with
  | nil => rfl
  | cons record rest induction =>
      by_cases fits : record.offset = position ∧ record.isReadable Value
      · rw [apply_batch_takes name position snapshot record rest fits.1 fits.2, induction, takeable,
          if_pos fits]
        simp only [List.length_cons, List.drop_succ_cons, Function.iterate_succ_apply]
        rfl
      · rw [apply_batch_stops name position snapshot record rest fits, takeable, if_neg fits]
        rfl

/-- Only what comes behind the offsets of its records matters to a batch. -/
theorem apply_batch_counted (name : String) (position : Nat) (snapshot : SortedMap String Value)
    (batch : List Record) (rising : ∀ record ∈ batch, succ record.offset = record.offset + 1) :
    applyBatch name position snapshot batch succ = applyBatch name position snapshot batch := by
  induction batch generalizing position snapshot with
  | nil => rfl
  | cons record rest induction =>
      have later (other : Record) (member : other ∈ rest) :=
        rising other (List.mem_cons_of_mem record member)
      by_cases fits : record.offset = position ∧ record.isReadable Value
      · have rises := rising record List.mem_cons_self
        rw [fits.1] at rises
        rw [apply_batch_takes name position snapshot record rest fits.1 fits.2,
          apply_batch_takes name position snapshot record rest fits.1 fits.2, rises,
          induction _ _ later]
      · rw [apply_batch_stops name position snapshot record rest fits,
          apply_batch_stops name position snapshot record rest fits]

theorem apply_batch_snapshot (name : String) (position : Nat) (snapshot : SortedMap String Value)
    (batch : List Record) :
    (applyBatch name position snapshot batch succ).1 =
      takeRecords snapshot (takeable Value position batch succ) := by
  rw [apply_batch_eq]

theorem apply_batch_whole (name : String) (position : Nat) (snapshot : SortedMap String Value)
    (batch : List Record) (whole : takeable Value position batch succ = batch) :
    applyBatch name position snapshot batch succ =
      (takeRecords snapshot batch, .ok (succ^[batch.length] position)) := by
  rw [apply_batch_eq, whole, List.drop_length]

theorem apply_batch_broken (name : String) (position : Nat) (snapshot : SortedMap String Value)
    (batch : List Record) (broken : takeable Value position batch succ ≠ batch) :
    ∃ fault, applyBatch name position snapshot batch succ =
      (takeRecords snapshot (takeable Value position batch succ), .error fault) := by
  have isFront : takeable Value position batch succ <+: batch :=
    takeable_prefix Value position batch
  obtain ⟨rest, split⟩ := isFront
  cases rest with
  | nil => exact absurd (by simpa using split) broken
  | cons record rest =>
      have behind : batch.drop (takeable Value position batch succ).length = record :: rest := by
        have dropped := congrArg (List.drop (takeable Value position batch succ).length) split
        rw [List.drop_left] at dropped
        exact dropped.symm
      rw [apply_batch_eq, behind]
      exact ⟨_, rfl⟩

/-- Only a batch that is taken whole ends with an offset. -/
theorem apply_batch_ok {name : String} {position behind : Nat} {snapshot : SortedMap String Value}
    {batch : List Record}
    (applied : (applyBatch name position snapshot batch succ).2 = .ok behind) :
    takeable Value position batch succ = batch ∧ behind = succ^[batch.length] position := by
  by_cases whole : takeable Value position batch succ = batch
  · rw [apply_batch_whole name position snapshot batch whole] at applied
    exact ⟨whole, (Except.ok.inj applied).symm⟩
  · obtain ⟨fault, failed⟩ := apply_batch_broken name position snapshot batch whole
    rw [failed] at applied
    simp at applied

end Store

end BrokerTenancy
