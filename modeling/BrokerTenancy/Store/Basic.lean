import BrokerTenancy.Fault
import BrokerTenancy.Json.Reader
import BrokerTenancy.Json.Writer
import BrokerTenancy.Log.Record
import BrokerTenancy.Resource.Json

/-!
A keyed store over a log. One loop writes the snapshot: it asks the log for its watermarks, replays
the records between them, and then follows the log, taking records only at the offset that it
expects. The store serves once the replay is over and as long as nothing stopped it.

The log is not part of the store. Each answer of the log is a `Delivery`, and `Store.deliver` is
the one step that an answer makes, so a run of a store is a list of deliveries and calls.

The loop counts offsets in sixty-four bits. A log that keeps its contract never has a record at the
last of them, because its high watermark is an offset too, so over such a log the loop counts with
`· + 1` and never gets back to zero. Over a log that may answer anything it counts with
`Offset.succ`.
-/

namespace BrokerTenancy

/-- The greatest offset that sixty-four bits hold. -/
def Offset.last : Nat := UInt64.size - 1

/-- The offset behind another one. Behind the last one the count begins at zero again, as it does
where an addition is not checked for overflow. -/
def Offset.succ (offset : Nat) : Nat := if offset = Offset.last then 0 else offset + 1

/-- What bounds the work of a store: times in milliseconds, and the records of one read. -/
structure StoreLimits where
  writeTimeout : Nat := 10000
  initTimeout : Nat := 60000
  pollRecords : Nat := 500
  deriving DecidableEq, Inhabited, Repr

/-- The progress that the loop publishes. -/
structure Status where
  /-- Every record below this offset is in the snapshot. -/
  applied : Nat := 0
  /-- The replay reached the high watermark that the log had at the start. -/
  ready : Bool := false
  /-- How many records the replay took. -/
  replayed : Nat := 0
  /-- Why the store stopped for good. -/
  fatal : Option StopCause := none
  deriving DecidableEq, Inhabited, Repr

def Status.serves (status : Status) : Bool := status.ready && status.fatal.isNone

/-- Where the loop is. -/
inductive LoopStage where
  | askingLow
  | askingHigh (low : Nat)
  | replaying (low position target : Nat)
  | following (position : Nat)
  | ended
  deriving DecidableEq, Repr

/-- An answer of the log to the loop. -/
inductive Delivery where
  | low (answer : Outcome Nat)
  | high (answer : Outcome Nat)
  | batch (answer : Outcome (List Record))

structure Store (Value : Type) where
  name : String
  limits : StoreLimits
  snapshot : SortedMap String Value := .empty
  status : Status := {}
  loop : Option LoopStage := none
  deriving Inhabited

namespace Store

variable {Value : Type}

/-- Starts the loop, unless one was started and not taken away by a shutdown. -/
def start (store : Store Value) : Store Value :=
  match store.loop with
  | none => { store with loop := some .askingLow }
  | some _ => store

/-- Ends the loop and stops the store for good; an earlier cause stays. -/
def shutDown (store : Store Value) : Store Value :=
  { store with
    loop := none
    status := { store.status with fatal := some (store.status.fatal.getD .shutDown) } }

/-- Ends the loop because of a fault. -/
def fail (store : Store Value) (fault : Fault) : Store Value :=
  { store with
    loop := some .ended
    status := { store.status with fatal := some (.other fault.message) } }

/-- Why nothing can be read or written, if so. -/
def ensureServing (store : Store Value) : Outcome Unit :=
  match store.status.fatal with
  | some cause => .error (.stopped store.name cause)
  | none => if store.status.ready then .ok () else .error (.notReady store.name)

def decodeValue [Storable Value] (bytes : List UInt8) : Option Value :=
  (Json.read bytes).bind Storable.decode

def encodeValue [Storable Value] (value : Value) : List UInt8 := (Storable.encode value).write

/-- Takes the records of a batch into a snapshot one after the other, the first at `position` and
each other one at the offset `succ` to the one before. The records in front of one that cannot be
taken stay in the snapshot. -/
def applyBatch [Storable Value] (name : String) (position : Nat)
    (snapshot : SortedMap String Value) (batch : List Record) (succ : Nat → Nat := (· + 1)) :
    SortedMap String Value × Outcome Nat :=
  match batch with
  | [] => (snapshot, .ok position)
  | record :: rest =>
      if record.offset ≠ position then
        (snapshot, .error (.stopped name (.unexpectedOffset position record.offset)))
      else
        match record.value with
        | none => applyBatch name (succ position) (snapshot.erase record.key) rest succ
        | some bytes =>
            match decodeValue bytes with
            | none => (snapshot, .error (.stopped name (.undecodable record.key record.offset)))
            | some value =>
                applyBatch name (succ position) (snapshot.insert record.key value) rest succ

/-- Takes a batch into the snapshot; nothing is published yet. -/
def absorb [Storable Value] (store : Store Value) (position : Nat) (batch : List Record)
    (succ : Nat → Nat := (· + 1)) : Store Value × Outcome Nat :=
  let (snapshot, result) := applyBatch store.name position store.snapshot batch succ
  ({ store with snapshot }, result)

/-- Publishes that every record below an offset is in the snapshot. -/
def publish (store : Store Value) (position : Nat) : Store Value :=
  { store with status := { store.status with applied := position } }

/-- Applies a batch and publishes the new position once, at its end. -/
def takeBatch [Storable Value] (store : Store Value) (position : Nat) (batch : List Record)
    (proceed : Store Value → Nat → Store Value) (succ : Nat → Nat := (· + 1)) : Store Value :=
  if batch.isEmpty then proceed store position
  else
    let (store, result) := store.absorb position batch succ
    match result with
    | .error fault => store.fail fault
    | .ok position => proceed (store.publish position) position

/-- Goes on replaying, or declares the store ready once the target is reached. -/
def replayOn (low target : Nat) (store : Store Value) (position : Nat) : Store Value :=
  if position < target then { store with loop := some (.replaying low position target) }
  else
    { store with
      loop := some (.following position)
      status := { store.status with ready := true, replayed := position - low } }

/-- Goes on following the log. -/
def followOn (store : Store Value) (position : Nat) : Store Value :=
  { store with loop := some (.following position) }

/-- The step that one answer of the log makes. An answer that the loop did not wait for makes
none. -/
def deliver [Storable Value] (store : Store Value) (delivery : Delivery)
    (succ : Nat → Nat := (· + 1)) : Store Value :=
  match store.loop, delivery with
  | some .askingLow, .low (.ok low) => { store with loop := some (.askingHigh low) }
  | some .askingLow, .low (.error fault) => store.fail fault
  | some (.askingHigh low), .high (.ok high) =>
      replayOn low high (store.publish low) low
  | some (.askingHigh _), .high (.error fault) => store.fail fault
  | some (.replaying low position target), .batch (.ok batch) =>
      store.takeBatch position batch (replayOn low target) succ
  | some (.replaying _ _ _), .batch (.error fault) => store.fail fault
  | some (.following position), .batch (.ok batch) => store.takeBatch position batch followOn succ
  | some (.following _), .batch (.error fault) => store.fail fault
  | _, _ => store

def get (store : Store Value) (key : String) : Outcome (Option Value) := do
  store.ensureServing
  return store.snapshot.find? key

def list (store : Store Value) : Outcome (List Value) := do
  store.ensureServing
  return store.snapshot.values

/-- The values that satisfy a test, in key order. -/
def listFiltered (store : Store Value) (test : Value → Bool) : Outcome (List Value) := do
  let values ← store.list
  return values.filter test

/-- The keys and values in key order. -/
def entries (store : Store Value) : Outcome (List (String × Value)) := do
  store.ensureServing
  return store.snapshot.toList

/-- What a caller who waits for the store to be ready learns now, if anything. -/
def readiness (store : Store Value) : Option (Outcome Unit) :=
  match store.status.fatal with
  | some cause => some (.error (.stopped store.name cause))
  | none => if store.status.ready then some (.ok ()) else none

/-- What a caller who waits for the store to be ready learns by the end of the wait. -/
def awaitReady (store : Store Value) : Outcome Unit :=
  store.readiness.getD (.error (.notReady store.name))

end Store

end BrokerTenancy
