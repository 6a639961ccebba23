import BrokerTenancy.Log.Basic
import BrokerTenancy.Store.Write

/-!
A store together with the log it stands on. `settle` lets the loop take what the log delivers at
the moment; the calls append to the log, let the loop settle and then read the result, so they
show what a caller sees that waits as long as it may. A caller that may not wait at all looks once,
before the loop has run.
-/

namespace BrokerTenancy

structure HostedStore (Value : Type) where
  store : Store Value
  log : ResourceLog

namespace HostedStore

variable {Value : Type} [Storable Value]

/-- A store that is not started. -/
def create (log : ResourceLog) (limits : StoreLimits) : HostedStore Value :=
  { store := { name := log.name, limits }, log }

/-- What the log answers to the loop where it stands; none if the loop asks nothing. -/
def nextDelivery (hosted : HostedStore Value) : Option Delivery :=
  match hosted.store.loop with
  | some .askingLow => some (.low hosted.log.lowWatermark)
  | some (.askingHigh _) => some (.high hosted.log.highWatermark)
  | some (.replaying _ position _) | some (.following position) =>
      some (.batch (hosted.log.read position hosted.store.limits.pollRecords))
  | some .ended | none => none

/-- Whether an answer moves the loop. -/
def moves : Delivery → Bool
  | .batch (.ok []) => false
  | _ => true

/-- Lets the loop take answers until one does not move it. -/
def settleFor : Nat → HostedStore Value → HostedStore Value
  | 0, hosted => hosted
  | steps + 1, hosted =>
      match hosted.nextDelivery with
      | none => hosted
      | some delivery =>
          if moves delivery then
            settleFor steps { hosted with store := hosted.store.deliver delivery }
          else hosted

/-- Two watermarks and a record a read are the most that the loop can take. -/
def settle (hosted : HostedStore Value) : HostedStore Value :=
  settleFor (hosted.log.records.length + 3) hosted

/-- Starts the loop, which has not run yet. -/
def launch (hosted : HostedStore Value) : HostedStore Value :=
  { hosted with store := hosted.store.start }

def start (hosted : HostedStore Value) : HostedStore Value := hosted.launch.settle

/-- Opens a store: starts it and waits until it is ready. -/
def openOn (log : ResourceLog) (limits : StoreLimits) : HostedStore Value × Outcome Unit :=
  let launched := (create log limits : HostedStore Value).launch
  let opened := launched.settle
  let seen := if limits.initTimeout = 0 then launched else opened
  (opened, seen.store.awaitReady)

/-- Begins a write: the record is appended and the loop has not run. -/
def beginWrite (hosted : HostedStore Value) (key : String) (value : Option (List UInt8))
    (now : Int) : HostedStore Value × Write :=
  match Write.begin hosted.store with
  | .appending =>
      let (log, answer) := hosted.log.append key value now
      let inTime := hosted.log.answersAtOnce || 0 < hosted.store.limits.writeTimeout
      ({ hosted with log }, match answer with
        | some answer =>
            if inTime then Write.appending.logAnswered hosted.store answer else .appending
        | none => .appending)
  | write => (hosted, write)

/-- The result of a write that has begun, for a caller who waits as long as it may. -/
def writeResult (begun settled : HostedStore Value) (write : Write) : Outcome Unit :=
  write.result (if begun.store.limits.writeTimeout = 0 then begun.store else settled.store)

/-- Appends a record, or a tombstone, and waits until the store reflects it. -/
def write (hosted : HostedStore Value) (key : String) (value : Option (List UInt8)) (now : Int) :
    HostedStore Value × Outcome Unit :=
  let (begun, write) := hosted.beginWrite key value now
  let settled := begun.settle
  (settled, writeResult begun settled write)

/-- Begins writes one after the other and lets them all wait together. -/
def writeMany (hosted : HostedStore Value) (writes : List (String × Option (List UInt8)))
    (now : Int) : HostedStore Value × List (Outcome Unit) :=
  let (begun, pending) := writes.foldl (fun (state : HostedStore Value × List Write) item =>
    let (next, write) := state.1.beginWrite item.1 item.2 now
    (next, write :: state.2)) (hosted, [])
  let settled := begun.settle
  (settled, pending.reverse.map (writeResult begun settled))

def put (hosted : HostedStore Value) (key : String) (value : Value) (now : Int) :
    HostedStore Value × Outcome Value :=
  let (next, result) := hosted.write key (some (Store.encodeValue value)) now
  (next, result.map fun _ => value)

def delete (hosted : HostedStore Value) (key : String) (now : Int) :
    HostedStore Value × Outcome Unit :=
  hosted.write key none now

def shutDown (hosted : HostedStore Value) : HostedStore Value :=
  { hosted with store := hosted.store.shutDown }

end HostedStore

end BrokerTenancy
