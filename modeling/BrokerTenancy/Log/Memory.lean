import BrokerTenancy.Fault
import BrokerTenancy.Log.Record

/-!
A log in memory, and reading it while it grows. A read that finds records answers with them. One
that finds none waits: it is woken when the log grows past its offset, or gives up at its deadline,
and answers with what is there then. A paused log answers with nothing.
-/

namespace BrokerTenancy

structure MemoryLog where
  name : String
  records : List Record := []
  rejecting : Bool := false
  paused : Bool := false
  deriving DecidableEq, Inhabited

namespace MemoryLog

/-- The offset that the next record gets. -/
def highWatermark (log : MemoryLog) : Nat := log.records.length

/-- The earliest offset that can be read. -/
def lowWatermark (_ : MemoryLog) : Nat := 0

/-- Appends a record without asking whether appends are rejected. -/
def push (log : MemoryLog) (key : String) (value : Option (List UInt8)) (timestamp : Int) :
    MemoryLog × Nat :=
  let offset := log.records.length
  ({ log with records := log.records ++ [{ offset, key, value, timestamp }] }, offset)

/-- Appends a record, unless the log rejects appends. -/
def append (log : MemoryLog) (key : String) (value : Option (List UInt8)) (timestamp : Int) :
    MemoryLog × Outcome Nat :=
  if log.rejecting then (log, .error (.write log.name .logUnavailable))
  else
    let (grown, offset) := log.push key value timestamp
    (grown, .ok offset)

/-- What a read answers with at this moment. -/
def available (log : MemoryLog) (offset limit : Nat) : List Record :=
  if log.paused then [] else Record.slice log.records offset limit

/-- A read under way. -/
inductive Read where
  /-- The log was paused when the read began: it will answer with nothing at its deadline. -/
  | idle
  /-- There was nothing at the offset: it waits for the log to grow past it. -/
  | waiting (offset limit : Nat)
  | answered (batch : List Record)
  deriving DecidableEq, Repr

def beginRead (log : MemoryLog) (offset limit : Nat) : Read :=
  if log.paused then .idle
  else
    match Record.slice log.records offset limit with
    | [] => .waiting offset limit
    | batch => .answered batch

/-- Whether a waiting read wakes before its deadline. -/
def wakes (log : MemoryLog) : Read → Bool
  | .waiting offset _ => offset < log.highWatermark
  | _ => false

/-- Ends a read: a waiting one because it was woken or because its deadline came, an idle one at
its deadline. -/
def endRead (log : MemoryLog) : Read → List Record
  | .idle => []
  | .waiting offset limit => log.available offset limit
  | .answered batch => batch

/-- A read while nothing else happens. -/
def read (log : MemoryLog) (offset limit : Nat) : List Record :=
  log.endRead (log.beginRead offset limit)

end MemoryLog

end BrokerTenancy
