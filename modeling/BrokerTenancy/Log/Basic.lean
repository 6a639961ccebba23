import BrokerTenancy.Log.File
import BrokerTenancy.Log.Scripted

/-!
The logs that a store can stand on, behind one set of operations.
-/

namespace BrokerTenancy

inductive ResourceLog where
  | memory (log : MemoryLog)
  | file (log : FileLog)
  | scripted (log : ScriptedLog)
  deriving Inhabited

namespace ResourceLog

def name : ResourceLog → String
  | .memory log => log.name
  | .file log => log.name
  | .scripted log => log.name

/-- The records that were appended, in order. -/
def records : ResourceLog → List Record
  | .memory log => log.records
  | .file log => log.records
  | .scripted log => log.records

def lowWatermark : ResourceLog → Outcome Nat
  | .memory log => .ok log.lowWatermark
  | .file log => .ok log.lowWatermark
  | .scripted log => log.lowWatermark

def highWatermark : ResourceLog → Outcome Nat
  | .memory log => .ok log.highWatermark
  | .file log => .ok log.highWatermark
  | .scripted log => log.highWatermark

/-- What a read delivers while nothing is appended. -/
def read (offset limit : Nat) : ResourceLog → Outcome (List Record)
  | .memory log => .ok (log.read offset limit)
  | .file log => .ok (log.read offset limit)
  | .scripted log => log.read offset limit

/-- Whether an append is answered before anything else happens. A file takes its time. -/
def answersAtOnce : ResourceLog → Bool
  | .file _ => false
  | _ => true

/-- Appends a record; without an answer if the log never gives one. -/
def append (key : String) (value : Option (List UInt8)) (timestamp : Int) :
    ResourceLog → ResourceLog × Option (Outcome Nat)
  | .memory log =>
      let (grown, answer) := log.append key value timestamp
      (.memory grown, some answer)
  | .file log =>
      let (grown, answer) := log.append key value timestamp .complete
      (.file grown, some answer)
  | .scripted log =>
      let (grown, answer) := log.append key value timestamp
      (.scripted grown, answer)

end ResourceLog

end BrokerTenancy
