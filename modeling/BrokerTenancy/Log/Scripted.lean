import BrokerTenancy.Log.Memory

/-!
A log in memory whose answers can be bent: watermarks that are off or fail, appends that are
rejected, fail or never answer, and reads that deliver nothing or fail. It shows a store every
behaviour that a log may have.
-/

namespace BrokerTenancy

inductive AppendMode where
  | accept
  | reject
  | fail
  | hang
  deriving DecidableEq, Inhabited, Repr

inductive ReadMode where
  | deliver
  | pause
  | fail
  deriving DecidableEq, Inhabited, Repr

/-- The watermark call that fails, if any. -/
inductive Watermark where
  | low
  | high
  deriving DecidableEq, Inhabited, Repr

structure ScriptedLog where
  name : String
  records : List Record := []
  /-- The low watermark that is reported. -/
  low : Nat := 0
  /-- Reads below this offset start at it. -/
  first : Nat := 0
  /-- What the high watermark is reported too high by. -/
  extraHigh : Nat := 0
  failing : Option Watermark := none
  appendMode : AppendMode := .accept
  readMode : ReadMode := .deliver
  deriving DecidableEq, Inhabited

namespace ScriptedLog

/-- The failure of a call, named by the call. -/
def failure (call : String) : Fault := .brokerUnavailable "log" (.other call)

def lowWatermark (log : ScriptedLog) : Outcome Nat :=
  if log.failing = some .low then .error (failure "low") else .ok log.low

def highWatermark (log : ScriptedLog) : Outcome Nat :=
  if log.failing = some .high then .error (failure "high")
  else .ok (log.records.length + log.extraHigh)

def read (log : ScriptedLog) (offset limit : Nat) : Outcome (List Record) :=
  match log.readMode with
  | .deliver => .ok (Record.slice log.records (max offset log.first) limit)
  | .pause => .ok []
  | .fail => .error (failure "read")

/-- Appends a record whatever the mode. -/
def push (log : ScriptedLog) (key : String) (value : Option (List UInt8)) (timestamp : Int) :
    ScriptedLog × Nat :=
  let offset := log.records.length
  ({ log with records := log.records ++ [{ offset, key, value, timestamp }] }, offset)

/-- Appends a record as the mode says; without an answer if it hangs. -/
def append (log : ScriptedLog) (key : String) (value : Option (List UInt8)) (timestamp : Int) :
    ScriptedLog × Option (Outcome Nat) :=
  match log.appendMode with
  | .accept =>
      let (grown, offset) := log.push key value timestamp
      (grown, some (.ok offset))
  | .reject => (log, some (.error (.write log.name .logUnavailable)))
  | .fail => (log, some (.error (failure "append")))
  | .hang => (log, none)

end ScriptedLog

end BrokerTenancy
